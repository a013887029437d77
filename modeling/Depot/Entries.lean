/-!
# Entries by key

Small ordered tables as lists of keys with values. A look-up takes the first entry of a
key; inserting keeps the place of a key that is present and puts a new key at the end.
-/

namespace Depot

variable {κ α : Type} [DecidableEq κ]

/-- Gives a key a value: a key that is present keeps its place. -/
def insertEntry (key : κ) (value : α) : List (κ × α) → List (κ × α)
  | [] => [(key, value)]
  | (present, old) :: rest =>
    if present = key then (key, value) :: rest
    else (present, old) :: insertEntry key value rest

/-- Collects entries in order; a key that comes again keeps its first place and takes the
last value. -/
def collectEntries (entries : List (κ × α)) : List (κ × α) :=
  entries.foldl (fun collected entry => insertEntry entry.1 entry.2 collected) []

/-- The value of a key. -/
def valueOf? (key : κ) : List (κ × α) → Option α
  | [] => none
  | (present, value) :: rest => if present = key then some value else valueOf? key rest

/-- Removes every entry of a key. -/
def eraseEntry (key : κ) (entries : List (κ × α)) : List (κ × α) :=
  entries.filter fun entry => entry.1 ≠ key

/-- Inserting an entry makes its value the value of its key. -/
theorem valueOf?_insertEntry_self (key : κ) (value : α) (entries : List (κ × α)) :
    valueOf? key (insertEntry key value entries) = some value := by
  induction entries with
  | nil => simp [insertEntry, valueOf?]
  | cons entry rest inductionHypothesis =>
    obtain ⟨present, old⟩ := entry
    by_cases same : present = key <;> simp [insertEntry, valueOf?, same, inductionHypothesis]

/-- Inserting an entry leaves the values of all other keys. -/
theorem valueOf?_insertEntry_of_ne {key other : κ} (different : key ≠ other)
    (value : α) (entries : List (κ × α)) :
    valueOf? other (insertEntry key value entries) = valueOf? other entries := by
  induction entries with
  | nil => simp [insertEntry, valueOf?, different]
  | cons entry rest inductionHypothesis =>
    obtain ⟨present, old⟩ := entry
    by_cases same : present = key
    · subst same
      simp [insertEntry, valueOf?, different]
    · simp [insertEntry, valueOf?, same, inductionHypothesis]

/-- An erased key has no value. -/
theorem valueOf?_eraseEntry_self (key : κ) (entries : List (κ × α)) :
    valueOf? key (eraseEntry key entries) = none := by
  induction entries with
  | nil => rfl
  | cons entry rest inductionHypothesis =>
    obtain ⟨present, value⟩ := entry
    by_cases same : present = key
    · simpa [eraseEntry, same] using inductionHypothesis
    · simpa [eraseEntry, same, valueOf?] using inductionHypothesis

/-- Erasing a key leaves the values of all other keys. -/
theorem valueOf?_eraseEntry_of_ne {key other : κ} (different : key ≠ other)
    (entries : List (κ × α)) :
    valueOf? other (eraseEntry key entries) = valueOf? other entries := by
  induction entries with
  | nil => rfl
  | cons entry rest inductionHypothesis =>
    obtain ⟨present, value⟩ := entry
    by_cases same : present = key
    · subst same
      simpa [eraseEntry, valueOf?, different] using inductionHypothesis
    · have kept : eraseEntry key ((present, value) :: rest) =
          (present, value) :: eraseEntry key rest := by simp [eraseEntry, same]
      simp only [kept, valueOf?, inductionHypothesis]

end Depot
