import Depot.Entries
import Mathlib.Data.List.Induction
import Mathlib.Data.List.Nodup

/-!
# Collecting entries

Entries that are collected have distinct keys, and a key has the value that it was given last.
Entries whose keys are distinct already stay as they are.
-/

namespace Depot

variable {κ α : Type} [DecidableEq κ]

/-- An entry with a new key is put at the end. -/
theorem insertEntry_of_not_mem {key : κ} {entries : List (κ × α)}
    (fresh : key ∉ entries.map Prod.fst) (value : α) :
    insertEntry key value entries = entries ++ [(key, value)] := by
  induction entries with
  | nil => rfl
  | cons entry rest inductionHypothesis =>
    rw [List.map_cons, List.mem_cons, not_or] at fresh
    rw [insertEntry, if_neg (Ne.symm fresh.1), inductionHypothesis fresh.2, List.cons_append]

/-- An entry with a key that is present leaves the keys as they are. -/
theorem map_fst_insertEntry_of_mem {key : κ} {entries : List (κ × α)}
    (present : key ∈ entries.map Prod.fst) (value : α) :
    (insertEntry key value entries).map Prod.fst = entries.map Prod.fst := by
  induction entries with
  | nil => cases present
  | cons entry rest inductionHypothesis =>
    rw [insertEntry]
    split
    · rename_i same
      rw [List.map_cons, List.map_cons, same]
    · rename_i different
      have inRest := (List.mem_cons.mp present).resolve_left (Ne.symm different)
      rw [List.map_cons, List.map_cons, inductionHypothesis inRest]

/-- Inserting an entry keeps the keys distinct. -/
theorem nodup_insertEntry {entries : List (κ × α)} (distinct : (entries.map Prod.fst).Nodup)
    (key : κ) (value : α) : ((insertEntry key value entries).map Prod.fst).Nodup := by
  by_cases present : key ∈ entries.map Prod.fst
  · rw [map_fst_insertEntry_of_mem present]
    exact distinct
  · rw [insertEntry_of_not_mem present, List.map_append, List.map_singleton,
      ← List.concat_eq_append]
    exact distinct.concat present

/-- Entries are collected one after the other. -/
theorem collectEntries_concat (entries : List (κ × α)) (entry : κ × α) :
    collectEntries (entries ++ [entry]) =
      insertEntry entry.1 entry.2 (collectEntries entries) := by
  rw [collectEntries, List.foldl_append, List.foldl_cons, List.foldl_nil, ← collectEntries]

/-- Collected entries have distinct keys. -/
theorem nodup_collectEntries (entries : List (κ × α)) :
    ((collectEntries entries).map Prod.fst).Nodup := by
  induction entries using List.reverseRecOn with
  | nil => exact .nil
  | append_singleton earlier entry inductionHypothesis =>
    rw [collectEntries_concat]
    exact nodup_insertEntry inductionHypothesis entry.1 entry.2

/-- A collected key has the value that it was given last. -/
theorem valueOf?_collectEntries (key : κ) (entries : List (κ × α)) :
    valueOf? key (collectEntries entries) = valueOf? key entries.reverse := by
  induction entries using List.reverseRecOn with
  | nil => rfl
  | append_singleton earlier entry inductionHypothesis =>
    rw [collectEntries_concat, List.reverse_concat, valueOf?]
    split
    · rename_i same
      rw [same]
      exact valueOf?_insertEntry_self key entry.2 _
    · rename_i different
      rw [valueOf?_insertEntry_of_ne different, inductionHypothesis]

/-- Entries with distinct keys stay as they are. -/
theorem collectEntries_of_nodup {entries : List (κ × α)}
    (distinct : (entries.map Prod.fst).Nodup) : collectEntries entries = entries := by
  induction entries using List.reverseRecOn with
  | nil => rfl
  | append_singleton earlier entry inductionHypothesis =>
    rw [List.map_append, List.map_singleton, List.nodup_append] at distinct
    obtain ⟨earlierDistinct, -, apart⟩ := distinct
    have fresh : entry.1 ∉ earlier.map Prod.fst :=
      fun present => apart _ present _ (List.mem_singleton_self _) rfl
    rw [collectEntries_concat, inductionHypothesis earlierDistinct, insertEntry_of_not_mem fresh]

/-- The value of a key stands in an entry. -/
theorem mem_of_valueOf? {key : κ} {value : α} {entries : List (κ × α)}
    (found : valueOf? key entries = some value) : (key, value) ∈ entries := by
  induction entries with
  | nil => cases found
  | cons entry rest inductionHypothesis =>
    rw [valueOf?] at found
    split at found
    · rename_i same
      cases found
      rw [← same]
      exact List.mem_cons_self
    · exact List.mem_cons_of_mem _ (inductionHypothesis found)

/-- Where keys are distinct, the value of a key is the one of its entry. -/
theorem valueOf?_eq_some_iff {entries : List (κ × α)}
    (distinct : (entries.map Prod.fst).Nodup) {key : κ} {value : α} :
    valueOf? key entries = some value ↔ (key, value) ∈ entries := by
  refine ⟨mem_of_valueOf?, fun member => ?_⟩
  induction entries with
  | nil => cases member
  | cons entry rest inductionHypothesis =>
    rw [List.map_cons, List.nodup_cons] at distinct
    rw [valueOf?]
    rcases List.mem_cons.mp member with rfl | inRest
    · exact if_pos rfl
    · have different : entry.1 ≠ key :=
        fun same => distinct.1 (List.mem_map.mpr ⟨_, inRest, same.symm⟩)
      rw [if_neg different]
      exact inductionHypothesis distinct.2 inRest

/-- Where earlier entries relate to later ones, the value of a key is that of the entry, or its
entry relates to the entry. -/
theorem exists_valueOf?_of_pairwise {related : κ × α → κ × α → Prop} {entries : List (κ × α)}
    (pairwise : entries.Pairwise related) {key : κ} {value : α} (member : (key, value) ∈ entries) :
    ∃ first, valueOf? key entries = some first ∧
      (first = value ∨ related (key, first) (key, value)) := by
  induction pairwise with
  | nil => cases member
  | @cons entry rest toRest later inductionHypothesis =>
    rw [valueOf?]
    rcases List.mem_cons.mp member with rfl | inRest
    · exact ⟨value, if_pos rfl, .inl rfl⟩
    · by_cases same : entry.1 = key
      · refine ⟨entry.2, if_pos same, .inr ?_⟩
        rw [← same] at inRest ⊢
        exact toRest _ inRest
      · rw [if_neg same]
        exact inductionHypothesis inRest

end Depot
