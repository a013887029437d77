import Depot.Proofs.Collecting
import Depot.Proofs.DigitRuns
import Depot.Proofs.Dumping
import Depot.Proofs.Filters

/-!
# Typed values in arguments

Arguments that give names the JSON texts of values are read as those values, each of the type that
it has. A text that is not the JSON text of a string, a number, true or false stands for itself.
-/

namespace Depot.Command

/-! ## Single texts -/

/-- What a text stands for: the value that it is the JSON text of with blanks around it, or else
itself. Only a text with more digits in a row than are read may be refused. -/
structure StandsFor (raw : Text) (answer : Except Failure Datum) : Prop where
  scalar {value : Datum} (written : Json.ScalarText (Json.stripBlanks raw.symbols) value) :
    answer = .ok value
  other (noScalar : ∀ value, ¬ Json.ScalarText (Json.stripBlanks raw.symbols) value) :
    answer = .ok (.text raw) ∨
      ∃ count, Json.HasLongRun raw.symbols count ∧ answer = .error (.digits count)

/-- The text of a scalar, with blanks around it, stands for the scalar. -/
theorem readValue_of_scalarText {raw : Text} {value : Datum}
    (written : Json.ScalarText (Json.stripBlanks raw.symbols) value) :
    readValue raw = .ok value := by
  have read : Json.read raw = .ok value := Json.readDocument_of_text written
  rw [readValue, read]
  generalize Json.stripBlanks raw.symbols = text at written
  cases written with
  | number written => cases written <;> rfl
  | string | boolean | notANumber | infinity => rfl

/-- A text stands for the scalar that it is the text of, or for itself. -/
theorem standsFor_readValue (raw : Text) : StandsFor raw (readValue raw) where
  scalar written := readValue_of_scalarText written
  other noScalar := by
    cases read : Json.read raw with
    | error error =>
      cases error with
      | malformed fault position =>
        rw [readValue, read]
        exact .inl rfl
      | tooManyDigits count =>
        rw [readValue, read]
        exact .inr ⟨count, Json.hasLongRun_of_read read, rfl⟩
    | ok value =>
      have noOther := noScalar value
      rw [readValue, read]
      cases value with
      | null | bytes | sequence | record => exact .inl rfl
      | boolean | integer | real | text =>
        exact absurd (Json.text_of_readDocument read nofun nofun nofun) noOther

/-! ## Lists of arguments -/

/-- An argument gives the name of a field the JSON text of its value. -/
def Dumps (argument : Text) (entry : Text × FieldValue) : Prop :=
  ∃ text, entry.2.dump? = some text ∧
    argument.symbols = entry.1.symbols ++ pairSign :: (Text.ofString text).symbols

/-- Fields that arguments can give: distinct names without an equals sign that are not empty, and
numbers whose texts are read as these numbers. -/
structure CanBeGiven (entries : List (Text × FieldValue)) : Prop where
  distinct : (entries.map Prod.fst).Nodup
  named : ∀ entry ∈ entries, entry.1.symbols ≠ [] ∧ pairSign ∉ entry.1.symbols
  readsBack : ∀ entry ∈ entries, entry.2.ReadsBack

/-- Arguments are read as the fields that they give, of the same types and in the same order. Only
halves of a pair that meet in a text come back as the character that they stand for. -/
structure ComesBack (option : String) (arguments : List Text)
    (entries : List (Text × FieldValue)) : Prop where
  joined : readPairs option arguments =
    .ok (entries.map fun entry => (entry.1, entry.2.joined.toDatum))
  unchanged (apart : ∀ entry ∈ entries, entry.2.HasNoPair) :
    readPairs option arguments = .ok (entries.map fun entry => (entry.1, entry.2.toDatum))

section

variable {arguments : List Text} {entries : List (Text × FieldValue)}

/-- An argument gives a name the value whose JSON text it holds. -/
theorem Dumps.givesPair {argument : Text} {entry : Text × FieldValue}
    (dumps : Dumps argument entry) (named : entry.1.symbols ≠ [] ∧ pairSign ∉ entry.1.symbols)
    (readsBack : entry.2.ReadsBack) : GivesPair argument (entry.1, entry.2.joined.toDatum) := by
  obtain ⟨text, dumped, isArgument⟩ := dumps
  have written := FieldValue.scalarText_of_dump? dumped readsBack
  rw [← written.stripBlanks_eq] at written
  exact ⟨Text.ofString text, isArgument, named.1, named.2, readValue_of_scalarText written⟩

/-- Arguments give the names of fields their values. -/
theorem forall₂_givesPair (dumps : List.Forall₂ Dumps arguments entries)
    (named : ∀ entry ∈ entries, entry.1.symbols ≠ [] ∧ pairSign ∉ entry.1.symbols)
    (readsBack : ∀ entry ∈ entries, entry.2.ReadsBack) :
    List.Forall₂ GivesPair arguments
      (entries.map fun entry => (entry.1, entry.2.joined.toDatum)) := by
  induction dumps with
  | nil => exact .nil
  | cons first _ inductionHypothesis =>
    rw [List.forall_mem_cons] at named readsBack
    exact .cons (first.givesPair named.1 readsBack.1) (inductionHypothesis named.2 readsBack.2)

/-- Arguments that give fields the JSON texts of their values are read as these values. -/
theorem comesBack_of_dumps (fields : CanBeGiven entries)
    (dumps : List.Forall₂ Dumps arguments entries) (option : String) :
    ComesBack option arguments entries := by
  have names :
      ((entries.map fun entry => (entry.1, entry.2.joined.toDatum)).map Prod.fst).Nodup := by
    rw [List.map_map]
    exact fields.distinct
  have joined : readPairs option arguments =
      .ok (entries.map fun entry => (entry.1, entry.2.joined.toDatum)) :=
    (readPairs_eq_ok_iff _ _ _).mpr ⟨_, forall₂_givesPair dumps fields.named fields.readsBack,
      (collectEntries_of_nodup names).symm⟩
  refine ⟨joined, fun apart => ?_⟩
  rw [joined, List.map_congr_left fun entry member => by
    rw [FieldValue.joined_eq_self (apart entry member)]]

end

/-- Arguments that give fields the JSON texts of their values are read as these fields, and any text
stands for the scalar that it is the JSON text of, or for itself. -/
theorem comesBack_and_standsFor {arguments : List Text} {entries : List (Text × FieldValue)}
    (fields : CanBeGiven entries) (dumps : List.Forall₂ Dumps arguments entries)
    (option : String) (raw : Text) :
    ComesBack option arguments entries ∧ StandsFor raw (readValue raw) :=
  ⟨comesBack_of_dumps fields dumps option, standsFor_readValue raw⟩

/-- Fields of all four types. -/
def fourFields : List (Text × FieldValue) :=
  [("title", .text (Text.ofString "a=\"b\"\n")), ("count", .integer (-12)),
    ("ratio", .real (.ofRatio false 3 2)), ("open", .boolean true)]

/-- Arguments that give these fields the JSON texts of their values. -/
def fourArguments : List Text :=
  ["title=\"a=\\\"b\\\"\\n\"", "count=-12", "ratio=1.5", "open=true"]

theorem canBeGiven_fourFields : CanBeGiven fourFields where
  distinct := by decide
  named := by decide
  readsBack := by
    have ratio : FieldValue.ReadsBack (.real (.ofRatio false 3 2)) :=
      ⟨by decide +kernel, by decide +kernel⟩
    simp only [fourFields, List.forall_mem_cons]
    exact ⟨trivial, trivial, ratio, trivial, List.forall_mem_nil _⟩

theorem dumps_fourFields : List.Forall₂ Dumps fourArguments fourFields := by
  refine .cons ⟨"\"a=\\\"b\\\"\\n\"", ?_, by decide⟩ (.cons ⟨"-12", ?_, by decide⟩
    (.cons ⟨"1.5", ?_, by decide⟩ (.cons ⟨"true", ?_, by decide⟩ .nil)))
  all_goals decide +kernel

/-- Fields of all four types come back from their arguments, and null stands for its text. -/
theorem comesBack_and_standsFor_fourFields :
    CanBeGiven fourFields ∧ List.Forall₂ Dumps fourArguments fourFields ∧
      ComesBack fieldOption fourArguments fourFields ∧ StandsFor " null" (readValue " null") :=
  ⟨canBeGiven_fourFields, dumps_fourFields,
    comesBack_and_standsFor canBeGiven_fourFields dumps_fourFields fieldOption " null"⟩

/-- A text of the two halves of a pair. -/
def pairOfHalves : List (Text × FieldValue) := [("a", .text ⟨[.ofCode 0xD83D, .ofCode 0xDE00]⟩)]

/-- The character that these halves stand for, under the same name. -/
def smile : List (Text × Datum) := [("a", .text (Text.ofString "😀"))]

/-- The two halves of a pair come back from their argument as one character. -/
theorem readPairs_pairOfHalves :
    CanBeGiven pairOfHalves ∧ List.Forall₂ Dumps ["a=\"\\ud83d\\ude00\""] pairOfHalves ∧
      readPairs fieldOption ["a=\"\\ud83d\\ude00\""] = .ok smile ∧
      pairOfHalves.map (fun entry => (entry.1, entry.2.toDatum)) ≠ smile := by
  have fields : CanBeGiven pairOfHalves :=
    ⟨by decide, by decide, List.forall_mem_singleton.mpr trivial⟩
  have dumps : List.Forall₂ Dumps ["a=\"\\ud83d\\ude00\""] pairOfHalves :=
    .cons ⟨"\"\\ud83d\\ude00\"", by decide +kernel, by decide⟩ .nil
  refine ⟨fields, dumps, ?_, ?_⟩
  · have joined :
        Symbol.joinHalves [.ofCode 0xD83D, .ofCode 0xDE00] = (Text.ofString "😀").symbols := by
      decide +kernel
    rw [(comesBack_of_dumps fields dumps fieldOption).joined]
    show Except.ok [((Text.ofString "a"),
      Datum.text ⟨Symbol.joinHalves [.ofCode 0xD83D, .ofCode 0xDE00]⟩)] = _
    rw [joined]
    rfl
  · intro same
    have sameText := Datum.text.inj (congrArg Prod.snd (List.cons.inj same).1)
    exact absurd sameText (by decide +kernel)

end Depot.Command
