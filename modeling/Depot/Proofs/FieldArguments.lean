import Depot.Proofs.FilingAtOnce
import Depot.Proofs.Filters
import Depot.Proofs.Validity

/-!
# Field arguments of a command

The fields of a document are given as arguments, one for each field. The arguments are collected by
name before the fields are made, so the rule that field names are distinct cannot be broken by then:
of several arguments with one name only the last one becomes a field. The promise that every
argument becomes a field, or the arguments are refused, is kept by arguments with distinct names.
-/

namespace Depot

namespace Field

/-- Fields of distinct entries are collected from these entries. -/
theorem collect_entries {fields : List Field} (distinctNames : (fields.map name).Nodup) :
    collect (some (.mapping (fields.map entry))) = .ok fields := by
  have made : (fields.map entry).mapM (fun entry => make entry.1 entry.2) = .ok fields := by
    rw [List.mapM_map]
    apply mapM_of_forall₂
    induction fields with
    | nil => exact .nil
    | cons field rest inductionHypothesis =>
      exact .cons field.make_self (inductionHypothesis (List.nodup_cons.mp distinctNames).2)
  have noneRepeated : repeatedName? [] fields = none := by
    simpa [repeatedName?_eq_none_iff] using distinctNames
  rw [collect, made]
  change distinct fields = .ok fields
  rw [distinct, noneRepeated]

end Field

/-- Options are built exactly when their fields are collected. -/
theorem IndexOptions.build_eq_ok_iff (documentId contentType : Option Text)
    (source : Option Field.Source) (options : IndexOptions) :
    build documentId contentType source = .ok options ↔
      ∃ fields, Field.collect source = .ok fields ∧
        options = ⟨documentId.filter (!·.isEmpty), contentType, fields⟩ := by
  rw [build]
  cases Field.collect source with
  | error error => simp [bind, Except.bind]
  | ok fields => simp [bind, Except.bind, eq_comm]

namespace Command

/-- The name that an argument gives: what stands before the first equals sign. -/
def argumentName (argument : Text) : Text := ⟨argument.symbols.takeWhile (· ≠ pairSign)⟩

/-- An argument gives a pair under its name. -/
theorem GivesPair.argumentName_eq {argument : Text} {pair : Text × Datum}
    (gives : GivesPair argument pair) : argumentName argument = pair.1 := by
  obtain ⟨text, isGiven, -, free, -⟩ := gives
  have passed : ∀ symbol ∈ pair.1.symbols, decide (symbol ≠ pairSign) = true := by
    intro symbol member
    exact decide_eq_true fun isSign => free (isSign ▸ member)
  rw [argumentName, isGiven, List.takeWhile_append_of_pos passed]
  simp

/-- Arguments give pairs under their names. -/
theorem map_argumentName {arguments : List Text} {pairs : List (Text × Datum)}
    (given : List.Forall₂ GivesPair arguments pairs) :
    arguments.map argumentName = pairs.map Prod.fst := by
  induction given with
  | nil => rfl
  | cons gives later inductionHypothesis => simp [gives.argumentName_eq, inductionHypothesis]

/-- The entry that a pair stands for. -/
def entryOf (pair : Text × Datum) : Datum × Datum := (.text pair.1, pair.2)

/-- A field is the one that an argument asks for: it has the name and the value that the argument
gives. -/
def IsFieldOf (argument : Text) (field : Field) : Prop :=
  ∃ pair, GivesPair argument pair ∧ field.entry = entryOf pair

/-- A field has the name of the argument that asks for it. -/
theorem IsFieldOf.name_eq {argument : Text} {field : Field} (asked : IsFieldOf argument field) :
    field.name = argumentName argument := by
  obtain ⟨pair, gives, same⟩ := asked
  rw [gives.argumentName_eq]
  simpa [Field.entry, entryOf] using congrArg Prod.fst same

/-- Fields have the names of the arguments that ask for them. -/
theorem map_name_of_isFieldOf {arguments : List Text} {fields : List Field}
    (asked : List.Forall₂ IsFieldOf arguments fields) :
    fields.map Field.name =
      arguments.map argumentName := by
  induction asked with
  | nil => rfl
  | cons first later inductionHypothesis => simp [first.name_eq, inductionHypothesis]

/-- Arguments ask for the fields that have the entries of their pairs. -/
theorem areFieldsOf {arguments : List Text} {pairs : List (Text × Datum)}
    (given : List.Forall₂ GivesPair arguments pairs) {fields : List Field}
    (same : fields.map Field.entry = pairs.map entryOf) :
    List.Forall₂ IsFieldOf arguments fields := by
  induction given generalizing fields with
  | nil =>
    obtain rfl : fields = [] := by simpa using same
    exact .nil
  | cons gives later inductionHypothesis =>
    obtain ⟨field, rest, rfl, isEntry, areEntries⟩ := List.map_eq_cons_iff.mp same
    exact .cons ⟨_, gives, isEntry⟩ (inductionHypothesis areEntries)

/-- Fields of collected entries have distinct names. -/
theorem nodup_map_name {fields : List Field} {pairs : List (Text × Datum)}
    (same : fields.map Field.entry = (collectEntries pairs).map entryOf) :
    (fields.map Field.name).Nodup := by
  have names : (fields.map Field.name).map Datum.text =
      ((collectEntries pairs).map Prod.fst).map Datum.text := by
    simpa [Field.entry, entryOf, Function.comp_def] using congrArg (List.map Prod.fst) same
  apply List.Nodup.of_map Datum.text
  rw [names]
  apply (nodup_collectEntries pairs).map
  intro left right sameName
  simpa using sameName

/-- The arguments are refused as values of the option for fields. -/
def RefusesFields (result : Except CommandError IndexOptions) : Prop :=
  ∃ message, result = .error (.argument ⟨message, fieldOption⟩)

/-- The options have one field for each argument, in the order of the arguments. -/
def KeepsFields (arguments : List Text) (result : Except CommandError IndexOptions) : Prop :=
  ∃ options, result = .ok options ∧ List.Forall₂ IsFieldOf arguments options.fields

/-- What options promise of the arguments for fields: the arguments are refused, or every one of
them becomes a field. -/
def TakesFields (arguments : List Text) (result : Except CommandError IndexOptions) : Prop :=
  RefusesFields result ∨ KeepsFields arguments result

/-- What stops the reading of an argument is told of its option, or is a failure of its value. -/
theorem of_readPair_error {option : String} {argument : Text} {error : CommandError}
    (failed : readPair option argument = .error error) :
    (∃ message, error = .argument ⟨message, option⟩) ∨ ∃ failure, error = .failure failure := by
  rw [readPair] at failed
  split at failed
  · cases failed
    exact .inl ⟨_, rfl⟩
  · split at failed
    · cases failed
      exact .inr ⟨_, rfl⟩
    · cases failed

/-- What stops the reading of arguments stops the reading of one of them. -/
theorem exists_readPair_error {option : String} {arguments : List Text} {error : CommandError}
    (failed : readPairs option arguments = .error error) :
    ∃ argument ∈ arguments, readPair option argument = .error error := by
  cases read : arguments.mapM (readPair option) with
  | ok pairs => simp [readPairs_eq, read, Except.map] at failed
  | error fault =>
    obtain rfl : fault = error := by simpa [readPairs_eq, read, Except.map] using failed
    have first : refusal? (arguments.mapM (readPair option)) =
        arguments.findSome? fun argument => refusal? (readPair option argument) :=
      refusal?_mapM fun _ _ => rfl
    rw [read, refusal?, eq_comm] at first
    obtain ⟨argument, member, stopped⟩ := List.exists_of_findSome?_eq_some first
    exact ⟨argument, member, refusal?_eq_some_iff.mp stopped⟩

section

variable (documentId contentType : Option Text) (arguments : List Text)

/-- Options are those of the pairs that are collected by name, or the arguments are refused. -/
theorem refusesFields_or_ok :
    RefusesFields (readOptions documentId contentType arguments) ∨
      ∃ options, readOptions documentId contentType arguments = .ok options := by
  rw [readOptions]
  split
  · exact .inl ⟨_, rfl⟩
  · rename_i error notFailure failed
    obtain ⟨argument, -, stopped⟩ := exists_readPair_error failed
    obtain ⟨message, rfl⟩ | ⟨failure, rfl⟩ := of_readPair_error stopped
    · exact .inl ⟨message, rfl⟩
    · exact absurd rfl (notFailure failure)
  · dsimp only
    split
    · exact .inl ⟨_, rfl⟩
    · exact .inr ⟨_, rfl⟩

/-- Options are read exactly when each argument gives a pair and fields can be made of the pairs
that are collected by name. -/
theorem readOptions_eq_ok_iff (options : IndexOptions) :
    readOptions documentId contentType arguments = .ok options ↔
      ∃ pairs fields, List.Forall₂ GivesPair arguments pairs ∧
        fields.map Field.entry = (collectEntries pairs).map entryOf ∧
        options = ⟨documentId.filter (!·.isEmpty), contentType, fields⟩ := by
  constructor
  · intro read
    rw [readOptions] at read
    split at read
    · cases read
    · cases read
    · rename_i collected pairsRead
      obtain ⟨pairs, given, rfl⟩ := (readPairs_eq_ok_iff _ _ _).mp pairsRead
      dsimp only at read
      split at read
      · cases read
      · rename_i built
        cases read
        obtain ⟨fields, collected, rfl⟩ := (IndexOptions.build_eq_ok_iff _ _ _ _).mp built
        exact ⟨pairs, fields, given, (Field.of_collect collected).1, rfl⟩
  · rintro ⟨pairs, fields, given, same, rfl⟩
    have pairsRead := (readPairs_eq_ok_iff fieldOption _ _).mpr ⟨pairs, given, rfl⟩
    have collected : Field.collect (some (.mapping ((collectEntries pairs).map entryOf))) =
        .ok fields := by
      rw [← same]
      exact Field.collect_entries (nodup_map_name same)
    have built := (IndexOptions.build_eq_ok_iff documentId contentType _ _).mpr
      ⟨fields, collected, rfl⟩
    unfold entryOf at built
    rw [readOptions, pairsRead]
    simp only [built]

/-- Options that keep a field for each argument are read of arguments with distinct names. -/
theorem KeepsFields.nodup {documentId contentType : Option Text} {arguments : List Text}
    (keeps : KeepsFields arguments (readOptions documentId contentType arguments)) :
    (arguments.map argumentName).Nodup := by
  obtain ⟨options, read, asked⟩ := keeps
  obtain ⟨pairs, fields, given, same, rfl⟩ := (readOptions_eq_ok_iff _ _ _ _).mp read
  have distinctNames := nodup_map_name same
  rw [map_name_of_isFieldOf asked] at distinctNames
  exact distinctNames

/-- Arguments for fields are refused, or options are read that have the fields of the pairs that
are collected by name. The promise that every argument becomes a field or the arguments are refused
is kept exactly when they are refused or their names are distinct. -/
theorem readOptions_takesFields :
    (RefusesFields (readOptions documentId contentType arguments) ∨
      ∃ options, readOptions documentId contentType arguments = .ok options) ∧
    (∀ options, readOptions documentId contentType arguments = .ok options ↔
      ∃ pairs fields, List.Forall₂ GivesPair arguments pairs ∧
        fields.map Field.entry = (collectEntries pairs).map entryOf ∧
        options = ⟨documentId.filter (!·.isEmpty), contentType, fields⟩) ∧
    (TakesFields arguments (readOptions documentId contentType arguments) ↔
      RefusesFields (readOptions documentId contentType arguments) ∨
        (arguments.map argumentName).Nodup) := by
  refine ⟨refusesFields_or_ok _ _ _, readOptions_eq_ok_iff _ _ _, ?_⟩
  constructor
  · exact Or.imp_right KeepsFields.nodup
  · rintro (refused | distinctNames)
    · exact .inl refused
    · refine (refusesFields_or_ok documentId contentType arguments).imp_right ?_
      rintro ⟨options, read⟩
      obtain ⟨pairs, fields, given, same, rfl⟩ := (readOptions_eq_ok_iff _ _ _ _).mp read
      rw [map_argumentName given] at distinctNames
      rw [collectEntries_of_nodup distinctNames] at same
      exact ⟨_, read, areFieldsOf given same⟩

end

/-- Of two arguments with one name the first does not become a field, and nothing is refused. -/
theorem not_takesFields_repeated :
    ¬ TakesFields ["a=1", "a=2"] (readOptions none none ["a=1", "a=2"]) := by
  have read : readOptions none none ["a=1", "a=2"] =
      .ok ⟨none, none, [⟨"a", .integer 2, rfl, rfl⟩]⟩ := rfl
  rintro (⟨message, refused⟩ | ⟨options, kept, asked⟩)
  · simp [read] at refused
  · rw [read] at kept
    cases kept
    simpa using asked.length_eq

end Command
end Depot
