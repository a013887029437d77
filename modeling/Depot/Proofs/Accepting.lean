import Depot.Proofs.Comparing

/-!
# Accepted leaves

A leaf that is accepted has values of known shapes, and its clause has a known form. Everything
that is proved of clauses of leaves starts from these forms.
-/

namespace Depot.Clause

/-- The clause of a choice among field values. -/
def choice (name : Text) (values : List FieldValue) : Clause :=
  let groups := groupByKind (values.map FieldValue.typed)
  ⟨fieldTest () [anyOf (groups.map fun group => groupTest () (group.2.map fun _ => ()))],
    .text name :: groups.flatMap fun group => .text group.1.label :: group.2⟩

/-- The clause of a range with bounds of a kind. -/
def between (name : Text) (kind : ValueKind) (lower upper : Option FieldValue) : Clause :=
  ⟨fieldTest () (.compare .fieldKind .equal () ::
      (lower.toList.map fun _ => .compare .fieldValue .atLeast ()) ++
      (upper.toList.map fun _ => .compare .fieldValue .atMost ())),
    .text name :: .text kind.label ::
      (lower.toList.map FieldValue.parameter ++ upper.toList.map FieldValue.parameter)⟩

section

variable {name : Text} {clause : Clause}

/-- An accepted equality tests a field value. -/
theorem of_equals {value : Datum} (accepted : equals name value = .ok clause) :
    ∃ tested : FieldValue, value = tested.toDatum ∧ tested.fits = true ∧
      clause = ⟨fieldTest () [.compare .fieldKind .equal (), .compare .fieldValue .equal ()],
        [.text name, .text tested.kind.label, tested.parameter]⟩ := by
  rw [equals] at accepted
  cases judged : comparand value with
  | error fault => rw [judged] at accepted; cases accepted
  | ok pair =>
    obtain ⟨tested, rfl, fits, -, rfl⟩ := FieldValue.of_comparand judged
    rw [judged] at accepted
    cases accepted
    exact ⟨tested, rfl, fits, rfl⟩

/-- An accepted choice is empty, or it tests field values. -/
theorem of_among {values : List Datum} (accepted : among name values = .ok clause) :
    (values = [] ∧ clause = nothing) ∨
      ∃ tested : List FieldValue, values = tested.map FieldValue.toDatum ∧ tested ≠ [] ∧
        (∀ value ∈ tested, value.fits = true) ∧ clause = choice name tested := by
  rw [among] at accepted
  cases noValues : values.isEmpty with
  | true =>
    rw [noValues] at accepted
    cases accepted
    exact .inl ⟨List.isEmpty_iff.mp noValues, rfl⟩
  | false =>
    rw [noValues] at accepted
    cases judged : values.mapM comparand with
    | error fault => rw [judged] at accepted; cases accepted
    | ok pairs =>
      obtain ⟨tested, rfl, each, rfl⟩ := FieldValue.of_mapM_comparand judged
      rw [judged] at accepted
      cases accepted
      refine .inr ⟨tested, rfl, ?_, fun value member => (each value member).1, rfl⟩
      rintro rfl
      cases noValues

/-- A bound is absent, or it is a comparable value; a test of a bound that is absent is passed. -/
theorem of_bound {given : Datum} {judged : Option (ValueKind × Parameter)}
    (accepted : bound given = .ok judged) :
    ∃ held : Option FieldValue, judged = held.map FieldValue.typed ∧
      (∀ value ∈ held, value.fits = true) ∧
      ∀ test : Datum → Bool,
        (!given.isPresent || test given) = held.all fun value => test value.toDatum := by
  rw [bound] at accepted
  cases present : given.isPresent with
  | false =>
    rw [present] at accepted
    cases accepted
    exact ⟨none, rfl, by simp, fun _ => rfl⟩
  | true =>
    rw [present] at accepted
    cases compared : comparand given with
    | error fault => rw [compared] at accepted; cases accepted
    | ok pair =>
      obtain ⟨value, rfl, fits, -, rfl⟩ := FieldValue.of_comparand compared
      rw [compared] at accepted
      cases accepted
      exact ⟨some value, rfl, by simpa using fits, fun _ => rfl⟩

/-- Bounds that are accepted share one kind, which is not that of booleans; without bounds there
is none. -/
theorem of_rangeKind {lower upper : Option FieldValue} {shared : Option ValueKind}
    (accepted : rangeKind name (lower.map FieldValue.typed) (upper.map FieldValue.typed) =
      .ok shared) :
    (∀ bound ∈ lower.toList ++ upper.toList, shared = some bound.kind) ∧
      shared ≠ some .boolean ∧ (lower.toList ++ upper.toList = [] → shared = none) := by
  rw [rangeKind] at accepted
  split at accepted
  · cases accepted
  · rename_i noBoolean
    rw [List.contains_iff_mem, List.map_append, List.mem_append, not_or] at noBoolean
    rcases lower with _ | low <;> rcases upper with _ | high
    · cases accepted
      simp
    · cases accepted
      simpa [FieldValue.typed, eq_comm] using noBoolean.2
    · cases accepted
      simpa [FieldValue.typed, eq_comm] using noBoolean.1
    · simp only [Option.map_some, Option.toList_some, List.map_cons, List.map_nil,
        List.singleton_append, FieldValue.typed] at accepted
      split at accepted
      · rename_i same
        cases accepted
        refine ⟨?_, by simpa [FieldValue.typed, same, eq_comm] using noBoolean.2, by simp⟩
        intro bound member
        rcases List.mem_pair.mp member with rfl | rfl
        · rfl
        · rw [same]
      · cases accepted

/-- An accepted range has no bound, or bounds that are field values of one kind. -/
theorem of_range {low high : Datum} (accepted : range name low high = .ok clause) :
    ∃ lower upper : Option FieldValue,
      (∀ value ∈ lower.toList ++ upper.toList, value.fits = true) ∧
      (∀ test : Datum → Bool,
        (!low.isPresent || test low) = lower.all fun value => test value.toDatum) ∧
      (∀ test : Datum → Bool,
        (!high.isPresent || test high) = upper.all fun value => test value.toDatum) ∧
      ((lower = none ∧ upper = none ∧ clause = present name) ∨
        ∃ kind, kind ≠ .boolean ∧ lower.toList ++ upper.toList ≠ [] ∧
          (∀ bound ∈ lower.toList ++ upper.toList, bound.kind = kind) ∧
          clause = between name kind lower upper) := by
  rw [range] at accepted
  cases lowJudged : bound low with
  | error fault => rw [lowJudged] at accepted; cases accepted
  | ok lowBound =>
    cases highJudged : bound high with
    | error fault => rw [lowJudged, highJudged] at accepted; cases accepted
    | ok highBound =>
      obtain ⟨lower, rfl, lowFits, lowTest⟩ := of_bound lowJudged
      obtain ⟨upper, rfl, highFits, highTest⟩ := of_bound highJudged
      refine ⟨lower, upper, ?_, lowTest, highTest, ?_⟩
      · intro value member
        rcases List.mem_append.mp member with inLower | inUpper
        · exact lowFits value (Option.mem_toList.mp inLower)
        · exact highFits value (Option.mem_toList.mp inUpper)
      · cases kinds : rangeKind name (lower.map FieldValue.typed)
          (upper.map FieldValue.typed) with
        | error fault => simp [lowJudged, highJudged, kinds, bind, Except.bind] at accepted
        | ok shared =>
          obtain ⟨ofKind, noBoolean, unbounded⟩ := of_rangeKind kinds
          simp only [lowJudged, highJudged, kinds, bind, Except.bind] at accepted
          cases shared with
          | none =>
            cases accepted
            have absent : lower.toList ++ upper.toList = [] :=
              List.eq_nil_iff_forall_not_mem.mpr fun bound member => by cases ofKind bound member
            rw [List.append_eq_nil_iff, Option.toList_eq_nil_iff, Option.toList_eq_nil_iff]
              at absent
            exact .inl ⟨absent.1, absent.2, rfl⟩
          | some kind =>
            cases accepted
            refine .inr ⟨kind, ?_, ?_, ?_, ?_⟩
            · rintro rfl
              exact noBoolean rfl
            · intro absent
              cases unbounded absent
            · intro bound member
              exact (Option.some.inj (ofKind bound member)).symm
            · rw [between, Option.toList_map, Option.toList_map, List.map_map, List.map_map,
                List.map_map, List.map_map]
              rfl

end

/-- The identifier is compared with texts. -/
theorem of_identifierValue {given : Datum} {parameter : Parameter}
    (accepted : identifierValue given = .ok parameter) :
    ∃ label, given = .text label ∧ parameter = .text label := by
  cases given <;> cases accepted
  exact ⟨_, rfl, rfl⟩

/-- A choice among identifiers is a choice of texts. -/
theorem of_mapM_identifierValue {given : List Datum} {parameters : List Parameter}
    (accepted : given.mapM identifierValue = .ok parameters) :
    ∃ labels : List Text,
      given = labels.map Datum.text ∧ parameters = labels.map Parameter.text := by
  have each := forall₂_of_mapM accepted
  clear accepted
  induction each with
  | nil => exact ⟨[], rfl, rfl⟩
  | cons first later inductionHypothesis =>
    obtain ⟨label, rfl, rfl⟩ := of_identifierValue first
    obtain ⟨labels, rfl, rfl⟩ := inductionHypothesis
    exact ⟨label :: labels, rfl, rfl⟩

/-- A bound of the identifier is absent or a text. -/
theorem of_identifierBound {comparison : Comparison} {given : Datum} {clauses : List Clause}
    (accepted : identifierBound comparison given = .ok clauses) :
    (given.isPresent = false ∧ clauses = []) ∨
      ∃ label, given = .text label ∧
        clauses = [⟨.compare .documentId comparison (), [.text label]⟩] := by
  rw [identifierBound] at accepted
  cases present : given.isPresent with
  | false =>
    rw [present] at accepted
    cases accepted
    exact .inl ⟨rfl, rfl⟩
  | true =>
    rw [present] at accepted
    cases judged : identifierValue given with
    | error fault => rw [judged] at accepted; cases accepted
    | ok parameter =>
      obtain ⟨label, rfl, rfl⟩ := of_identifierValue judged
      rw [judged] at accepted
      cases accepted
      exact .inr ⟨label, rfl, rfl⟩

/-- The forms of accepted leaves on the identifier: the values that they test are texts. -/
inductive IdentifierForm : QueryKind → List Datum → Datum → Datum → Clause → Prop
  | present {values : List Datum} {low high : Datum} :
    IdentifierForm .present values low high everything
  | equals {values : List Datum} {low high : Datum} (label : Text)
    (tested : values.headD .null = .text label) :
    IdentifierForm .equals values low high ⟨.compare .documentId .equal (), [.text label]⟩
  | amongNone {low high : Datum} : IdentifierForm .among [] low high nothing
  | among {low high : Datum} (first : Text) (rest : List Text) :
    IdentifierForm .among ((first :: rest).map Datum.text) low high
      ⟨.among .documentId ((first :: rest).map fun _ => ()), (first :: rest).map Parameter.text⟩
  | unbounded {values : List Datum} {low high : Datum} (noLow : low.isPresent = false)
    (noHigh : high.isPresent = false) : IdentifierForm .range values low high everything
  | atLeast {values : List Datum} {high : Datum} (low : Text) (noHigh : high.isPresent = false) :
    IdentifierForm .range values (.text low) high
      ⟨.compare .documentId .atLeast (), [.text low]⟩
  | atMost {values : List Datum} {low : Datum} (high : Text) (noLow : low.isPresent = false) :
    IdentifierForm .range values low (.text high)
      ⟨.compare .documentId .atMost (), [.text high]⟩
  | between {values : List Datum} (low high : Text) :
    IdentifierForm .range values (.text low) (.text high)
      (joined .conjunction ⟨.compare .documentId .atLeast (), [.text low]⟩
        ⟨.compare .documentId .atMost (), [.text high]⟩)

/-- An accepted choice on the identifier is one among texts, or among nothing. -/
theorem of_identifierAmong {values : List Datum} {low high : Datum} {clause : Clause}
    (accepted : identifierLeaf .among values low high = .ok clause) :
    IdentifierForm .among values low high clause := by
  rw [identifierLeaf] at accepted
  cases values with
  | nil =>
    cases accepted
    exact .amongNone
  | cons first rest =>
    cases judged : (first :: rest).mapM identifierValue with
    | error fault => rw [judged] at accepted; cases accepted
    | ok parameters =>
      obtain ⟨labels, isLabels, rfl⟩ := of_mapM_identifierValue judged
      rw [judged] at accepted
      cases accepted
      cases labels with
      | nil => cases isLabels
      | cons label labels =>
        rw [isLabels, List.map_map]
        exact .among label labels

/-- An accepted range on the identifier has texts as its bounds, as far as it has any. -/
theorem of_identifierRange {values : List Datum} {low high : Datum} {clause : Clause}
    (accepted : identifierLeaf .range values low high = .ok clause) :
    IdentifierForm .range values low high clause := by
  rw [identifierLeaf] at accepted
  cases lowJudged : identifierBound .atLeast low with
  | error fault => rw [lowJudged] at accepted; cases accepted
  | ok lower =>
    cases highJudged : identifierBound .atMost high with
    | error fault => rw [lowJudged, highJudged] at accepted; cases accepted
    | ok upper =>
      rw [lowJudged, highJudged] at accepted
      rcases of_identifierBound lowJudged with ⟨noLow, rfl⟩ | ⟨low, rfl, rfl⟩ <;>
        rcases of_identifierBound highJudged with ⟨noHigh, rfl⟩ | ⟨high, rfl, rfl⟩
      · cases accepted
        exact .unbounded noLow noHigh
      · cases accepted
        exact .atMost high noLow
      · cases accepted
        exact .atLeast low noHigh
      · cases accepted
        exact .between low high

/-- An accepted leaf on the identifier has one of the forms. -/
theorem of_identifierLeaf {kind : QueryKind} {values : List Datum} {low high : Datum}
    {clause : Clause} (accepted : identifierLeaf kind values low high = .ok clause) :
    IdentifierForm kind values low high clause := by
  cases kind with
  | present =>
    cases accepted
    exact .present
  | equals =>
    rw [identifierLeaf] at accepted
    cases judged : identifierValue (values.headD .null) with
    | error fault => rw [judged] at accepted; cases accepted
    | ok parameter =>
      obtain ⟨label, isLabel, rfl⟩ := of_identifierValue judged
      rw [judged] at accepted
      cases accepted
      exact .equals label isLabel
  | among => exact of_identifierAmong accepted
  | range => exact of_identifierRange accepted
  | all => cases accepted
  | any => cases accepted
  | unknown literal typeName => cases accepted

/-- The name of a leaf that is accepted is its field. -/
theorem of_queryFieldName {field : Datum} {name : Text}
    (accepted : queryFieldName field = .ok name) :
    field = .text name := by
  rw [queryFieldName] at accepted
  cases judged : FieldName.validate field with
  | error error => rw [judged] at accepted; cases accepted
  | ok valid =>
    rw [judged] at accepted
    simp only at accepted
    split at accepted
    · cases accepted
    · cases accepted
      exact ((FieldName.validate_eq_ok_iff field name).mp judged).1

/-- An accepted leaf tests the identifier or a field. -/
theorem of_leaf {kind : QueryKind} {field : Datum} {values : List Datum} {low high : Datum}
    {clause : Clause} (accepted : leaf kind field values low high = .ok clause) :
    ∃ name : Text, field = .text name ∧
      ((name = FieldName.identifier ∧ identifierLeaf kind values low high = .ok clause) ∨
        (name ≠ FieldName.identifier ∧ fieldLeaf kind name values low high = .ok clause)) := by
  rw [leaf] at accepted
  cases named : queryFieldName field with
  | error error => rw [named] at accepted; cases accepted
  | ok name =>
    refine ⟨name, of_queryFieldName named, ?_⟩
    rw [named] at accepted
    by_cases isIdentifier : name = FieldName.identifier
    · simp only [bind, Except.bind, isIdentifier, if_true] at accepted
      exact .inl ⟨isIdentifier, accepted⟩
    · simp only [bind, Except.bind, isIdentifier, if_false] at accepted
      exact .inr ⟨isIdentifier, accepted⟩

end Depot.Clause
