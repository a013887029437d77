import Depot.Proofs.Accepting

/-!
# Leaves match fields

The clause of an accepted leaf on a field means the leaf: it asks for a field row of the document
with the name, and of that row for the kind and the value.
-/

namespace Depot

/-- Tests that agree on the members of a list find the same. -/
theorem any_congr_of_mem {α : Type} {items : List α} {left right : α → Bool}
    (agree : ∀ item ∈ items, left item = right item) : items.any left = items.any right := by
  rw [Bool.eq_iff_iff, List.any_eq_true, List.any_eq_true]
  refine exists_congr fun item => and_congr_right fun member => ?_
  rw [agree item member]

/-- A test of the field rows of a document asks its fields. -/
theorem Field.any_rows (test : FieldRow → Bool) {predicate : Field → Bool} {fields : List Field}
    (owner position : Nat) (agree : ∀ field ∈ fields, ∀ position,
      test (field.row owner position) = predicate field) :
    (rows owner position fields).any test = fields.any predicate := by
  induction fields generalizing position with
  | nil => rfl
  | cons field rest inductionHypothesis =>
    rw [List.forall_mem_cons] at agree
    rw [rows, List.any_cons, List.any_cons, agree.1 position,
      inductionHypothesis (position + 1) agree.2]

/-- A document has a value under a field name when one of its fields has it. -/
theorem Metadata.any_valuesOf {name : Text} (ordinary : name ≠ FieldName.identifier)
    (document : Metadata) (test : Datum → Bool) :
    (document.valuesOf name).any test =
      document.fields.any fun field => decide (field.name = name) && test field.value.toDatum := by
  rw [valuesOf, if_neg ordinary, List.any_map, List.any_filter]
  rfl

namespace Condition

variable {fields : List FieldRow} {row : DocumentRow} {field : Field} {owner position : Nat}

/-- The test of the name of a field row. -/
theorem holds_name (fieldRow : FieldRow) (name : String) :
    (compare .fieldName .equal (.text name)).holds fields row (some fieldRow) =
      decide (fieldRow.name = name) :=
  Comparison.equal_holds_text fieldRow.name name

/-- The test of the kind of a field row. -/
theorem holds_kind (kind : ValueKind) :
    (compare .fieldKind .equal (.text kind.label)).holds fields row
      (some (field.row owner position)) = decide (field.value.kind = kind) := by
  refine (Comparison.equal_holds_text _ _).trans (decide_eq_decide.mpr ?_)
  exact ⟨ValueKind.label_injective, congrArg ValueKind.label⟩

/-- The test of the value of a field row. -/
theorem holds_value (comparison : Comparison) (operand : StoredValue) :
    (compare .fieldValue comparison operand).holds fields row
      (some (field.row owner position)) =
      comparison.holds field.value.stored.sortKey operand.sortKey :=
  rfl

/-- One of several conditions in parentheses. -/
theorem holds_anyOf (conditions : List (Condition StoredValue)) (inner : Option FieldRow) :
    (Clause.anyOf conditions).holds fields row inner = conditions.any (holds fields row inner) := by
  cases conditions with
  | nil => rfl
  | cons first rest => rw [Clause.anyOf, holds, holds_foldl_disjunction, List.any_cons]

variable {hole : Type}

/-- The shape of a test of a field. -/
theorem shape_fieldTest (name : hole) (parts : List (Condition hole)) :
    (Clause.fieldTest name parts).shape = Clause.fieldTest () (parts.map shape) := by
  rw [Clause.fieldTest, shape, shape_foldl_joined]
  rfl

/-- The contents of the places of a test of a field. -/
theorem operands_fieldTest (name : hole) (parts : List (Condition hole)) :
    (Clause.fieldTest name parts).operands = name :: parts.flatMap operands := by
  rw [Clause.fieldTest, operands, operands_foldl_joined]
  rfl

/-- The shape of a choice. -/
theorem shape_anyOf (conditions : List (Condition hole)) :
    (Clause.anyOf conditions).shape = Clause.anyOf (conditions.map shape) := by
  cases conditions with
  | nil => rfl
  | cons first rest => rw [Clause.anyOf, shape, shape_foldl_joined]; rfl

/-- The contents of the places of a choice. -/
theorem operands_anyOf (conditions : List (Condition hole)) :
    (Clause.anyOf conditions).operands = conditions.flatMap operands := by
  cases conditions with
  | nil => rfl
  | cons first rest => rw [Clause.anyOf, operands, operands_foldl_joined, List.flatMap_cons]

/-- A test of a field asks the fields with its name. -/
theorem holds_fieldTest {document : Metadata} (standsFor : row.StandsFor fields document)
    {name : Text} (nameEncodable : name.isEncodable = true)
    (ordinary : name ≠ FieldName.identifier) {parts : List (Condition StoredValue)}
    {test : Datum → Bool}
    (decides : ∀ field : Field, field.isEncodable = true → ∀ position,
      parts.all (holds fields row (some (field.row row.rowId position))) =
        test field.value.toDatum) :
    (Clause.fieldTest (.text name.toStringLossy) parts).holds fields row none =
      (document.valuesOf name).any test := by
  let rowTest (fieldRow : FieldRow) : Bool :=
    decide (fieldRow.name = name.toStringLossy) && parts.all (holds fields row (some fieldRow))
  have ofRow (fieldRow : FieldRow) :
      (parts.foldl (joined .conjunction) (.joined .conjunction .owned
        (.compare .fieldName .equal (.text name.toStringLossy)))).holds fields row
        (some fieldRow) = (fieldRow.owner == row.rowId && rowTest fieldRow) := by
    rw [holds_foldl_conjunction, holds, Connective.join, holds_name, Bool.and_assoc]
    rfl
  have ofField (field : Field) (member : field ∈ document.fields) (position : Nat) :
      rowTest (field.row row.rowId position) =
        (decide (field.name = name) && test field.value.toDatum) := by
    have encodable := standsFor.encodable field member
    have sameName := Text.toStringLossy_inj (field.isEncodable_iff.mp encodable).1 nameEncodable
    rw [← decides field encodable position, ← decide_eq_decide.mpr sameName]
    rfl
  rw [Clause.fieldTest, holds, funext ofRow, Metadata.any_valuesOf ordinary,
    ← Field.any_rows rowTest row.rowId 0 ofField, ← standsFor.fieldRows, List.any_filter]

end Condition

namespace Clause

/-- A test of a field means a test of the values that documents have under its name. -/
theorem means_fieldTest {name : Text} (nameEncodable : name.isEncodable = true)
    (ordinary : name ≠ FieldName.identifier) (parts : List (Condition StoredValue))
    {parameters : List Parameter}
    (operands : parts.flatMap Condition.operands = parameters.map Parameter.bound)
    {test : Datum → Bool}
    (decides : ∀ fields row, ∀ field : Field, field.isEncodable = true → ∀ position,
      parts.all (Condition.holds fields row (some (field.row row.rowId position))) =
        test field.value.toDatum) :
    Means ⟨fieldTest () (parts.map Condition.shape), .text name :: parameters⟩ fun document =>
      (document.valuesOf name).any test := by
  refine ⟨fieldTest (.text name.toStringLossy) parts, ⟨Condition.shape_fieldTest _ _, ?_⟩, ?_⟩
  · rw [Condition.operands_fieldTest, operands]
    rfl
  · intro fields row document standsFor
    exact Condition.holds_fieldTest standsFor nameEncodable ordinary (decides fields row)

section

variable {name : Text} {clause : Clause}

/-- The first value of a clause can be handed over. -/
theorem isBindable_cons {condition : Condition Unit} {parameter : Parameter}
    {rest : List Parameter} (bindable : isBindable ⟨condition, parameter :: rest⟩ = true) :
    parameter.isBindable = true ∧ ∀ other ∈ rest, other.isBindable = true := by
  rwa [isBindable, List.all_cons, Bool.and_eq_true, List.all_eq_true] at bindable

/-- Presence means that the document has the field. -/
theorem means_present (ordinary : name ≠ FieldName.identifier)
    (bindable : (present name).isBindable = true) :
    (present name).Means fun document => (document.valuesOf name).any fun _ => true := by
  refine means_fieldTest (isBindable_cons bindable).1 ordinary [] rfl ?_
  intro fields row field encodable position
  rfl

/-- Equality means that the document has the value. -/
theorem means_equals (ordinary : name ≠ FieldName.identifier) {value : Datum}
    (accepted : equals name value = .ok clause) (bindable : clause.isBindable = true) :
    clause.Means fun document => (document.valuesOf name).any fun held => held.agrees value := by
  obtain ⟨tested, rfl, fits, rfl⟩ := of_equals accepted
  obtain ⟨nameEncodable, others⟩ := isBindable_cons bindable
  have valueEncodable : tested.isEncodable = true := by
    rw [← FieldValue.isBindable_parameter fits]
    exact others _ (by simp)
  refine means_fieldTest nameEncodable ordinary
    [.compare .fieldKind .equal (.text tested.kind.label),
      .compare .fieldValue .equal tested.stored] ?_ ?_
  · simp [Condition.operands]
  · intro fields row field encodable position
    rw [List.all_cons, List.all_cons, List.all_nil, Bool.and_true, Condition.holds_kind,
      Condition.holds_value]
    exact FieldValue.equal_holds_stored (field.isEncodable_iff.mp encodable).2 valueEncodable

/-- Adding a value to a group adds it to the values of its kind. -/
theorem mem_addToGroup {kind other : ValueKind} {value parameter : Parameter}
    (groups : List (ValueKind × List Parameter)) :
    (∃ group ∈ addToGroup other value groups, group.1 = kind ∧ parameter ∈ group.2) ↔
      (∃ group ∈ groups, group.1 = kind ∧ parameter ∈ group.2) ∨
        (other = kind ∧ parameter = value) := by
  induction groups with
  | nil => simp [addToGroup]
  | cons first rest inductionHypothesis =>
    obtain ⟨present, values⟩ := first
    rw [addToGroup]
    by_cases same : present = other
    · subst same
      simp only [if_true, List.exists_mem_cons_iff, List.mem_append, List.mem_singleton]
      constructor
      · rintro (⟨rfl, old | new⟩ | later)
        · exact .inl (.inl ⟨rfl, old⟩)
        · exact .inr ⟨rfl, new⟩
        · exact .inl (.inr later)
      · rintro ((⟨rfl, old⟩ | later) | ⟨rfl, new⟩)
        · exact .inl ⟨rfl, .inl old⟩
        · exact .inr later
        · exact .inl ⟨rfl, .inr new⟩
    · rw [if_neg same]
      simp only [List.exists_mem_cons_iff, inductionHypothesis, or_assoc]

/-- The groups hold the values, each with its kind. -/
theorem mem_groupByKind {kind : ValueKind} {parameter : Parameter}
    (values : List (ValueKind × Parameter)) :
    (∃ group ∈ groupByKind values, group.1 = kind ∧ parameter ∈ group.2) ↔
      (kind, parameter) ∈ values := by
  have grown : ∀ groups : List (ValueKind × List Parameter),
      (∃ group ∈ values.foldl (fun groups value => addToGroup value.1 value.2 groups) groups,
        group.1 = kind ∧ parameter ∈ group.2) ↔
        (∃ group ∈ groups, group.1 = kind ∧ parameter ∈ group.2) ∨
          (kind, parameter) ∈ values := by
    induction values with
    | nil => simp
    | cons value rest inductionHypothesis =>
      intro groups
      rw [List.foldl_cons, inductionHypothesis, mem_addToGroup, or_assoc, List.mem_cons,
        Prod.ext_iff, eq_comm (a := kind)]
  rw [groupByKind, grown []]
  simp

/-- A field row passes the test of some group when it has the kind and the key of some value. -/
theorem any_groupTest (fields : List FieldRow) (row : DocumentRow) (field : Field)
    (owner position : Nat) (values : List (ValueKind × Parameter)) :
    ((groupByKind values).map fun group =>
        groupTest (.text group.1.label) (group.2.map Parameter.bound)).any
      (Condition.holds fields row (some (field.row owner position))) =
      values.any fun value => decide (field.value.kind = value.1) &&
        Comparison.equal.holds field.value.stored.sortKey value.2.bound.sortKey := by
  have ofGroup (group : ValueKind × List Parameter) :
      (groupTest (.text group.1.label) (group.2.map Parameter.bound)).holds fields row
        (some (field.row owner position)) = true ↔
        field.value.kind = group.1 ∧ ∃ parameter ∈ group.2,
          Comparison.equal.holds field.value.stored.sortKey parameter.bound.sortKey = true := by
    rw [groupTest, Condition.holds, Condition.holds, Connective.join, Condition.holds_kind,
      Condition.holds, List.any_map, Bool.and_eq_true, decide_eq_true_eq, List.any_eq_true]
    rfl
  rw [Bool.eq_iff_iff, List.any_map, List.any_eq_true, List.any_eq_true]
  simp only [Function.comp_apply, ofGroup, Bool.and_eq_true, decide_eq_true_eq]
  constructor
  · rintro ⟨group, member, sameKind, parameter, held, equal⟩
    have listed := (mem_groupByKind values).mp ⟨group, member, sameKind.symm, held⟩
    exact ⟨_, listed, rfl, equal⟩
  · rintro ⟨value, listed, sameKind, equal⟩
    obtain ⟨group, member, kindOfGroup, held⟩ := (mem_groupByKind values).mpr listed
    exact ⟨group, member, sameKind.trans kindOfGroup.symm, value.2, held, equal⟩

/-- A choice of encodable values means that the document has one of them. -/
theorem means_choice (nameEncodable : name.isEncodable = true)
    (ordinary : name ≠ FieldName.identifier) {values : List FieldValue}
    (encodable : ∀ value ∈ values, value.isEncodable = true) :
    (choice name values).Means fun document => (document.valuesOf name).any fun held =>
      (values.map FieldValue.toDatum).any held.agrees := by
  let groups := groupByKind (values.map FieldValue.typed)
  let conditions := groups.map fun group =>
    groupTest (StoredValue.text group.1.label) (group.2.map Parameter.bound)
  have shapes : conditions.map Condition.shape =
      groups.map fun group => groupTest () (group.2.map fun _ => ()) := by
    simp [conditions, groupTest, Condition.shape, Function.comp_def]
  have operands : [anyOf conditions].flatMap Condition.operands =
      (groups.flatMap fun group => .text group.1.label :: group.2).map Parameter.bound := by
    simp [conditions, Condition.operands_anyOf, groupTest, Condition.operands, List.map_flatMap,
      List.flatMap_map]
  rw [choice, ← shapes, ← Condition.shape_anyOf]
  refine means_fieldTest nameEncodable ordinary [anyOf conditions] operands ?_
  intro fields row field fieldEncodable position
  rw [List.all_cons, List.all_nil, Bool.and_true, Condition.holds_anyOf]
  have tested := any_groupTest fields row field row.rowId position (values.map FieldValue.typed)
  refine tested.trans ?_
  rw [List.any_map, List.any_map]
  apply any_congr_of_mem
  intro value member
  rw [Function.comp_apply, FieldValue.typed, Parameter.bound_parameter]
  exact FieldValue.equal_holds_stored (field.isEncodable_iff.mp fieldEncodable).2
    (encodable value member)

/-- The parameters of a choice hold those of its values. -/
theorem parameter_mem_choice {values : List FieldValue} {value : FieldValue}
    (member : value ∈ values) : value.parameter ∈ (choice name values).parameters := by
  have listed : value.typed ∈ values.map FieldValue.typed := List.mem_map_of_mem member
  obtain ⟨group, groupMember, -, held⟩ := (mem_groupByKind _).mpr listed
  apply List.mem_cons_of_mem
  exact List.mem_flatMap.mpr ⟨group, groupMember, List.mem_cons_of_mem _ held⟩

/-- A choice of values means that the document has one of them. -/
theorem means_among (ordinary : name ≠ FieldName.identifier) {values : List Datum}
    (accepted : among name values = .ok clause) (bindable : clause.isBindable = true) :
    clause.Means fun document => (document.valuesOf name).any fun held =>
      values.any held.agrees := by
  rcases of_among accepted with ⟨rfl, rfl⟩ | ⟨tested, rfl, -, fits, rfl⟩
  · exact means_nothing.congr fun document => by simp
  · refine means_choice (isBindable_cons bindable).1 ordinary ?_
    intro value member
    rw [← FieldValue.isBindable_parameter (fits value member)]
    exact List.all_eq_true.mp bindable _ (parameter_mem_choice member)

/-- A lower bound of a kind asks for that kind and compares with the bound. -/
theorem bound_atMost {kind : ValueKind} {bound value : FieldValue} (noBoolean : kind ≠ .boolean)
    (ofKind : bound.kind = kind) (boundEncodable : bound.isEncodable = true)
    (valueEncodable : value.isEncodable = true) :
    bound.toDatum.atMost value.toDatum = (decide (value.kind = kind) &&
      Comparison.atLeast.holds value.stored.sortKey bound.stored.sortKey) := by
  have comparable : ¬ (bound.kind = .boolean ∧ value.kind = .boolean) :=
    fun booleans => noBoolean (ofKind.symm.trans booleans.1)
  rw [Comparison.atLeast_holds,
    ← FieldValue.atMost_holds_stored boundEncodable valueEncodable comparable, ofKind,
    decide_eq_decide.mpr (eq_comm (a := kind))]

/-- An upper bound of a kind asks for that kind and compares with the bound. -/
theorem atMost_bound {kind : ValueKind} {bound value : FieldValue} (noBoolean : kind ≠ .boolean)
    (ofKind : bound.kind = kind) (boundEncodable : bound.isEncodable = true)
    (valueEncodable : value.isEncodable = true) :
    value.toDatum.atMost bound.toDatum = (decide (value.kind = kind) &&
      Comparison.atMost.holds value.stored.sortKey bound.stored.sortKey) := by
  have comparable : ¬ (value.kind = .boolean ∧ bound.kind = .boolean) :=
    fun booleans => noBoolean (ofKind.symm.trans booleans.2)
  rw [← FieldValue.atMost_holds_stored valueEncodable boundEncodable comparable, ofKind]

/-- A range of encodable bounds of one kind asks for that kind and compares with each bound. -/
theorem means_bounds (nameEncodable : name.isEncodable = true)
    (ordinary : name ≠ FieldName.identifier) {kind : ValueKind} (noBoolean : kind ≠ .boolean)
    {lower upper : Option FieldValue}
    (suited : ∀ bound ∈ lower.toList ++ upper.toList,
      bound.kind = kind ∧ bound.isEncodable = true)
    (bounded : (lower.toList ++ upper.toList) ≠ []) :
    (between name kind lower upper).Means
      fun document => (document.valuesOf name).any fun held =>
        lower.all (fun bound => bound.toDatum.atMost held) &&
          upper.all fun bound => held.atMost bound.toDatum := by
  let parts : List (Condition StoredValue) := .compare .fieldKind .equal (.text kind.label) ::
    ((lower.toList.map fun bound => .compare .fieldValue .atLeast bound.stored) ++
      (upper.toList.map fun bound => .compare .fieldValue .atMost bound.stored))
  have shapes : parts.map Condition.shape = .compare .fieldKind .equal () ::
      (lower.toList.map fun _ => .compare .fieldValue .atLeast ()) ++
      (upper.toList.map fun _ => .compare .fieldValue .atMost ()) := by
    simp [parts, Condition.shape, Function.comp_def]
  rw [between, ← shapes]
  refine means_fieldTest nameEncodable ordinary parts ?_ ?_
  · simp [parts, Condition.operands, List.flatMap_map, Function.comp_def, ← List.map_eq_flatMap]
  · intro fields row field encodable position
    have valueEncodable := (field.isEncodable_iff.mp encodable).2
    have above (bound : FieldValue) (boundSuited : bound.kind = kind ∧ bound.isEncodable = true) :=
      bound_atMost noBoolean boundSuited.1 boundSuited.2 valueEncodable
    have below (bound : FieldValue) (boundSuited : bound.kind = kind ∧ bound.isEncodable = true) :=
      atMost_bound noBoolean boundSuited.1 boundSuited.2 valueEncodable
    rw [List.all_cons, Condition.holds_kind]
    rcases lower with _ | low <;> rcases upper with _ | high
    · exact absurd rfl bounded
    · have highSuited := suited high (by simp)
      simp [below high highSuited, Condition.holds_value]
    · have lowSuited := suited low (by simp)
      simp [above low lowSuited, Condition.holds_value]
    · have lowSuited := suited low (by simp)
      have highSuited := suited high (by simp)
      simp only [Option.toList_some, List.map_cons, List.map_nil, List.singleton_append,
        List.all_cons, List.all_nil, Bool.and_true, Option.all_some, Condition.holds_value,
        above low lowSuited, below high highSuited]
      cases decide (field.value.kind = kind) <;> rfl

/-- A range means that the document has a value between the bounds. -/
theorem means_range (ordinary : name ≠ FieldName.identifier) {low high : Datum}
    (accepted : range name low high = .ok clause) (bindable : clause.isBindable = true) :
    clause.Means fun document => (document.valuesOf name).any fun held =>
      (!low.isPresent || low.atMost held) && (!high.isPresent || held.atMost high) := by
  obtain ⟨lower, upper, fits, lowTest, highTest, form⟩ := of_range accepted
  have tests (held : Datum) :
      ((!low.isPresent || low.atMost held) && (!high.isPresent || held.atMost high)) =
        (lower.all (fun bound => bound.toDatum.atMost held) &&
          upper.all fun bound => held.atMost bound.toDatum) := by
    rw [lowTest (fun bound => bound.atMost held), highTest held.atMost]
  rcases form with ⟨rfl, rfl, rfl⟩ | ⟨kind, noBoolean, bounded, ofKind, rfl⟩
  · refine (means_present ordinary bindable).congr fun document => ?_
    exact any_congr_of_mem fun held _ => (tests held).symm
  · have encodable : ∀ bound ∈ lower.toList ++ upper.toList, bound.isEncodable = true := by
      intro bound member
      rw [← FieldValue.isBindable_parameter (fits bound member)]
      apply List.all_eq_true.mp bindable
      rw [between, ← List.map_append]
      exact List.mem_cons_of_mem _ (List.mem_cons_of_mem _ (List.mem_map_of_mem member))
    have means := means_bounds (isBindable_cons bindable).1 ordinary noBoolean
      (fun bound member => ⟨ofKind bound member, encodable bound member⟩) bounded
    refine means.congr fun document => ?_
    exact any_congr_of_mem fun held _ => (tests held).symm

end
end Clause
end Depot
