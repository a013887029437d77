import Depot.Proofs.Ordering

/-!
# Queries that can be handed over

A query that is accepted may still hold texts that the index cannot keep. The clause of a query can
be handed over to the index exactly when the index can keep the texts of its leaves.
-/

namespace Depot

/-- The values that a leaf tests. -/
def QueryKind.tested (kind : QueryKind) (values : List Datum) (low high : Datum) : List Datum :=
  match kind with
  | .equals => [values.headD .null]
  | .among => values
  | .range => [low, high]
  | _ => []

/-- Whether the index can keep a value, as far as its text goes. -/
def Datum.isEncodable : Datum → Bool
  | .text value => value.isEncodable
  | _ => true

@[simp] theorem Datum.isEncodable_text (value : Text) :
    (Datum.text value).isEncodable = value.isEncodable := rfl

/-- What is absent is no text. -/
theorem Datum.isEncodable_of_absent {datum : Datum} (absent : datum.isPresent = false) :
    datum.isEncodable = true := by
  cases datum <;> first | rfl | cases absent

/-- A field value as a datum. -/
@[simp] theorem FieldValue.isEncodable_toDatum (value : FieldValue) :
    value.toDatum.isEncodable = value.isEncodable := by
  cases value <;> rfl

/-- Whether the index can keep the name and the tested values of a leaf. A choice among no values
hands over neither. -/
def QueryKind.leafIsEncodable (kind : QueryKind) (field : Datum) (values : List Datum)
    (low high : Datum) : Bool :=
  (decide (kind = .among) && values.isEmpty) ||
    (field.isEncodable && (kind.tested values low high).all Datum.isEncodable)

namespace Query

mutual

/-- Whether the index can keep the texts of all leaves of a query. -/
def isEncodable : Query → Bool
  | .node kind field values low high children =>
    match kind with
    | .all => areEncodable children
    | .any => areEncodable children
    | leaf => leaf.leafIsEncodable field values low high
  | .foreign _ => true

/-- Whether the index can keep the texts of all leaves of a list of queries. -/
def areEncodable : List Query → Bool
  | [] => true
  | child :: rest => isEncodable child && areEncodable rest

end

/-- A list of queries is encodable when its members are. -/
theorem areEncodable_eq_all (queries : List Query) :
    areEncodable queries = queries.all isEncodable := by
  induction queries with
  | nil => rfl
  | cons child rest inductionHypothesis =>
    rw [areEncodable, List.all_cons, inductionHypothesis]

end Query

namespace Clause

/-- A parameter of a choice is a text or belongs to one of its values. -/
theorem of_parameter_mem_choice {name : Text} {values : List FieldValue} {parameter : Parameter}
    (member : parameter ∈ (choice name values).parameters) :
    parameter = .text name ∨ (∃ kind : ValueKind, parameter = .text kind.label) ∨
      ∃ value ∈ values, parameter = value.parameter := by
  rcases List.mem_cons.mp member with rfl | inGroups
  · exact .inl rfl
  · obtain ⟨group, groupMember, inGroup⟩ := List.mem_flatMap.mp inGroups
    rcases List.mem_cons.mp inGroup with rfl | held
    · exact .inr (.inl ⟨group.1, rfl⟩)
    · have listed := (mem_groupByKind _).mp ⟨group, groupMember, rfl, held⟩
      obtain ⟨value, valueMember, same⟩ := List.mem_map.mp listed
      exact .inr (.inr ⟨value, valueMember, (congrArg Prod.snd same).symm⟩)

/-- A choice can be handed over exactly when its name and its values can be kept. -/
theorem isBindable_choice {name : Text} {values : List FieldValue}
    (fits : ∀ value ∈ values, value.fits = true) :
    (choice name values).isBindable =
      (name.isEncodable && (values.map FieldValue.toDatum).all Datum.isEncodable) := by
  rw [Bool.eq_iff_iff, Bool.and_eq_true, List.all_map, List.all_eq_true, isBindable,
    List.all_eq_true]
  constructor
  · intro bindable
    refine ⟨bindable _ List.mem_cons_self, fun value member => ?_⟩
    rw [Function.comp_apply, FieldValue.isEncodable_toDatum,
      ← FieldValue.isBindable_parameter (fits value member)]
    exact bindable _ (parameter_mem_choice member)
  · rintro ⟨nameEncodable, encodable⟩ parameter member
    rcases of_parameter_mem_choice member with rfl | ⟨kind, rfl⟩ | ⟨value, valueMember, rfl⟩
    · exact nameEncodable
    · exact Text.isEncodable_ofString kind.label
    · rw [FieldValue.isBindable_parameter (fits value valueMember),
        ← FieldValue.isEncodable_toDatum]
      exact encodable value valueMember

/-- The bound of a range can be kept exactly when it is absent or its value can be kept. -/
theorem isEncodable_bound {given : Datum} {held : Option FieldValue}
    (passes : ∀ test : Datum → Bool,
      (!given.isPresent || test given) = held.all fun value => test value.toDatum) :
    given.isEncodable = held.all FieldValue.isEncodable := by
  have nullEncodable : given.isEncodable = (!given.isPresent || given.isEncodable) := by
    cases given <;> rfl
  rw [nullEncodable, passes]
  simp only [FieldValue.isEncodable_toDatum]

/-- A range can be handed over exactly when its name and its bounds can be kept. -/
theorem isBindable_between {name : Text} {kind : ValueKind} {lower upper : Option FieldValue}
    (fits : ∀ value ∈ lower.toList ++ upper.toList, value.fits = true) :
    (between name kind lower upper).isBindable =
      (name.isEncodable && (lower.all FieldValue.isEncodable &&
        upper.all FieldValue.isEncodable)) := by
  have ofBound (held : Option FieldValue) (heldFits : ∀ value ∈ held.toList, value.fits = true) :
      (held.toList.map FieldValue.parameter).all Parameter.isBindable =
        held.all FieldValue.isEncodable := by
    cases held with
    | none => rfl
    | some value => simp [FieldValue.isBindable_parameter (heldFits value (by simp))]
  have lowerFits : ∀ value ∈ lower.toList, value.fits = true := fun value member =>
    fits value (List.mem_append_left _ member)
  have upperFits : ∀ value ∈ upper.toList, value.fits = true := fun value member =>
    fits value (List.mem_append_right _ member)
  rw [isBindable, between, List.all_cons, List.all_cons, List.all_append, ofBound lower lowerFits,
    ofBound upper upperFits]
  simp

/-- The clause of an accepted leaf on a field can be handed over exactly when the leaf can. -/
theorem isBindable_fieldLeaf {kind : QueryKind} {name : Text} {values : List Datum}
    {low high : Datum} {clause : Clause}
    (accepted : fieldLeaf kind name values low high = .ok clause) :
    clause.isBindable = kind.leafIsEncodable (.text name) values low high := by
  cases kind with
  | present =>
    cases accepted
    simp [isBindable, Clause.present, QueryKind.leafIsEncodable, QueryKind.tested]
  | equals =>
    obtain ⟨tested, isTested, fits, rfl⟩ := of_equals accepted
    rw [QueryKind.leafIsEncodable, QueryKind.tested, isTested]
    simp [isBindable, FieldValue.isBindable_parameter fits]
  | among =>
    rcases of_among accepted with ⟨rfl, rfl⟩ | ⟨tested, rfl, someValue, fits, rfl⟩
    · rfl
    · rw [isBindable_choice fits, QueryKind.leafIsEncodable, QueryKind.tested]
      simp [someValue]
  | range =>
    obtain ⟨lower, upper, fits, lowTest, highTest, form⟩ := of_range accepted
    rw [QueryKind.leafIsEncodable, QueryKind.tested, List.all_cons, List.all_cons,
      isEncodable_bound lowTest, isEncodable_bound highTest]
    rcases form with ⟨rfl, rfl, rfl⟩ | ⟨kind, -, -, -, rfl⟩
    · simp [isBindable, Clause.present]
    · rw [isBindable_between fits]
      simp
  | all => cases accepted
  | any => cases accepted
  | unknown literal typeName => cases accepted

/-- The clause of an accepted leaf on the identifier can be handed over exactly when the leaf
can. -/
theorem isBindable_identifierLeaf {kind : QueryKind} {values : List Datum} {low high : Datum}
    {clause : Clause} (accepted : identifierLeaf kind values low high = .ok clause) :
    clause.isBindable =
      kind.leafIsEncodable (.text FieldName.identifier) values low high := by
  cases of_identifierLeaf accepted with
  | present => simp [isBindable, everything, QueryKind.leafIsEncodable, QueryKind.tested]
  | equals label tested =>
    rw [QueryKind.leafIsEncodable, QueryKind.tested, tested]
    simp [isBindable]
  | amongNone => rfl
  | among first rest =>
    simp [isBindable, QueryKind.leafIsEncodable, QueryKind.tested, Function.comp_def]
  | unbounded noLow noHigh =>
    simp [isBindable, everything, QueryKind.leafIsEncodable, QueryKind.tested,
      Datum.isEncodable_of_absent noLow, Datum.isEncodable_of_absent noHigh]
  | atLeast low noHigh =>
    simp [isBindable, QueryKind.leafIsEncodable, QueryKind.tested,
      Datum.isEncodable_of_absent noHigh]
  | atMost high noLow =>
    simp [isBindable, QueryKind.leafIsEncodable, QueryKind.tested,
      Datum.isEncodable_of_absent noLow]
  | between low high =>
    simp [isBindable, joined, QueryKind.leafIsEncodable, QueryKind.tested]

/-- The clause of an accepted leaf can be handed over exactly when the leaf can. -/
theorem isBindable_leaf {kind : QueryKind} {field : Datum} {values : List Datum} {low high : Datum}
    {clause : Clause} (accepted : leaf kind field values low high = .ok clause) :
    clause.isBindable = kind.leafIsEncodable field values low high := by
  obtain ⟨name, rfl, form⟩ := of_leaf accepted
  rcases form with ⟨rfl, ofIdentifier⟩ | ⟨-, ofField⟩
  · exact isBindable_identifierLeaf ofIdentifier
  · exact isBindable_fieldLeaf ofField

/-- A balanced tree can be handed over when its queries can. -/
theorem isBindable_balanced (connective : Connective) {queries : List Query}
    {clauses : List Clause} (accepted : ofQueries queries = .ok clauses)
    (agree : ∀ query ∈ queries, ∀ clause : Clause, ofQuery query = .ok clause →
      clause.isBindable = query.isEncodable) :
    (balanced connective clauses).isBindable = queries.all Query.isEncodable := by
  rw [ofQueries_eq_mapM] at accepted
  rw [isBindable, parameters_balanced, List.all_flatMap]
  have each := forall₂_of_mapM accepted
  clear accepted
  induction each with
  | nil => rfl
  | cons first later inductionHypothesis =>
    rw [List.forall_mem_cons] at agree
    rw [List.all_cons, List.all_cons, inductionHypothesis agree.2, ← agree.1 _ first]
    rfl

/-- The clause of an accepted query can be handed over exactly when the query can. -/
theorem isBindable_ofQuery {query : Query} {clause : Clause}
    (accepted : ofQuery query = .ok clause) : clause.isBindable = query.isEncodable := by
  induction query generalizing clause with
  | foreign given => cases accepted
  | node kind field values low high children inductionHypothesis =>
    have ofChildren (connective : Connective) {clauses : List Clause}
        (judged : ofQueries children = .ok clauses) :
        (balanced connective clauses).isBindable = Query.areEncodable children := by
      rw [Query.areEncodable_eq_all]
      exact isBindable_balanced connective judged fun child member _ childAccepted =>
        inductionHypothesis child member childAccepted
    rcases of_ofQuery accepted with
      ⟨clauses, rfl, judged, rfl⟩ | ⟨clauses, rfl, judged, rfl⟩ | ⟨notAll, notAny, judged⟩
    · exact ofChildren .conjunction judged
    · exact ofChildren .disjunction judged
    · rw [isBindable_leaf judged]
      cases kind <;> first | rfl | exact absurd rfl notAll | exact absurd rfl notAny

/-- The integers of an accepted leaf on a field are in range. -/
theorem fits_fieldLeaf {kind : QueryKind} {name : Text} {values : List Datum} {low high : Datum}
    {clause : Clause} (accepted : fieldLeaf kind name values low high = .ok clause) :
    ∀ parameter ∈ clause.parameters, parameter.fits = true := by
  intro parameter member
  cases kind with
  | present =>
    cases accepted
    rw [List.mem_singleton.mp member]
    rfl
  | equals =>
    obtain ⟨tested, -, fits, rfl⟩ := of_equals accepted
    simp only [List.mem_cons, List.not_mem_nil, or_false] at member
    rcases member with rfl | rfl | rfl
    · rfl
    · rfl
    · exact FieldValue.fits_parameter fits
  | among =>
    rcases of_among accepted with ⟨-, rfl⟩ | ⟨tested, -, -, fits, rfl⟩
    · cases member
    · rcases of_parameter_mem_choice member with rfl | ⟨kind, rfl⟩ | ⟨value, valueMember, rfl⟩
      · rfl
      · rfl
      · exact FieldValue.fits_parameter (fits value valueMember)
  | range =>
    obtain ⟨lower, upper, fits, -, -, form⟩ := of_range accepted
    rcases form with ⟨-, -, rfl⟩ | ⟨kind, -, -, -, rfl⟩
    · rw [List.mem_singleton.mp member]
      rfl
    · rw [between, ← List.map_append] at member
      rcases List.mem_cons.mp member with rfl | later
      · rfl
      · rcases List.mem_cons.mp later with rfl | ofBound
        · rfl
        · obtain ⟨value, valueMember, rfl⟩ := List.mem_map.mp ofBound
          exact FieldValue.fits_parameter (fits value valueMember)
  | all => cases accepted
  | any => cases accepted
  | unknown literal typeName => cases accepted

/-- A leaf on the identifier hands over no integers. -/
theorem fits_identifierLeaf {kind : QueryKind} {values : List Datum} {low high : Datum}
    {clause : Clause} (accepted : identifierLeaf kind values low high = .ok clause) :
    ∀ parameter ∈ clause.parameters, parameter.fits = true := by
  have texts (labels : List Text) : ∀ parameter ∈ labels.map Parameter.text,
      parameter.fits = true := by
    intro parameter member
    obtain ⟨label, -, rfl⟩ := List.mem_map.mp member
    rfl
  cases of_identifierLeaf accepted with
  | present => exact texts []
  | equals label tested => exact texts [label]
  | amongNone => exact texts []
  | among first rest => exact texts (first :: rest)
  | unbounded noLow noHigh => exact texts []
  | atLeast low noHigh => exact texts [low]
  | atMost high noLow => exact texts [high]
  | between low high => exact texts [low, high]

/-- The integers of an accepted query are in range. -/
theorem fits_ofQuery {query : Query} {clause : Clause} (accepted : ofQuery query = .ok clause) :
    ∀ parameter ∈ clause.parameters, parameter.fits = true := by
  induction query generalizing clause with
  | foreign given => cases accepted
  | node kind field values low high children inductionHypothesis =>
    have ofChildren (connective : Connective) {clauses : List Clause}
        (judged : ofQueries children = .ok clauses) :
        ∀ parameter ∈ (balanced connective clauses).parameters, parameter.fits = true := by
      rw [parameters_balanced]
      intro parameter member
      obtain ⟨clause, clauseMember, inClause⟩ := List.mem_flatMap.mp member
      rw [ofQueries_eq_mapM] at judged
      obtain ⟨child, childMember, childAccepted⟩ :=
        exists_of_mem_forall₂ (forall₂_of_mapM judged) clauseMember
      exact inductionHypothesis child childMember childAccepted parameter inClause
    rcases of_ofQuery accepted with
      ⟨clauses, rfl, judged, rfl⟩ | ⟨clauses, rfl, judged, rfl⟩ | ⟨-, -, judged⟩
    · exact ofChildren .conjunction judged
    · exact ofChildren .disjunction judged
    · obtain ⟨name, rfl, form⟩ := of_leaf judged
      rcases form with ⟨rfl, ofIdentifier⟩ | ⟨-, ofField⟩
      · exact fits_identifierLeaf ofIdentifier
      · exact fits_fieldLeaf ofField

end Clause

/-- Whether the index can keep the name that a sort gives. -/
def SortOrder.isEncodable (sort : Option SortOrder) : Bool :=
  sort.all fun sort => sort.field.isEncodable

namespace OrderClause

variable {sort : Option SortOrder} {order : OrderClause}

/-- The order of an accepted sort can be handed over exactly when the sort can. -/
theorem isBindable_ofSort (accepted : ofSort sort = .ok order) :
    order.isBindable = SortOrder.isEncodable sort := by
  cases sort with
  | none =>
    cases accepted
    rfl
  | some sort =>
    obtain ⟨name, direction, named, -, form⟩ := of_ofSort accepted
    rw [SortOrder.isEncodable, Option.all_some, named]
    rcases form with ⟨rfl, rfl⟩ | ⟨-, rfl⟩
    · simp [isBindable]
    · simp [isBindable]

/-- An order hands over no integers. -/
theorem fits_ofSort (accepted : ofSort sort = .ok order) :
    ∀ parameter ∈ order.parameters, parameter.fits = true := by
  intro parameter member
  cases sort with
  | none =>
    cases accepted
    cases member
  | some sort =>
    obtain ⟨name, direction, -, -, form⟩ := of_ofSort accepted
    rcases form with ⟨-, rfl⟩ | ⟨-, rfl⟩
    · cases member
    · rw [List.mem_singleton.mp member]
      rfl

end OrderClause
end Depot
