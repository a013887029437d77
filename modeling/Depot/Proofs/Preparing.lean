import Depot.Proofs.Answering
import Depot.Proofs.Asking
import Depot.Proofs.Translating
import Mathlib.Data.List.Perm.Subperm

/-!
# Statements that can be prepared

The conditions of leaves are low, and joining clauses as a balanced tree makes a condition higher by
no more than the number of times that their list can be halved. Unless a query is both deep and
wide, its statements are therefore never too high for the index, and only the number of their places
keeps them from being prepared.
-/

namespace Depot

namespace Condition

variable {hole : Type} {condition left right : Condition hole} {outer inner : Nat}

/-- The expressions of a condition are no higher than two bounds: outside its existence tests, and
inside them. -/
structure Within (condition : Condition hole) (outer inner : Nat) : Prop where
  outer : condition.height ≤ outer
  inner : condition.innerHeight ≤ inner

namespace Within

/-- Bounds can be raised. -/
theorem mono (within : condition.Within outer inner) {higher deeper : Nat}
    (outside : outer ≤ higher) (inside : inner ≤ deeper) : condition.Within higher deeper :=
  ⟨within.outer.trans outside, within.inner.trans inside⟩

/-- A connective stands one higher than what it joins. -/
theorem joined (ofLeft : left.Within outer inner) (ofRight : right.Within outer inner)
    (connective : Connective) : (Condition.joined connective left right).Within (outer + 1) inner :=
  ⟨Nat.succ_le_succ (Nat.max_le.mpr ⟨ofLeft.outer, ofRight.outer⟩),
    Nat.max_le.mpr ⟨ofLeft.inner, ofRight.inner⟩⟩

/-- Parentheses make nothing higher. -/
theorem grouped (within : condition.Within outer inner) :
    (Condition.grouped condition).Within outer inner :=
  ⟨within.outer, within.inner⟩

/-- Conditions that are joined from the left make each other higher by one. -/
theorem chain (connective : Connective) (first : condition.Within outer inner)
    {rest : List (Condition hole)} (each : ∀ other ∈ rest, other.Within outer inner) :
    (Condition.chain connective condition rest).Within (outer + rest.length) inner := by
  induction rest generalizing condition outer with
  | nil => exact first
  | cons other rest inductionHypothesis =>
    rw [List.forall_mem_cons] at each
    have later := inductionHypothesis (first.joined each.1 connective) fun another member =>
      (each.2 another member).mono (Nat.le_succ outer) (Nat.le_refl inner)
    exact later.mono (by rw [List.length_cons]; omega) (Nat.le_refl inner)

/-- Heights do not depend on the values. -/
theorem shape (within : condition.Within outer inner) : condition.shape.Within outer inner := by
  have sameHeight (condition : Condition hole) : condition.shape.height = condition.height := by
    induction condition <;> simp_all [Condition.shape, height]
  have sameInner (condition : Condition hole) :
      condition.shape.innerHeight = condition.innerHeight := by
    induction condition <;> simp_all [Condition.shape, innerHeight]
  exact ⟨(sameHeight condition).symm ▸ within.outer, (sameInner condition).symm ▸ within.inner⟩

end Within

/-- A condition has as many places as operands. -/
theorem places_shape (condition : Condition hole) :
    condition.shape.places = condition.operands.length := by
  induction condition <;> simp_all [shape, places, operands]

end Condition

/-- There are three kinds of values. -/
theorem ValueKind.length_le {kinds : List ValueKind} (distinct : kinds.Nodup) :
    kinds.length ≤ 3 := by
  have among : kinds ⊆ [.boolean, .number, .string] := fun kind _ => by cases kind <;> decide
  exact (List.Nodup.subperm distinct among).length_le

/-- A test of a field is as high as its name and the tests of it are joined from the left. -/
theorem Condition.within_hasField (name : Text) {tests : List (Condition Parameter)} {outer : Nat}
    (base : 3 ≤ outer) (each : ∀ test ∈ tests, test.Within outer 0) :
    (hasField name tests).Within (outer + tests.length + 2) (outer + tests.length + 1) := by
  have owned : (owned : Condition Parameter).Within outer 0 := ⟨base, Nat.le_refl 0⟩
  obtain ⟨outside, inside⟩ := owned.chain .conjunction (List.forall_mem_cons.mpr
    ⟨(⟨base, Nat.le_refl 0⟩ : (Condition.compare .fieldName .equal (.text name)).Within outer 0),
      each⟩)
  rw [List.length_cons] at outside
  exact ⟨Nat.succ_le_succ outside, Nat.max_le.mpr ⟨outside, inside.trans (Nat.zero_le _)⟩⟩

/-- What a leaf on the document identifier asks for is low. -/
theorem QueryKind.AsksIdentifier.within {kind : QueryKind} {values : List Datum} {low high : Datum}
    {condition : Condition Parameter} (asks : kind.AsksIdentifier values low high condition) :
    condition.Within 9 8 := by
  cases asks <;> exact ⟨by simp [Condition.height], by simp [Condition.innerHeight]⟩

/-- What a leaf on a field asks for is low. -/
theorem QueryKind.AsksField.within {name : Text} {kind : QueryKind} {values : List Datum}
    {low high : Datum} {condition : Condition Parameter}
    (asks : kind.AsksField name values low high condition) : condition.Within 9 8 := by
  have ofTests {tests : List (Condition Parameter)} (few : tests.length ≤ 4)
      (each : ∀ test ∈ tests, test.Within 3 0) : (Condition.hasField name tests).Within 9 8 :=
    (Condition.within_hasField name (Nat.le_refl 3) each).mono (by omega) (by omega)
  have compared (column : Column) (comparison : Comparison) (value : Parameter) :
      (Condition.compare column comparison value).Within 3 0 := ⟨Nat.le_refl 3, Nat.le_refl 0⟩
  cases asks with
  | present => exact ofTests (by decide) nofun
  | equals value tested =>
    exact ofTests (by simp) (by simp [compared])
  | amongNone => exact ⟨by decide, by decide⟩
  | @among low high values first rest distinct occur =>
    have oneKind (kind : ValueKind) (values : List FieldValue) :
        (Condition.hasOneOf kind values).Within 4 0 := ⟨Nat.le_refl 4, Nat.le_refl 0⟩
    have kinds := ValueKind.length_le distinct
    rw [List.length_cons] at kinds
    have others : ∀ other ∈ rest.map fun kind =>
        Condition.hasOneOf kind (values.filter fun value => value.kind = kind), other.Within 4 0 :=
      List.forall_mem_map.mpr fun kind _ => oneKind kind _
    have joined := (oneKind first (values.filter fun value => value.kind = first)).chain
      .disjunction others
    rw [List.length_map] at joined
    have grouped := (joined.mono (by omega : _ ≤ 6) (Nat.le_refl 0)).grouped
    exact Condition.within_hasField name (by decide) (List.forall_mem_singleton.mpr grouped)
  | unbounded noLow noHigh => exact ofTests (by decide) nofun
  | @between _ _ _ lower upper isLow isHigh kind bounded ofKind =>
    exact ofTests (by cases lower <;> cases upper <;> simp)
      (by cases lower <;> cases upper <;> simp [compared])

namespace Query

mutual

/-- The greatest number of children of a composite in a query. -/
def width : Query → Nat
  | .node kind _ _ _ _ children =>
    match kind with
    | .all => max children.length (widthOf children)
    | .any => max children.length (widthOf children)
    | _ => 0
  | .foreign _ => 0

/-- The greatest number of children of a composite in some queries. -/
def widthOf : List Query → Nat
  | [] => 0
  | child :: rest => max (width child) (widthOf rest)

end

/-- A list of queries is narrow when each of its members is. -/
theorem widthOf_le_iff (queries : List Query) (bound : Nat) :
    widthOf queries ≤ bound ↔ ∀ query ∈ queries, query.width ≤ bound := by
  induction queries with
  | nil => simp [widthOf]
  | cons child rest inductionHypothesis =>
    rw [widthOf, Nat.max_le, inductionHypothesis, List.forall_mem_cons]

end Query

namespace Clause

variable {clause : Clause} {condition : Condition Parameter} {outer inner : Nat}

/-- A clause is as high as the condition that it writes down. -/
theorem WritesDown.within (writes : clause.WritesDown condition)
    (within : condition.Within outer inner) : clause.condition.Within outer inner :=
  writes.shape ▸ within.shape

/-- A clause has as many places as parameters. -/
theorem WritesDown.places (writes : clause.WritesDown condition) :
    clause.condition.places = clause.parameters.length := by
  rw [← writes.shape, ← writes.operands, Condition.places_shape]

/-- The clause of a leaf is low. -/
theorem within_leaf {kind : QueryKind} {field : Datum} {values : List Datum} {low high : Datum}
    (accepted : leaf kind field values low high = .ok clause) :
    clause.condition.Within 9 8 := by
  obtain ⟨name, rfl, ⟨-, ofIdentifier⟩ | ⟨-, ofField⟩⟩ := of_leaf accepted
  · obtain ⟨condition, asks, writes, -⟩ := words_identifierLeaf ofIdentifier
    exact writes.within asks.within
  · obtain ⟨condition, asks, writes, -⟩ := words_fieldLeaf ofField
    exact writes.within asks.within

/-- Joining clauses as a balanced tree makes them higher by no more than the number of times that
their list can be halved. -/
theorem within_balanced (connective : Connective) {clauses : List Clause} {steps : Nat}
    (base : 2 ≤ outer) (each : ∀ clause ∈ clauses, clause.condition.Within outer inner)
    (few : clauses.length ≤ 2 ^ steps) :
    (balanced connective clauses).condition.Within (outer + steps) inner := by
  induction clauses using balanced.induct generalizing steps with
  | case1 =>
    rw [balanced]
    exact ⟨base.trans (Nat.le_add_right outer steps), Nat.zero_le inner⟩
  | case2 only =>
    rw [balanced]
    exact (each only List.mem_cons_self).grouped.mono (Nat.le_add_right outer steps) (Nat.le_refl _)
  | case3 left right =>
    rw [List.forall_mem_cons, List.forall_mem_singleton] at each
    cases steps with
    | zero => simp at few
    | succ steps =>
      rw [balanced]
      exact (each.1.grouped.joined each.2.grouped connective).mono (by omega) (Nat.le_refl _)
  | case4 first second third rest all middle leftHypothesis =>
    rename_i rightHypothesis
    have longEnough : 3 ≤ all.length := by simp [all]
    have halves : middle = all.length / 2 := rfl
    have bounded : all.length ≤ 2 ^ steps := few
    cases steps with
    | zero => omega
    | succ steps =>
      rw [Nat.pow_succ] at bounded
      have front := @leftHypothesis steps
        (fun clause member => each clause (List.mem_of_mem_take member))
        (by rw [List.length_take]; omega)
      have back := @rightHypothesis steps
        (fun clause member => each clause (List.mem_of_mem_drop member))
        (by rw [List.length_drop]; omega)
      rw [balanced]
      exact front.grouped.joined back.grouped connective

/-- The clause of a query is higher than a leaf by no more than the number of times that lists of
children can be halved, on each of its levels. -/
theorem within_ofQuery {query : Query} {steps : Nat} (accepted : ofQuery query = .ok clause)
    (narrow : query.width ≤ 2 ^ steps) :
    clause.condition.Within (9 + steps * query.levels) 8 := by
  induction query generalizing clause with
  | foreign given => cases accepted
  | node kind field values low high children inductionHypothesis =>
    have ofChildren (connective : Connective) {clauses : List Clause}
        (judged : ofQueries children = .ok clauses)
        (narrow : max children.length (Query.widthOf children) ≤ 2 ^ steps) :
        (balanced connective clauses).condition.Within
          (9 + steps * (Query.levelsOf children + 1)) 8 := by
      obtain ⟨few, narrowChildren⟩ := Nat.max_le.mp narrow
      rw [Query.widthOf_le_iff] at narrowChildren
      rw [ofQueries_eq_mapM] at judged
      have each := forall₂_of_mapM judged
      have members : ∀ clause ∈ clauses,
          clause.condition.Within (9 + steps * Query.levelsOf children) 8 := by
        intro clause member
        obtain ⟨child, childMember, ofChild⟩ := exists_of_mem_forall₂ each member
        have levels := (Query.levelsOf_le_iff children _).mp (Nat.le_refl _) child childMember
        exact (inductionHypothesis child childMember ofChild
          (narrowChildren child childMember)).mono
            (Nat.add_le_add_left (Nat.mul_le_mul_left steps levels) 9) (Nat.le_refl 8)
      rw [Nat.mul_succ, ← Nat.add_assoc]
      exact within_balanced connective (by omega) members (each.length_eq ▸ few)
    rcases of_ofQuery accepted with
      ⟨clauses, rfl, judged, rfl⟩ | ⟨clauses, rfl, judged, rfl⟩ | ⟨-, -, judged⟩
    · exact ofChildren .conjunction judged narrow
    · exact ofChildren .disjunction judged narrow
    · exact (within_leaf judged).mono (Nat.le_add_right 9 _) (Nat.le_refl 8)

end Clause

namespace Selection

variable {selection : Selection} {query : Query} {sort : Option SortOrder}

/-- The page statement of an accepted query has a place for each of its parameters. -/
theorem pagePlaces_eq (accepted : ofQuery (some query) sort = .ok selection) :
    selection.pagePlaces =
      selection.condition.parameters.length + selection.order.parameters.length + 3 := by
  obtain ⟨⟨⟨⟩, -⟩ | ⟨_, ⟨⟩, judged⟩, ordered⟩ := of_ofQuery accepted
  obtain ⟨condition, -, writes, -⟩ := Clause.words_ofQuery judged
  have orderPlaces : selection.order.key.places = selection.order.parameters.length := by
    cases sort with
    | none =>
      rw [← Except.ok.inj ordered]
      rfl
    | some sort =>
      obtain ⟨name, direction, -, -, ⟨-, form⟩ | ⟨-, form⟩⟩ := OrderClause.of_ofSort ordered <;>
        rw [form] <;> rfl
  rw [pagePlaces, writes.places, orderPlaces]

/-- A query that can be prepared with an order can be prepared without one. -/
theorem isPreparable_of_sorted (accepted : ofQuery (some query) none = .ok selection)
    {sorted : Selection} (sortAccepted : ofQuery (some query) sort = .ok sorted)
    (preparable : sorted.isPreparable = true) : selection.isPreparable = true := by
  obtain ⟨⟨⟨⟩, -⟩ | ⟨_, ⟨⟩, judged⟩, ordered⟩ := of_ofQuery accepted
  obtain ⟨⟨⟨⟩, -⟩ | ⟨_, ⟨⟩, sortJudged⟩, -⟩ := of_ofQuery sortAccepted
  have sameCondition : selection.condition = sorted.condition :=
    Except.ok.inj (judged.symm.trans sortJudged)
  have noOrder : selection.order = .filing := Except.ok.inj ordered.symm
  rw [isPreparable_iff, pagePlaces] at preparable ⊢
  rw [sameCondition, noOrder]
  refine ⟨le_trans ?_ preparable.1, preparable.2⟩
  exact Nat.add_le_add_right (Nat.add_le_add_left (Nat.zero_le _) _) 3

/-- The statements of an accepted query that is not both deep and wide can be prepared when there
are no more parameters than places. -/
theorem isPreparable_iff_of_narrow (accepted : ofQuery (some query) sort = .ok selection)
    {steps : Nat} (narrow : query.width ≤ 2 ^ steps)
    (low : steps * query.levels + 18 ≤ heightLimit) :
    selection.isPreparable = true ↔ selection.condition.parameters.length +
      selection.order.parameters.length + 3 ≤ parameterLimit := by
  obtain ⟨⟨⟨⟩, -⟩ | ⟨_, ⟨⟩, judged⟩, -⟩ := of_ofQuery accepted
  obtain ⟨outside, inside⟩ := Clause.within_ofQuery judged narrow
  rw [isPreparable_iff, pagePlaces_eq accepted, and_iff_left_iff_imp]
  intro _
  rw [Condition.statementHeight]
  omega

end Selection

/-- An accepted order has one place at most. -/
theorem OrderClause.length_parameters_ofSort {sort : Option SortOrder} {order : OrderClause}
    (accepted : ofSort sort = .ok order) : order.parameters.length ≤ 1 := by
  cases sort with
  | none =>
    cases accepted
    exact Nat.zero_le 1
  | some sort =>
    obtain ⟨name, direction, -, -, ⟨-, rfl⟩ | ⟨-, rfl⟩⟩ := of_ofSort accepted
    · exact Nat.zero_le 1
    · exact Nat.le_refl 1

/-- An accepted leaf that is no choice has four places at most. -/
theorem Clause.length_parameters_leaf {kind : QueryKind} {field : Datum} {values : List Datum}
    {low high : Datum} {clause : Clause} (notAmong : kind ≠ .among)
    (accepted : leaf kind field values low high = .ok clause) : clause.parameters.length ≤ 4 := by
  obtain ⟨name, rfl, ⟨rfl, ofIdentifier⟩ | ⟨ordinary, ofField⟩⟩ := of_leaf accepted
  · cases of_identifierLeaf ofIdentifier <;>
      first | exact absurd rfl notAmong | exact Nat.le_of_ble_eq_true rfl
  · cases kind with
    | present =>
      cases ofField
      simp [present]
    | equals =>
      obtain ⟨tested, -, -, rfl⟩ := of_equals ofField
      simp
    | range =>
      obtain ⟨lower, upper, -, -, -, ⟨-, -, rfl⟩ | ⟨rangeKind, -, -, -, rfl⟩⟩ := of_range ofField
      · simp [present]
      · cases lower <;> cases upper <;> simp [between]
    | among => exact absurd rfl notAmong
    | all => cases ofField
    | any => cases ofField
    | unknown literal typeName => cases ofField

namespace Query

/-- The statements of a query can be prepared with an order, if it is translated with it. -/
def IsPreparable (query : Query) (sort : Option SortOrder) : Prop :=
  ∀ selection, Selection.translate (some query) sort = .ok selection →
    selection.isPreparable = true

/-- A query that is not both deep and wide can be prepared when it has few enough places. -/
theorem isPreparable_of_narrow {query : Query} {steps bound : Nat}
    (narrow : query.width ≤ 2 ^ steps) (low : steps * query.levels + 18 ≤ heightLimit)
    (few : ∀ clause, Clause.ofQuery query = .ok clause → clause.parameters.length ≤ bound)
    (fits : bound + 4 ≤ parameterLimit) (sort : Option SortOrder) : query.IsPreparable sort := by
  intro selection translated
  have accepted := (Selection.translateWithin_eq_ok_iff.mp translated).1
  obtain ⟨⟨⟨⟩, -⟩ | ⟨_, ⟨⟩, judged⟩, ordered⟩ := Selection.of_ofQuery accepted
  have places := few _ judged
  have ofOrder := OrderClause.length_parameters_ofSort ordered
  rw [Selection.isPreparable_iff_of_narrow accepted narrow low]
  omega

/-- A leaf that is no choice can be prepared. -/
theorem isPreparable_leaf {kind : QueryKind} {field : Datum} {values : List Datum}
    {low high : Datum} {children : List Query} (isLeaf : kind.isLeaf = true)
    (notAmong : kind ≠ .among) (sort : Option SortOrder) :
    (node kind field values low high children).IsPreparable sort := by
  have narrow : (node kind field values low high children).width ≤ 2 ^ 0 := by
    cases kind <;> first | exact Nat.zero_le 1 | cases isLeaf
  have few (clause : Clause)
      (accepted : Clause.ofQuery (node kind field values low high children) = .ok clause) :
      clause.parameters.length ≤ 4 := by
    have ofLeaf : Clause.leaf kind field values low high = .ok clause := by
      cases kind <;> first | exact accepted | cases isLeaf
    exact Clause.length_parameters_leaf notAmong ofLeaf
  exact isPreparable_of_narrow narrow (by rw [Nat.zero_mul]; decide) few (by decide) sort

end Query

end Depot
