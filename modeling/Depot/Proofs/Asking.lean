import Depot.Proofs.Reading
import Depot.Proofs.Selecting
import Mathlib.Data.List.Induction

/-!
# What queries ask for

A query asks for a condition that has its values in its places: each leaf asks for its test, and a
composite joins what its children ask for, each in parentheses of its own. The clause of an accepted
query is that condition with the values put aside in their order, and the condition is legible.
-/

namespace Depot

namespace Condition

variable {hole : Type}

/-- The condition joins some parts in their order, each of them in parentheses of its own. More
parentheses may stand around parts that are joined. -/
inductive Joins (connective : Connective) : List (Condition hole) → Condition hole → Prop
  | part (condition : Condition hole) : Joins connective [condition] (.grouped condition)
  | joined {fronts backs : List (Condition hole)} {front back : Condition hole}
    (ofFront : Joins connective fronts front) (ofBack : Joins connective backs back) :
    Joins connective (fronts ++ backs) (.joined connective front back)
  | grouped {parts : List (Condition hole)} {whole : Condition hole}
    (ofWhole : Joins connective parts whole) : Joins connective parts (.grouped whole)

/-- Conditions that a connective joins from the left. -/
def chain (connective : Connective) (first : Condition hole) (rest : List (Condition hole)) :
    Condition hole :=
  rest.foldl (joined connective) first

/-- Legibility does not depend on the values. -/
theorem isLegible_shape (condition : Condition hole) :
    condition.shape.isLegible = condition.isLegible := by
  have sameConnective (condition : Condition hole) :
      condition.shape.connective? = condition.connective? := by
    cases condition <;> rfl
  induction condition with
  | among column operands => rw [shape, isLegible, isLegible, List.isEmpty_map]
  | joined connective left right ofLeft ofRight =>
    rw [shape, isLegible, isLegible, ofLeft, ofRight, sameConnective, sameConnective]
  | grouped inner ofInner => exact ofInner
  | fieldExists inner ofInner => exact ofInner
  | _ => rfl

/-- Legible operands that are joined from the left to a legible condition are legible. -/
theorem isLegible_chain (connective : Connective) {first : Condition hole}
    (legible : first.isLegible = true) (continues : first.connective?.all (· == connective) = true)
    {operands : List (Condition hole)}
    (each : ∀ operand ∈ operands, operand.isLegible = true ∧ operand.connective? = none) :
    (chain connective first operands).isLegible = true := by
  induction operands generalizing first with
  | nil => exact legible
  | cons operand rest inductionHypothesis =>
    rw [List.forall_mem_cons] at each
    refine inductionHypothesis ?_ ?_ each.2
    · rw [isLegible, legible, continues, each.1.1, each.1.2]
      rfl
    · simp [connective?]

/-- The document has a field row with the name that passes some tests. -/
def hasField (name : Text) (tests : List (Condition Parameter)) : Condition Parameter :=
  .fieldExists (chain .conjunction .owned (.compare .fieldName .equal (.text name) :: tests))

/-- A field row has a kind and one of some values. -/
def hasOneOf (kind : ValueKind) (values : List FieldValue) : Condition Parameter :=
  .grouped (.joined .conjunction (.compare .fieldKind .equal (.text kind.label))
    (.among .fieldValue (values.map FieldValue.parameter)))

/-- A test of a field by legible operands is legible. -/
theorem isLegible_hasField (name : Text) {tests : List (Condition Parameter)}
    (each : ∀ test ∈ tests, test.isLegible = true ∧ test.connective? = none) :
    (hasField name tests).isLegible = true :=
  isLegible_chain .conjunction rfl rfl (List.forall_mem_cons.mpr ⟨⟨rfl, rfl⟩, each⟩)

/-- A test of values is legible if there are any. -/
theorem isLegible_hasOneOf (kind : ValueKind) {values : List FieldValue} (some : values ≠ []) :
    (hasOneOf kind values).isLegible = true := by
  cases values with
  | nil => exact absurd rfl some
  | cons first rest => rfl

end Condition

/-- The kind of the queries whose children a connective joins. -/
def Connective.kind : Connective → QueryKind
  | conjunction => .all
  | disjunction => .any

/-- The bound that a datum gives: what is not there gives none. -/
def Datum.Bounds (given : Datum) : Option Datum → Prop
  | none => given.isPresent = false
  | some bound => given = bound

/-- What a leaf on the document identifier asks for. -/
inductive QueryKind.AsksIdentifier :
    QueryKind → List Datum → Datum → Datum → Condition Parameter → Prop
  | present {values : List Datum} {low high : Datum} :
    AsksIdentifier .present values low high (.constant true)
  | equals {values : List Datum} {low high : Datum} (label : Text)
    (tested : values.headD .null = .text label) :
    AsksIdentifier .equals values low high (.compare .documentId .equal (.text label))
  | amongNone {low high : Datum} : AsksIdentifier .among [] low high (.constant false)
  | among {low high : Datum} (first : Text) (rest : List Text) :
    AsksIdentifier .among ((first :: rest).map Datum.text) low high
      (.among .documentId ((first :: rest).map Parameter.text))
  | unbounded {values : List Datum} {low high : Datum} (noLow : low.Bounds none)
    (noHigh : high.Bounds none) : AsksIdentifier .range values low high (.constant true)
  | atLeast {values : List Datum} {high : Datum} (low : Text) (noHigh : high.Bounds none) :
    AsksIdentifier .range values (.text low) high (.compare .documentId .atLeast (.text low))
  | atMost {values : List Datum} {low : Datum} (high : Text) (noLow : low.Bounds none) :
    AsksIdentifier .range values low (.text high) (.compare .documentId .atMost (.text high))
  | between {values : List Datum} (low high : Text) :
    AsksIdentifier .range values (.text low) (.text high)
      (.joined .conjunction (.compare .documentId .atLeast (.text low))
        (.compare .documentId .atMost (.text high)))

/-- What a leaf on a field asks for: a field row of the document with the name that passes the test
of the leaf. -/
inductive QueryKind.AsksField (name : Text) :
    QueryKind → List Datum → Datum → Datum → Condition Parameter → Prop
  | present {values : List Datum} {low high : Datum} :
    AsksField name .present values low high (.hasField name [])
  | equals {values : List Datum} {low high : Datum} (value : FieldValue)
    (tested : values.headD .null = value.toDatum) :
    AsksField name .equals values low high
      (.hasField name [.compare .fieldKind .equal (.text value.kind.label),
        .compare .fieldValue .equal value.parameter])
  | amongNone {low high : Datum} : AsksField name .among [] low high (.constant false)
  /-- The values are put together by their kinds. -/
  | among {low high : Datum} {values : List FieldValue} {first : ValueKind} {rest : List ValueKind}
    (distinct : (first :: rest).Nodup)
    (occur : ∀ kind, kind ∈ first :: rest ↔ kind ∈ values.map FieldValue.kind) :
    AsksField name .among (values.map FieldValue.toDatum) low high
      (.hasField name [.grouped (.chain .disjunction
        (.hasOneOf first (values.filter fun value => value.kind = first))
        (rest.map fun kind => .hasOneOf kind (values.filter fun value => value.kind = kind)))])
  | unbounded {values : List Datum} {low high : Datum} (noLow : low.Bounds none)
    (noHigh : high.Bounds none) : AsksField name .range values low high (.hasField name [])
  | between {values : List Datum} {low high : Datum} {lower upper : Option FieldValue}
    (isLow : low.Bounds (lower.map FieldValue.toDatum))
    (isHigh : high.Bounds (upper.map FieldValue.toDatum)) (kind : ValueKind)
    (bounded : lower.toList ++ upper.toList ≠ [])
    (ofKind : ∀ bound ∈ lower.toList ++ upper.toList, bound.kind = kind) :
    AsksField name .range values low high
      (.hasField name (.compare .fieldKind .equal (.text kind.label) ::
        (lower.toList.map fun bound => .compare .fieldValue .atLeast bound.parameter) ++
        (upper.toList.map fun bound => .compare .fieldValue .atMost bound.parameter)))

/-- What a query asks for. A composite without children asks for nothing. -/
inductive Query.Asks : Query → Condition Parameter → Prop
  | identifier {kind : QueryKind} {values : List Datum} {low high : Datum} {children : List Query}
    {condition : Condition Parameter} (asks : kind.AsksIdentifier values low high condition) :
    Asks (.node kind (.text FieldName.identifier) values low high children) condition
  | field {kind : QueryKind} {name : Text} {values : List Datum} {low high : Datum}
    {children : List Query} {condition : Condition Parameter}
    (ordinary : name ≠ FieldName.identifier)
    (asks : kind.AsksField name values low high condition) :
    Asks (.node kind (.text name) values low high children) condition
  | nothing (connective : Connective) {field : Datum} {values : List Datum} {low high : Datum} :
    Asks (.node connective.kind field values low high []) (.constant true)
  | composite (connective : Connective) {field : Datum} {values : List Datum} {low high : Datum}
    {children : List Query} {conditions : List (Condition Parameter)}
    {condition : Condition Parameter} (each : List.Forall₂ Asks children conditions)
    (joins : condition.Joins connective conditions) :
    Asks (.node connective.kind field values low high children) condition

namespace Clause

/-- The clause is the condition with its values put aside. -/
structure WritesDown (clause : Clause) (condition : Condition Parameter) : Prop where
  shape : condition.shape = clause.condition
  operands : condition.operands = clause.parameters

/-- The clause writes down a legible condition that is asked for. -/
def Words (clause : Clause) (asks : Condition Parameter → Prop) : Prop :=
  ∃ condition, asks condition ∧ clause.WritesDown condition ∧ condition.isLegible = true

/-- The clause of an accepted leaf on the identifier writes down what the leaf asks for. -/
theorem words_identifierLeaf {kind : QueryKind} {values : List Datum} {low high : Datum}
    {clause : Clause} (accepted : identifierLeaf kind values low high = .ok clause) :
    clause.Words (kind.AsksIdentifier values low high) := by
  cases of_identifierLeaf accepted with
  | present => exact ⟨_, .present, ⟨rfl, rfl⟩, rfl⟩
  | equals label tested => exact ⟨_, .equals label tested, ⟨rfl, rfl⟩, rfl⟩
  | amongNone => exact ⟨_, .amongNone, ⟨rfl, rfl⟩, rfl⟩
  | among first rest =>
    refine ⟨_, .among first rest, ⟨?_, rfl⟩, rfl⟩
    rw [Condition.shape, List.map_map]
  | unbounded noLow noHigh => exact ⟨_, .unbounded noLow noHigh, ⟨rfl, rfl⟩, rfl⟩
  | atLeast low noHigh => exact ⟨_, .atLeast low noHigh, ⟨rfl, rfl⟩, rfl⟩
  | atMost high noLow => exact ⟨_, .atMost high noLow, ⟨rfl, rfl⟩, rfl⟩
  | between low high => exact ⟨_, .between low high, ⟨rfl, rfl⟩, rfl⟩

/-- A test of a field writes down its name before the values of its further tests. -/
theorem writesDown_hasField (name : Text) (tests : List (Condition Parameter)) :
    WritesDown ⟨fieldTest () (tests.map Condition.shape),
      .text name :: tests.flatMap Condition.operands⟩ (.hasField name tests) := by
  have sameTest : Condition.hasField name tests = fieldTest (.text name) tests := rfl
  rw [sameTest]
  exact ⟨Condition.shape_fieldTest _ tests, Condition.operands_fieldTest _ tests⟩

/-- A value goes to the group of its kind, which is a new one at the end for a new kind. -/
theorem addToGroup_map (kind : ValueKind) (value : Parameter) {kinds : List ValueKind}
    (distinct : kinds.Nodup) (members : ValueKind → List Parameter) :
    addToGroup kind value (kinds.map fun other => (other, members other)) =
      if kind ∈ kinds then kinds.map fun other =>
        (other, if other = kind then members other ++ [value] else members other)
      else (kinds.map fun other => (other, members other)) ++ [(kind, [value])] := by
  induction kinds with
  | nil => rfl
  | cons first rest inductionHypothesis =>
    rw [List.nodup_cons] at distinct
    rw [List.map_cons, addToGroup]
    by_cases same : first = kind
    · subst same
      rw [if_pos rfl, if_pos List.mem_cons_self, List.map_cons, if_pos rfl]
      refine congrArg _ (List.map_congr_left fun other member => ?_)
      rw [if_neg]
      rintro rfl
      exact distinct.1 member
    · rw [if_neg same, inductionHypothesis distinct.2]
      by_cases member : kind ∈ rest
      · rw [if_pos member, if_pos (List.mem_cons_of_mem first member), List.map_cons, if_neg same]
      · have notMember : kind ∉ first :: rest := by
          rw [List.mem_cons, not_or]
          exact ⟨Ne.symm same, member⟩
        rw [if_neg member, if_neg notMember, List.cons_append]

/-- The values of a kind, in order. -/
def ofKind (values : List (ValueKind × Parameter)) (kind : ValueKind) : List Parameter :=
  (values.filter fun value => value.1 = kind).map Prod.snd

/-- One more value is one more of its kind. -/
theorem ofKind_append_singleton (values : List (ValueKind × Parameter))
    (value : ValueKind × Parameter) (kind : ValueKind) :
    ofKind (values ++ [value]) kind =
      if kind = value.1 then ofKind values kind ++ [value.2] else ofKind values kind := by
  rw [ofKind, List.filter_append, List.map_append, List.filter_singleton]
  by_cases same : kind = value.1
  · simp [same, ofKind]
  · simp [same, Ne.symm same, ofKind]

/-- There are no values of a kind that does not occur. -/
theorem ofKind_eq_nil {values : List (ValueKind × Parameter)} {kind : ValueKind}
    (absent : kind ∉ values.map Prod.fst) : ofKind values kind = [] := by
  rw [ofKind, List.map_eq_nil_iff, List.filter_eq_nil_iff]
  intro value member
  rw [decide_eq_true_eq]
  rintro rfl
  exact absent (List.mem_map_of_mem member)

/-- Groups of values hold the values of their kinds in order; every kind that occurs has one
group. -/
theorem exists_groupByKind (values : List (ValueKind × Parameter)) :
    ∃ kinds : List ValueKind, kinds.Nodup ∧
      (∀ kind, kind ∈ kinds ↔ kind ∈ values.map Prod.fst) ∧
      groupByKind values = kinds.map fun kind => (kind, ofKind values kind) := by
  -- The groups are made by a fold from the left, so a value is added at the end.
  induction values using List.reverseRecOn with
  | nil => exact ⟨[], .nil, fun _ => Iff.rfl, rfl⟩
  | append_singleton values value inductionHypothesis =>
    obtain ⟨kinds, distinct, occur, groups⟩ := inductionHypothesis
    have grown : groupByKind (values ++ [value]) =
        addToGroup value.1 value.2 (groupByKind values) := by
      rw [groupByKind, List.foldl_append]
      rfl
    simp only [ofKind_append_singleton, List.map_append, List.mem_append, ← occur]
    rw [grown, groups, addToGroup_map _ _ distinct]
    by_cases known : value.1 ∈ kinds
    · refine ⟨kinds, distinct, fun kind => ⟨.inl, ?_⟩, if_pos known⟩
      rintro (member | isNew)
      · exact member
      · rw [List.mem_singleton.mp isNew]
        exact known
    · refine ⟨kinds ++ [value.1], ?_, fun kind => List.mem_append, ?_⟩
      · rw [← List.concat_eq_append]
        exact distinct.concat known
      · rw [if_neg known, List.map_append, List.map_singleton, if_pos rfl,
          ofKind_eq_nil (mt (occur value.1).mpr known)]
        refine congrArg (· ++ [(value.1, [value.2])]) (List.map_congr_left fun kind member => ?_)
        rw [if_neg]
        rintro rfl
        exact known member

/-- A choice writes down the values of each kind, kind by kind. -/
theorem words_choice {name : Text} {values : List FieldValue} (some : values ≠ [])
    (low high : Datum) :
    (choice name values).Words
      (QueryKind.AsksField name .among (values.map FieldValue.toDatum) low high) := by
  obtain ⟨kinds, distinct, occur, groups⟩ := exists_groupByKind (values.map FieldValue.typed)
  rw [List.map_map] at occur
  have filtered (kind : ValueKind) : ofKind (values.map FieldValue.typed) kind =
      (values.filter fun value => value.kind = kind).map FieldValue.parameter := by
    rw [ofKind, List.filter_map, List.map_map]
    rfl
  let test (kind : ValueKind) : Condition Parameter :=
    .hasOneOf kind (values.filter fun value => value.kind = kind)
  have written : choice name values = ⟨fieldTest () ([anyOf (kinds.map test)].map Condition.shape),
      .text name :: [anyOf (kinds.map test)].flatMap Condition.operands⟩ := by
    simp only [choice, groups, filtered, test, List.map_map, List.map_cons, List.map_nil,
      Condition.shape_anyOf, List.flatMap_cons, List.flatMap_nil, List.append_nil,
      Condition.operands_anyOf, List.flatMap_map]
    rfl
  have legible : ∀ kind ∈ kinds, (test kind).isLegible = true := by
    intro kind isKind
    obtain ⟨value, held, isOfKind⟩ := List.mem_map.mp ((occur kind).mp isKind)
    have isHeld : value ∈ values.filter fun value => value.kind = kind :=
      List.mem_filter.mpr ⟨held, decide_eq_true isOfKind⟩
    exact Condition.isLegible_hasOneOf kind (List.ne_nil_of_mem isHeld)
  cases kinds with
  | nil =>
    obtain ⟨value, member⟩ := List.exists_mem_of_ne_nil values some
    cases (occur value.kind).mpr (List.mem_map_of_mem member)
  | cons first rest =>
    rw [List.forall_mem_cons] at legible
    have chainLegible : (Condition.chain .disjunction (test first) (rest.map test)).isLegible =
        true := by
      refine Condition.isLegible_chain .disjunction legible.1 rfl ?_
      rw [List.forall_mem_map]
      exact fun kind member => ⟨legible.2 kind member, rfl⟩
    refine ⟨_, .among distinct occur, ?_, ?_⟩
    · rw [written]
      exact writesDown_hasField name [anyOf ((first :: rest).map test)]
    · refine Condition.isLegible_hasField name ?_
      rw [List.forall_mem_singleton]
      exact ⟨chainLegible, rfl⟩

/-- A bound that is tested like some value, or like none, gives that value, or none. -/
theorem bounds_of_tests {given : Datum} {held : Option FieldValue}
    (tests : ∀ test : Datum → Bool,
      (!given.isPresent || test given) = held.all fun value => test value.toDatum) :
    given.Bounds (held.map FieldValue.toDatum) := by
  classical
  cases held with
  | none => simpa [Datum.Bounds] using tests fun _ => false
  | some value =>
    have present := tests fun _ => false
    have same := tests fun other => decide (other = value.toDatum)
    rw [Option.all_some, Bool.or_false] at present
    rw [present, Option.all_some, Bool.false_or, decide_eq_true rfl] at same
    exact of_decide_eq_true same

/-- The clause of an accepted leaf on a field writes down what the leaf asks for. -/
theorem words_fieldLeaf {kind : QueryKind} {name : Text} {values : List Datum} {low high : Datum}
    {clause : Clause} (accepted : fieldLeaf kind name values low high = .ok clause) :
    clause.Words (kind.AsksField name values low high) := by
  cases kind with
  | present =>
    cases accepted
    exact ⟨_, .present, writesDown_hasField name [], rfl⟩
  | equals =>
    obtain ⟨value, tested, -, rfl⟩ := of_equals accepted
    exact ⟨_, .equals value tested, writesDown_hasField name
      [.compare .fieldKind .equal (.text value.kind.label),
        .compare .fieldValue .equal value.parameter], rfl⟩
  | among =>
    rcases of_among accepted with ⟨rfl, rfl⟩ | ⟨tested, rfl, some, -, rfl⟩
    · exact ⟨_, .amongNone, ⟨rfl, rfl⟩, rfl⟩
    · exact words_choice some low high
  | range =>
    obtain ⟨lower, upper, -, lowTests, highTests, form⟩ := of_range accepted
    have isLow := bounds_of_tests lowTests
    have isHigh := bounds_of_tests highTests
    rcases form with ⟨rfl, rfl, rfl⟩ | ⟨kind, -, bounded, ofKind, rfl⟩
    · exact ⟨_, .unbounded isLow isHigh, writesDown_hasField name [], rfl⟩
    · let parts : List (Condition Parameter) :=
        .compare .fieldKind .equal (.text kind.label) ::
          (lower.toList.map fun bound => .compare .fieldValue .atLeast bound.parameter) ++
          (upper.toList.map fun bound => .compare .fieldValue .atMost bound.parameter)
      have written : between name kind lower upper = ⟨fieldTest () (parts.map Condition.shape),
          .text name :: parts.flatMap Condition.operands⟩ := by
        cases lower <;> cases upper <;> rfl
      refine ⟨_, .between isLow isHigh kind bounded ofKind, ?_, ?_⟩
      · rw [written]
        exact writesDown_hasField name parts
      · cases lower <;> cases upper <;> rfl
  | all => cases accepted
  | any => cases accepted
  | unknown literal typeName => cases accepted

/-- Parentheses stand around what is written down in them. -/
theorem WritesDown.grouped {clause : Clause} {condition : Condition Parameter}
    (writes : clause.WritesDown condition) : clause.grouped.WritesDown (.grouped condition) :=
  ⟨congrArg Condition.grouped writes.shape, writes.operands⟩

/-- A connective stands between what is written down on both sides of it, and the values of the left
side come first. -/
theorem WritesDown.joined {left right : Clause} {front back : Condition Parameter}
    (ofLeft : left.WritesDown front) (ofRight : right.WritesDown back) (connective : Connective) :
    (Clause.joined connective left right).WritesDown (.joined connective front back) := by
  refine ⟨?_, ?_⟩
  · rw [Condition.shape, ofLeft.shape, ofRight.shape, Clause.joined]
  · rw [Condition.operands, ofLeft.operands, ofRight.operands, Clause.joined]

/-- Clauses that are joined as a balanced tree write down what joins their conditions. -/
theorem words_balanced (connective : Connective) {clauses : List Clause}
    {conditions : List (Condition Parameter)} (some : clauses ≠ [])
    (each : List.Forall₂ WritesDown clauses conditions)
    (legible : ∀ condition ∈ conditions, condition.isLegible = true) :
    (balanced connective clauses).Words (Condition.Joins connective conditions) := by
  -- The lists of clauses and of conditions are cut into halves at the same place.
  induction clauses using balanced.induct generalizing conditions with
  | case1 => exact absurd rfl some
  | case2 only =>
    obtain _ | ⟨writes, _ | _⟩ := each
    rw [List.forall_mem_singleton] at legible
    rw [balanced]
    exact ⟨_, .part _, writes.grouped, legible⟩
  | case3 left right =>
    obtain _ | ⟨ofLeft, _ | ⟨ofRight, _ | _⟩⟩ := each
    rw [List.forall_mem_cons, List.forall_mem_singleton] at legible
    rw [balanced]
    refine ⟨_, .joined (.part _) (.part _), ofLeft.grouped.joined ofRight.grouped connective, ?_⟩
    simp only [Condition.isLegible, legible.1, legible.2]
    rfl
  | case4 first second third rest all middle leftHypothesis =>
    rename_i rightHypothesis
    have longEnough : 3 ≤ all.length := by simp [all]
    have halves : middle = all.length / 2 := rfl
    have frontSome : all.take middle ≠ [] := by
      rw [ne_eq, List.take_eq_nil_iff, not_or]
      exact ⟨by omega, some⟩
    have backSome : all.drop middle ≠ [] := by
      rw [ne_eq, List.drop_eq_nil_iff]
      omega
    obtain ⟨front, joinsFront, ofFront, frontLegible⟩ :=
      leftHypothesis frontSome (List.forall₂_take middle each) fun condition member =>
        legible condition (List.mem_of_mem_take member)
    obtain ⟨back, joinsBack, ofBack, backLegible⟩ :=
      rightHypothesis backSome (List.forall₂_drop middle each) fun condition member =>
        legible condition (List.mem_of_mem_drop member)
    have joins := joinsFront.grouped.joined joinsBack.grouped
    rw [List.take_append_drop] at joins
    rw [balanced]
    refine ⟨_, joins, ofFront.grouped.joined ofBack.grouped connective, ?_⟩
    simp only [Condition.isLegible, frontLegible, backLegible]
    rfl

/-- Clauses of queries write down what the queries ask for when each of them does. -/
theorem forall₂_words {queries : List Query} {clauses : List Clause}
    (accepted : List.Forall₂ (fun query clause => ofQuery query = .ok clause) queries clauses)
    (words : ∀ query ∈ queries, ∀ clause, ofQuery query = .ok clause → clause.Words query.Asks) :
    ∃ conditions, List.Forall₂ Query.Asks queries conditions ∧
      List.Forall₂ WritesDown clauses conditions ∧
      ∀ condition ∈ conditions, condition.isLegible = true := by
  induction accepted with
  | nil => exact ⟨[], .nil, .nil, nofun⟩
  | cons first later inductionHypothesis =>
    rw [List.forall_mem_cons] at words
    obtain ⟨condition, asks, writes, legible⟩ := words.1 _ first
    obtain ⟨conditions, allAsk, allWrite, allLegible⟩ := inductionHypothesis words.2
    exact ⟨condition :: conditions, .cons asks allAsk, .cons writes allWrite,
      List.forall_mem_cons.mpr ⟨legible, allLegible⟩⟩

/-- The clause of an accepted query writes down what the query asks for. -/
theorem words_ofQuery {query : Query} {clause : Clause} (accepted : ofQuery query = .ok clause) :
    clause.Words query.Asks := by
  induction query generalizing clause with
  | foreign given => cases accepted
  | node kind field values low high children inductionHypothesis =>
    have ofChildren (connective : Connective) {clauses : List Clause}
        (judged : ofQueries children = .ok clauses) :
        (balanced connective clauses).Words
          (Query.Asks (.node connective.kind field values low high children)) := by
      rw [ofQueries_eq_mapM] at judged
      have each := forall₂_of_mapM judged
      obtain ⟨conditions, asks, writes, legible⟩ := forall₂_words each inductionHypothesis
      cases clauses with
      | nil =>
        cases each
        rw [balanced]
        exact ⟨_, .nothing connective, ⟨rfl, rfl⟩, rfl⟩
      | cons first rest =>
        obtain ⟨condition, joins, writesDown, isLegible⟩ :=
          words_balanced connective (List.cons_ne_nil first rest) writes legible
        exact ⟨condition, .composite connective asks joins, writesDown, isLegible⟩
    rcases of_ofQuery accepted with
      ⟨clauses, rfl, judged, rfl⟩ | ⟨clauses, rfl, judged, rfl⟩ | ⟨-, -, judged⟩
    · exact ofChildren .conjunction judged
    · exact ofChildren .disjunction judged
    · obtain ⟨name, rfl, ⟨rfl, ofIdentifier⟩ | ⟨ordinary, ofField⟩⟩ := of_leaf judged
      · obtain ⟨condition, asks, writes, legible⟩ := words_identifierLeaf ofIdentifier
        exact ⟨condition, .identifier asks, writes, legible⟩
      · obtain ⟨condition, asks, writes, legible⟩ := words_fieldLeaf ofField
        exact ⟨condition, .field ordinary asks, writes, legible⟩

end Clause

end Depot
