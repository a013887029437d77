import Depot.Proofs.Asking
import Depot.Proofs.Searching
import Depot.Proofs.Validity
import Mathlib.Data.Option.Basic

/-!
# Queries of one shape

Two queries have the same shape when they differ in nothing but the names, the identifiers and the
values that they hold. What is written for accepted queries and orders of the same shape is the
same, whatever these texts look like: none of them comes into the statement, all of them stand
beside it.
-/

namespace Depot

/-- The kind of values that a datum belongs to. Whether the index can keep it does not matter. -/
def Datum.kind? (given : Datum) : Option ValueKind :=
  (FieldValue.ofDatum? given).map FieldValue.kind

/-- Field values belong to their own kinds. -/
theorem Datum.map_kind?_toDatum (values : List FieldValue) :
    (values.map FieldValue.toDatum).map Datum.kind? = values.map fun value => some value.kind := by
  rw [List.map_map]
  refine List.map_congr_left fun value _ => ?_
  rw [Function.comp_apply, Datum.kind?, FieldValue.ofDatum?_toDatum, Option.map_some]

/-- A text names the document identifier exactly if it is that name. -/
theorem Datum.isIdentifier_text (name : Text) :
    (Datum.text name).isIdentifier = true ↔ name = FieldName.identifier := by
  rw [Datum.isIdentifier, Datum.text?, beq_iff_eq, Option.some_inj]
  rfl

/-- Leaves of a kind have the same shape: all of them compare the document identifier or none does,
bounds of ranges are present on both sides or on neither, and choices are among equally many values,
which belong to the same kinds in the same order unless they are compared with the identifier. -/
structure QueryKind.SameLeaf (kind : QueryKind) (leftField rightField : Datum)
    (leftValues rightValues : List Datum) (leftLow rightLow leftHigh rightHigh : Datum) :
    Prop where
  identifier : leftField.isIdentifier = rightField.isIdentifier
  lower : kind = .range → leftLow.isPresent = rightLow.isPresent
  upper : kind = .range → leftHigh.isPresent = rightHigh.isPresent
  count : kind = .among → leftValues.length = rightValues.length
  kinds : kind = .among → leftField.isIdentifier = false →
    leftValues.map Datum.kind? = rightValues.map Datum.kind?

/-- Queries have the same shape. What a node carries without using it does not matter. -/
inductive Query.SameShape : Query → Query → Prop
  | leaf {kind : QueryKind} {leftField rightField : Datum} {leftValues rightValues : List Datum}
    {leftLow rightLow leftHigh rightHigh : Datum} {leftChildren rightChildren : List Query}
    (isLeaf : kind.isLeaf = true)
    (same : kind.SameLeaf leftField rightField leftValues rightValues leftLow rightLow leftHigh
      rightHigh) :
    SameShape (.node kind leftField leftValues leftLow leftHigh leftChildren)
      (.node kind rightField rightValues rightLow rightHigh rightChildren)
  | composite (connective : Connective) {leftField rightField : Datum}
    {leftValues rightValues : List Datum} {leftLow rightLow leftHigh rightHigh : Datum}
    {leftChildren rightChildren : List Query}
    (each : List.Forall₂ SameShape leftChildren rightChildren) :
    SameShape (.node connective.kind leftField leftValues leftLow leftHigh leftChildren)
      (.node connective.kind rightField rightValues rightLow rightHigh rightChildren)

/-- Orders have the same shape. -/
structure SortOrder.SameShape (left right : SortOrder) : Prop where
  identifier : left.field.isIdentifier = right.field.isIdentifier
  direction : SortDirection.ofDatum? left.direction = SortDirection.ofDatum? right.direction

namespace Clause

variable {left right : Clause}

/-- Groups of the same kinds, with equally many values in each of them. -/
def SameGroups : List (ValueKind × List Parameter) → List (ValueKind × List Parameter) → Prop :=
  List.Forall₂ fun left right => left.1 = right.1 ∧ left.2.length = right.2.length

/-- Values of one kind are added to groups of that kind. -/
theorem SameGroups.addToGroup {leftGroups rightGroups : List (ValueKind × List Parameter)}
    (same : SameGroups leftGroups rightGroups) (kind : ValueKind) (first second : Parameter) :
    SameGroups (addToGroup kind first leftGroups) (addToGroup kind second rightGroups) := by
  induction same with
  | nil => exact .cons ⟨rfl, rfl⟩ .nil
  | @cons leftGroup rightGroup leftRest rightRest agree later inductionHypothesis =>
    obtain ⟨present, leftValues⟩ := leftGroup
    obtain ⟨_, rightValues⟩ := rightGroup
    obtain ⟨rfl, equallyMany⟩ := agree
    rw [Clause.addToGroup, Clause.addToGroup]
    by_cases isPresent : present = kind
    · rw [if_pos isPresent, if_pos isPresent]
      exact .cons ⟨rfl, by rw [List.length_append, List.length_append, equallyMany]; rfl⟩ later
    · rw [if_neg isPresent, if_neg isPresent]
      exact .cons ⟨rfl, equallyMany⟩ inductionHypothesis

/-- The groups of values are those of their kinds. -/
theorem sameGroups_groupByKind {leftValues rightValues : List (ValueKind × Parameter)}
    (same : List.Forall₂ (fun left right => left.1 = right.1) leftValues rightValues) :
    SameGroups (groupByKind leftValues) (groupByKind rightValues) := by
  refine List.rel_foldl ?_ .nil same
  rintro leftGroups rightGroups sameGroups ⟨kind, first⟩ ⟨_, second⟩ rfl
  exact sameGroups.addToGroup kind first second

/-- The tests of groups do not depend on the values in them. -/
theorem SameGroups.groupTests {leftGroups rightGroups : List (ValueKind × List Parameter)}
    (same : SameGroups leftGroups rightGroups) :
    (leftGroups.map fun group => groupTest () (group.2.map fun _ => ())) =
      rightGroups.map fun group => groupTest () (group.2.map fun _ => ()) := by
  induction same with
  | nil => rfl
  | cons agree later inductionHypothesis =>
    rw [List.map_cons, List.map_cons, inductionHypothesis, List.map_const', List.map_const',
      agree.2]

/-- What is written for a choice does not depend on the name and on the values. -/
theorem condition_choice_eq (leftName rightName : Text) {leftValues rightValues : List FieldValue}
    (sameKinds : leftValues.map FieldValue.kind = rightValues.map FieldValue.kind) :
    (choice leftName leftValues).condition = (choice rightName rightValues).condition := by
  have typedAlike : List.Forall₂ (fun left right => left.1 = right.1)
      (leftValues.map FieldValue.typed) (rightValues.map FieldValue.typed) := by
    rw [List.forall₂_map_left_iff, List.forall₂_map_right_iff]
    rwa [← List.forall₂_eq_eq_eq, List.forall₂_map_left_iff, List.forall₂_map_right_iff]
      at sameKinds
  rw [choice, choice]
  simp only [(sameGroups_groupByKind typedAlike).groupTests]

/-- A bound that gives a value is present. -/
theorem isSome_of_bounds {given : Datum} {held : Option FieldValue}
    (bounds : given.Bounds (held.map FieldValue.toDatum)) : held.isSome = given.isPresent := by
  cases held with
  | none => exact (show given.isPresent = false from bounds).symm
  | some value =>
    rw [show given = value.toDatum from bounds]
    cases value <;> rfl

/-- What is written for a range on a field depends on the bounds that are present. -/
theorem condition_range {name : Text} {low high : Datum} {clause : Clause}
    (accepted : range name low high = .ok clause) :
    clause.condition = fieldTest () (
      if low.isPresent || high.isPresent then
        .compare .fieldKind .equal () ::
          (if low.isPresent then [.compare .fieldValue .atLeast ()] else []) ++
          (if high.isPresent then [.compare .fieldValue .atMost ()] else [])
      else []) := by
  obtain ⟨lower, upper, -, lowTests, highTests, form⟩ := of_range accepted
  rw [← isSome_of_bounds (bounds_of_tests lowTests), ← isSome_of_bounds (bounds_of_tests highTests)]
  rcases form with ⟨rfl, rfl, rfl⟩ | ⟨kind, -, bounded, -, rfl⟩
  · rfl
  · cases lower <;> cases upper <;> first | rfl | exact absurd rfl bounded

/-- What is written for a range on the document identifier depends on the bounds that are
present. -/
theorem condition_identifierRange {values : List Datum} {low high : Datum} {clause : Clause}
    (accepted : identifierLeaf .range values low high = .ok clause) :
    clause.condition =
      match low.isPresent, high.isPresent with
      | false, false => .constant true
      | true, false => .compare .documentId .atLeast ()
      | false, true => .compare .documentId .atMost ()
      | true, true => .joined .conjunction (.compare .documentId .atLeast ())
        (.compare .documentId .atMost ()) := by
  cases of_identifierLeaf accepted with
  | unbounded noLow noHigh => rw [noLow, noHigh]; rfl
  | atLeast low noHigh => rw [noHigh]; rfl
  | atMost high noLow => rw [noLow]; rfl
  | between low high => rfl

/-- What is written for a choice among identifiers depends on their number. -/
theorem condition_identifierAmong {values : List Datum} {low high : Datum} {clause : Clause}
    (accepted : identifierLeaf .among values low high = .ok clause) :
    clause.condition = if values.length = 0 then .constant false
      else .among .documentId (List.replicate values.length ()) := by
  cases of_identifierLeaf accepted with
  | amongNone => rfl
  | among first rest =>
    rw [if_neg (by simp), List.length_map, List.map_const']

section

variable {kind : QueryKind} {leftField rightField : Datum} {leftValues rightValues : List Datum}
  {leftLow rightLow leftHigh rightHigh : Datum}

/-- What is written for leaves of the same shape on the document identifier is the same. -/
theorem condition_identifierLeaf_eq
    (same : kind.SameLeaf leftField rightField leftValues rightValues leftLow rightLow leftHigh
      rightHigh)
    (leftAccepted : identifierLeaf kind leftValues leftLow leftHigh = .ok left)
    (rightAccepted : identifierLeaf kind rightValues rightLow rightHigh = .ok right) :
    left.condition = right.condition := by
  cases kind with
  | present =>
    cases leftAccepted
    cases rightAccepted
    rfl
  | equals =>
    cases of_identifierLeaf leftAccepted
    cases of_identifierLeaf rightAccepted
    rfl
  | among =>
    rw [condition_identifierAmong leftAccepted, condition_identifierAmong rightAccepted,
      same.count rfl]
  | range =>
    rw [condition_identifierRange leftAccepted, condition_identifierRange rightAccepted,
      same.lower rfl, same.upper rfl]
  | all => cases leftAccepted
  | any => cases leftAccepted
  | unknown literal typeName => cases leftAccepted

/-- What is written for leaves of the same shape on fields is the same. -/
theorem condition_fieldLeaf_eq {leftName rightName : Text}
    (same : kind.SameLeaf leftField rightField leftValues rightValues leftLow rightLow leftHigh
      rightHigh)
    (ordinary : leftField.isIdentifier = false)
    (leftAccepted : fieldLeaf kind leftName leftValues leftLow leftHigh = .ok left)
    (rightAccepted : fieldLeaf kind rightName rightValues rightLow rightHigh = .ok right) :
    left.condition = right.condition := by
  cases kind with
  | present =>
    cases leftAccepted
    cases rightAccepted
    rfl
  | equals =>
    obtain ⟨-, -, -, rfl⟩ := of_equals leftAccepted
    obtain ⟨-, -, -, rfl⟩ := of_equals rightAccepted
    rfl
  | among =>
    have sameKinds := same.kinds rfl ordinary
    rcases of_among leftAccepted with ⟨rfl, rfl⟩ | ⟨leftTested, rfl, leftSome, -, rfl⟩ <;>
      rcases of_among rightAccepted with ⟨rfl, rfl⟩ | ⟨rightTested, rfl, rightSome, -, rfl⟩
    · rfl
    · cases rightTested with
      | nil => exact absurd rfl rightSome
      | cons value rest => cases sameKinds
    · cases leftTested with
      | nil => exact absurd rfl leftSome
      | cons value rest => cases sameKinds
    · rw [Datum.map_kind?_toDatum, Datum.map_kind?_toDatum] at sameKinds
      refine condition_choice_eq leftName rightName ?_
      refine List.map_injective_iff.mpr (Option.some_injective ValueKind) ?_
      rwa [List.map_map, List.map_map]
  | range =>
    rw [condition_range leftAccepted, condition_range rightAccepted, same.lower rfl, same.upper rfl]
  | all => cases leftAccepted
  | any => cases leftAccepted
  | unknown literal typeName => cases leftAccepted

/-- What is written for leaves of the same shape is the same. -/
theorem condition_leaf_eq
    (same : kind.SameLeaf leftField rightField leftValues rightValues leftLow rightLow leftHigh
      rightHigh)
    (leftAccepted : leaf kind leftField leftValues leftLow leftHigh = .ok left)
    (rightAccepted : leaf kind rightField rightValues rightLow rightHigh = .ok right) :
    left.condition = right.condition := by
  obtain ⟨leftName, rfl, leftForm⟩ := of_leaf leftAccepted
  obtain ⟨rightName, rfl, rightForm⟩ := of_leaf rightAccepted
  have agree : leftName = FieldName.identifier ↔ rightName = FieldName.identifier := by
    rw [← Datum.isIdentifier_text, ← Datum.isIdentifier_text, same.identifier]
  rcases leftForm with ⟨onIdentifier, ofLeft⟩ | ⟨ordinary, ofLeft⟩ <;>
    rcases rightForm with ⟨alsoIdentifier, ofRight⟩ | ⟨alsoOrdinary, ofRight⟩
  · exact condition_identifierLeaf_eq same ofLeft ofRight
  · exact absurd (agree.mp onIdentifier) alsoOrdinary
  · exact absurd (agree.mpr alsoIdentifier) ordinary
  · refine condition_fieldLeaf_eq same ?_ ofLeft ofRight
    rw [← Bool.not_eq_true, Datum.isIdentifier_text]
    exact ordinary

end

section

variable {field : Datum} {values : List Datum} {low high : Datum} {children : List Query}
  {clause : Clause}

/-- The clause of an accepted leaf is that of its test. -/
theorem leaf_of_ofQuery {kind : QueryKind} (isLeaf : kind.isLeaf = true)
    (accepted : ofQuery (.node kind field values low high children) = .ok clause) :
    leaf kind field values low high = .ok clause := by
  rcases of_ofQuery accepted with ⟨_, rfl, -, -⟩ | ⟨_, rfl, -, -⟩ | ⟨-, -, ofLeaf⟩
  · cases isLeaf
  · cases isLeaf
  · exact ofLeaf

/-- The clause of an accepted composite joins those of its children. -/
theorem composite_of_ofQuery {connective : Connective}
    (accepted : ofQuery (.node connective.kind field values low high children) = .ok clause) :
    ∃ clauses, ofQueries children = .ok clauses ∧ clause = balanced connective clauses := by
  cases connective <;>
    rcases of_ofQuery accepted with
      ⟨clauses, isAll, judged, joins⟩ | ⟨clauses, isAny, judged, joins⟩ | ⟨notAll, notAny, -⟩ <;>
    first
      | exact ⟨clauses, judged, joins⟩
      | cases isAll
      | cases isAny
      | exact absurd rfl notAll
      | exact absurd rfl notAny

end

/-- What is written for a balanced tree depends on what is written for its parts. -/
theorem condition_balanced_eq (connective : Connective) {leftClauses rightClauses : List Clause}
    (same : leftClauses.map condition = rightClauses.map condition) :
    (balanced connective leftClauses).condition = (balanced connective rightClauses).condition := by
  -- The halves of lists of one length are lists of one length.
  induction leftClauses using balanced.induct generalizing rightClauses with
  | case1 =>
    rw [List.map_nil, eq_comm, List.map_eq_nil_iff] at same
    rw [same]
  | case2 only =>
    obtain ⟨other, rfl, agree⟩ := List.map_eq_singleton_iff.mp same.symm
    rw [balanced, balanced, grouped, grouped, agree]
  | case3 first second =>
    obtain ⟨other, rest, rfl, firstAgree, restAgree⟩ := List.map_eq_cons_iff.mp same.symm
    obtain ⟨another, rfl, secondAgree⟩ := List.map_eq_singleton_iff.mp restAgree
    rw [balanced, balanced, joined, joined, grouped, grouped, grouped, grouped, firstAgree,
      secondAgree]
  | case4 first second third rest all middle frontHypothesis =>
    rename_i backHypothesis
    have equallyMany : all.length = rightClauses.length := by
      rw [← List.length_map condition, same, List.length_map]
    have fronts : (balanced connective (all.take middle)).condition =
        (balanced connective (rightClauses.take middle)).condition :=
      frontHypothesis (by rw [List.map_take, List.map_take, same])
    have backs : (balanced connective (all.drop middle)).condition =
        (balanced connective (rightClauses.drop middle)).condition :=
      backHypothesis (by rw [List.map_drop, List.map_drop, same])
    obtain ⟨_, _, rfl, -, laterAgree⟩ := List.map_eq_cons_iff.mp same.symm
    obtain ⟨_, _, rfl, -, lastAgree⟩ := List.map_eq_cons_iff.mp laterAgree
    obtain ⟨_, _, rfl, -, -⟩ := List.map_eq_cons_iff.mp lastAgree
    rw [balanced, balanced, ← equallyMany]
    exact congrArg₂ (fun front back => Condition.joined connective (.grouped front) (.grouped back))
      fronts backs

/-- What is written for queries of the same shapes is the same when it is for each of them. -/
theorem map_condition_eq {leftQueries rightQueries : List Query}
    {leftClauses rightClauses : List Clause}
    (same : List.Forall₂ Query.SameShape leftQueries rightQueries)
    (leftAccepted : ofQueries leftQueries = .ok leftClauses)
    (rightAccepted : ofQueries rightQueries = .ok rightClauses)
    (agree : ∀ leftQuery ∈ leftQueries, ∀ (rightQuery : Query) (left right : Clause),
      leftQuery.SameShape rightQuery → ofQuery leftQuery = .ok left →
        ofQuery rightQuery = .ok right → left.condition = right.condition) :
    leftClauses.map condition = rightClauses.map condition := by
  rw [ofQueries_eq_mapM] at leftAccepted rightAccepted
  have leftEach := forall₂_of_mapM leftAccepted
  have rightEach := forall₂_of_mapM rightAccepted
  clear leftAccepted rightAccepted
  induction same generalizing leftClauses rightClauses with
  | nil =>
    cases leftEach
    cases rightEach
    rfl
  | cons first later inductionHypothesis =>
    obtain _ | ⟨ofLeft, leftLater⟩ := leftEach
    obtain _ | ⟨ofRight, rightLater⟩ := rightEach
    rw [List.forall_mem_cons] at agree
    rw [List.map_cons, List.map_cons, agree.1 _ _ _ first ofLeft ofRight,
      inductionHypothesis agree.2 leftLater rightLater]

/-- What is written for accepted queries of the same shape is the same. -/
theorem condition_ofQuery_eq {leftQuery rightQuery : Query} (same : leftQuery.SameShape rightQuery)
    (leftAccepted : ofQuery leftQuery = .ok left) (rightAccepted : ofQuery rightQuery = .ok right) :
    left.condition = right.condition := by
  induction leftQuery generalizing rightQuery left right with
  | foreign given => cases leftAccepted
  | node kind field values low high children inductionHypothesis =>
    cases same with
    | leaf isLeaf same =>
      exact condition_leaf_eq same (leaf_of_ofQuery isLeaf leftAccepted)
        (leaf_of_ofQuery isLeaf rightAccepted)
    | composite connective each =>
      obtain ⟨leftClauses, ofLeft, rfl⟩ := composite_of_ofQuery leftAccepted
      obtain ⟨rightClauses, ofRight, rfl⟩ := composite_of_ofQuery rightAccepted
      exact condition_balanced_eq connective (map_condition_eq each ofLeft ofRight
        fun child member _ _ _ same => inductionHypothesis child member same)

end Clause

/-- The direction that is read of an order is the one that it names. -/
theorem SortOrder.direction_of_reading? {sort : SortOrder} {name : Text} {way : SortDirection}
    (reads : sort.reading? = some (name, way)) :
    SortDirection.ofDatum? sort.direction = some way := by
  rw [reading?] at reads
  cases named : sort.field.text? with
  | none => rw [named] at reads; cases reads
  | some name =>
    cases directed : SortDirection.ofDatum? sort.direction with
    | none => rw [named, directed] at reads; cases reads
    | some direction => rw [named, directed] at reads; cases reads; rfl

/-- What is written for accepted orders of the same shape is the same. -/
theorem OrderClause.text_ofSort_eq {leftSort rightSort : Option SortOrder}
    {left right : OrderClause} (same : Option.Rel SortOrder.SameShape leftSort rightSort)
    (leftAccepted : ofSort leftSort = .ok left) (rightAccepted : ofSort rightSort = .ok right) :
    left.text = right.text := by
  cases same with
  | none =>
    cases leftAccepted
    cases rightAccepted
    rfl
  | @some leftSort rightSort same =>
    obtain ⟨leftName, leftWay, leftNamed, leftReads, leftForm⟩ := of_ofSort leftAccepted
    obtain ⟨rightName, rightWay, rightNamed, rightReads, rightForm⟩ := of_ofSort rightAccepted
    have sameWay : leftWay = rightWay := by
      have agree := same.direction
      rw [SortOrder.direction_of_reading? leftReads,
        SortOrder.direction_of_reading? rightReads] at agree
      exact Option.some.inj agree
    have agree : leftName = FieldName.identifier ↔ rightName = FieldName.identifier := by
      rw [← Datum.isIdentifier_text, ← Datum.isIdentifier_text, ← leftNamed, ← rightNamed,
        same.identifier]
    rcases leftForm with ⟨onIdentifier, rfl⟩ | ⟨ordinary, rfl⟩ <;>
      rcases rightForm with ⟨alsoIdentifier, rfl⟩ | ⟨alsoOrdinary, rfl⟩
    · rw [sameWay]
    · exact absurd (agree.mp onIdentifier) alsoOrdinary
    · exact absurd (agree.mpr alsoIdentifier) ordinary
    · rw [sameWay]; rfl

namespace Selection

/-- No name, no identifier and no value has an influence on what is written for a query and an
order: when two queries have the same shape and so do two orders, and both pairs are accepted, then
the written conditions are the same text, and so are the written orders. -/
theorem text_eq_of_sameShape {leftQuery rightQuery : Option Query}
    {leftSort rightSort : Option SortOrder} {left right : Selection}
    (sameQuery : Option.Rel Query.SameShape leftQuery rightQuery)
    (sameSort : Option.Rel SortOrder.SameShape leftSort rightSort)
    (leftAccepted : ofQuery leftQuery leftSort = .ok left)
    (rightAccepted : ofQuery rightQuery rightSort = .ok right) :
    left.condition.text = right.condition.text ∧ left.order.text = right.order.text := by
  obtain ⟨leftQueried, leftOrdered⟩ := of_ofQuery leftAccepted
  obtain ⟨rightQueried, rightOrdered⟩ := of_ofQuery rightAccepted
  refine ⟨congrArg Condition.text ?_, OrderClause.text_ofSort_eq sameSort leftOrdered rightOrdered⟩
  cases sameQuery with
  | none =>
    rcases leftQueried with ⟨-, ofLeft⟩ | ⟨_, isSome, -⟩
    · rcases rightQueried with ⟨-, ofRight⟩ | ⟨_, isSome, -⟩
      · rw [ofLeft, ofRight]
      · cases isSome
    · cases isSome
  | some same =>
    rcases leftQueried with ⟨isNone, -⟩ | ⟨_, isLeft, ofLeft⟩
    · cases isNone
    · rcases rightQueried with ⟨isNone, -⟩ | ⟨_, isRight, ofRight⟩
      · cases isNone
      · cases isLeft
        cases isRight
        exact Clause.condition_ofQuery_eq same ofLeft ofRight

/-- A query in whose texts there is nothing but letters. -/
def harmless : Query :=
  .composite .any [
    .equals (.text "a") (.text "b"),
    .composite .all [
      .among (.text "c") [.text "d", .integer 1, .text "e"],
      .range (.text "_id") .null (.text "f"),
      .range (.text "g") (.real (.zero false)) (.integer 2)]]

/-- A query of that shape in whose texts there are parts of statements. -/
def hostile : Query :=
  .composite .any [
    .equals (.text "a = ? OR 1 = 1) --") (.text "' OR ''='"),
    .composite .all [
      .among (.text "?) UNION SELECT ?") [.text "?", .integer 0,
        .text "'); DROP TABLE documents"],
      .range (.text "_id") .null (.text "\"f\" DESC"),
      .range (.text "g.value") (.integer 0) (.integer 3)]]

/-- Parts of statements do not change the shape of a query. -/
theorem sameShape_hostile : harmless.SameShape hostile := by
  refine .composite .disjunction (.cons (.leaf rfl ?_) (.cons (.composite .conjunction
    (.cons (.leaf rfl ?_) (.cons (.leaf rfl ?_) (.cons (.leaf rfl ?_) .nil)))) .nil)) <;>
    exact ⟨by decide, by decide, by decide, by decide, by decide⟩

/-- Parts of statements among the names and values of a query leave the text of its statement as it
is. -/
theorem text_eq_of_hostile :
    ∃ left right, ofQuery (some harmless) (some ⟨.text "h", .text "desc"⟩) = .ok left ∧
      ofQuery (some hostile) (some ⟨.text "h LIMIT 1", .text "desc"⟩) = .ok right ∧
      left.condition.text = right.condition.text ∧ left.order.text = right.order.text :=
  have sameSort : SortOrder.SameShape ⟨.text "h", .text "desc"⟩ ⟨.text "h LIMIT 1", .text "desc"⟩ :=
    ⟨by decide, rfl⟩
  ⟨_, _, rfl, rfl, text_eq_of_sameShape (.some sameShape_hostile) (.some sameSort) rfl rfl⟩

end Selection
end Depot
