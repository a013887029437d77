import Depot.Proofs.Selecting
import Mathlib.Algebra.Group.Int.Defs

/-!
# Queries that have a meaning

Whether a query and a sort are accepted is a matter of their leaves and of the sort alone, and the
error is that of the first part that is wrong: the leaves from left to right, then the sort. What
makes a part sound is said here without the functions that check it.
-/

namespace Depot

/-- What a check reports, if it refuses. -/
def refusal? {ε α : Type} : Except ε α → Option ε
  | .ok _ => none
  | .error fault => some fault

section

variable {ε α β : Type}

/-- A check is passed exactly when it reports nothing. -/
theorem refusal?_eq_none_iff {result : Except ε α} :
    refusal? result = none ↔ ∃ value, result = .ok value := by
  cases result <;> simp [refusal?]

/-- A check refuses with what it reports. -/
theorem refusal?_eq_some_iff {result : Except ε α} {fault : ε} :
    refusal? result = some fault ↔ result = .error fault := by
  cases result <;> simp [refusal?]

/-- What is done with an accepted value reports nothing. -/
@[simp] theorem refusal?_bind_ok (result : Except ε α) (next : α → β) :
    refusal? (result >>= fun value => .ok (next value)) = refusal? result := by
  cases result <;> rfl

/-- Checks that are made one after the other report what the first refusing one reports. -/
theorem refusal?_mapM {check : α → Except ε β} {fault? : α → Option ε} {values : List α}
    (reports : ∀ value ∈ values, refusal? (check value) = fault? value) :
    refusal? (values.mapM check) = values.findSome? fault? := by
  induction values with
  | nil => rfl
  | cons value rest inductionHypothesis =>
    rw [List.forall_mem_cons] at reports
    rw [List.mapM_cons, List.findSome?_cons, ← reports.1, ← inductionHypothesis reports.2]
    cases check value with
    | error fault => rfl
    | ok checked => cases rest.mapM check <;> rfl

end

namespace Datum

/-- Whether a datum is a text. -/
def isText : Datum → Bool
  | text _ => true
  | _ => false

/-- Whether a datum is a number. -/
def isNumber : Datum → Bool
  | integer _ => true
  | real _ => true
  | _ => false

/-- Whether a datum is a boolean. -/
def isBoolean : Datum → Bool
  | boolean _ => true
  | _ => false

/-- Whether a datum can be compared with the values of fields: a boolean, a text, an integer of 64
bits, or a real that is a number. -/
def isComparable : Datum → Bool
  | boolean _ => true
  | integer value => decide (-2 ^ 63 ≤ value ∧ value < 2 ^ 63)
  | real value => !value.isNaN
  | text _ => true
  | _ => false

/-- Whether a datum can name a field in a query: a text that is not empty, has no double quote and
no control character, and does not start with an underscore unless it is `_id`. -/
def namesField : Datum → Bool
  | text name =>
    !name.isEmpty && name.symbols.all (fun symbol => symbol != .char '"' && 32 ≤ symbol.code) &&
      (name == ("_id" : Text) || name.symbols.head? != some (.char '_'))
  | _ => false

/-- Whether a datum is the name of the document identifier. -/
def isIdentifier (field : Datum) : Bool := field.text? == some ("_id" : Text)

/-- What is wrong with a field name. -/
def nameFault? : Datum → Option QueryError
  | text name =>
    if name.isEmpty then some (.name (.notName (.text name)))
    else if name.symbols.any FieldName.isForbidden then some (.name (.forbiddenCharacters name))
    else if FieldName.isReserved name then some (.reserved name)
    else none
  | other => some (.name (.notName other))

/-- What is wrong with a value that is compared with the values of fields. -/
def valueFault? : Datum → Option QueryError
  | boolean _ => none
  | integer value => if fitsInteger value then none else some (.integerRange value)
  | real value => if value.isNaN then some .notANumber else none
  | text _ => none
  | other => some (.unsupportedValue other.typeName)

/-- What is wrong with a value that is compared with document identifiers. -/
def identifierFault? : Datum → Option QueryError
  | text _ => none
  | other => some (.identifierNotText other.typeName)

/-- What is wrong with the bounds of a range on a field when each of them can be compared. -/
def boundsFault? (name : Text) (bounds : List Datum) : Option QueryError :=
  if bounds.any isBoolean then some (.booleanBound name)
  else if bounds.any isNumber && bounds.any isText then some (.mixedBounds name)
  else none

/-- Nothing is wrong with the names of fields. -/
theorem nameFault?_eq_none_iff (field : Datum) :
    field.nameFault? = none ↔ field.namesField = true := by
  cases field with
  | text name =>
    have plain (symbol : Symbol) :
        (symbol != .char '"' && decide (32 ≤ symbol.code)) = !FieldName.isForbidden symbol := by
      rw [Bool.eq_iff_iff]
      simp [FieldName.isForbidden]
    have free : name.symbols.all (fun symbol => symbol != .char '"' && decide (32 ≤ symbol.code)) =
        !name.symbols.any FieldName.isForbidden := by
      simp only [plain, List.not_any_eq_all_not]
    have unreserved : (name == ("_id" : Text) || name.symbols.head? != some (.char '_')) =
        !FieldName.isReserved name := by
      rw [FieldName.isReserved, FieldName.isInternal, FieldName.identifier, Bool.or_comm]
      simp [bne]
    rw [nameFault?, namesField, free, unreserved]
    cases name.isEmpty <;> cases name.symbols.any FieldName.isForbidden <;>
      cases FieldName.isReserved name <;> simp
  | _ => simp [nameFault?, namesField]

/-- Nothing is wrong with values that can be compared. -/
theorem valueFault?_eq_none_iff (value : Datum) :
    value.valueFault? = none ↔ value.isComparable = true := by
  cases value with
  | integer number =>
    have bounds : fitsInteger number = decide (-2 ^ 63 ≤ number ∧ number < 2 ^ 63) := by
      rw [Bool.eq_iff_iff, fitsInteger, leastInteger, greatestInteger, Bool.and_eq_true,
        decide_eq_true_iff, decide_eq_true_iff, decide_eq_true_iff]
      constructor <;> omega
    rw [valueFault?, isComparable, ← bounds]
    cases fitsInteger number <;> simp
  | real number =>
    rw [valueFault?, isComparable]
    cases number.isNaN <;> simp
  | _ => simp [valueFault?, isComparable]

/-- Nothing is wrong with identifiers that are texts. -/
theorem identifierFault?_eq_none_iff (value : Datum) :
    value.identifierFault? = none ↔ value.isText = true := by
  cases value <;> simp [identifierFault?, isText]

/-- What can be compared has one of three kinds. -/
theorem kinds_of_isComparable {value : Datum} (comparable : value.isComparable = true) :
    value.isBoolean = !(value.isNumber || value.isText) ∧
      (value.isNumber && value.isText) = false := by
  cases value <;> first | exact ⟨rfl, rfl⟩ | cases comparable

/-- Nothing is wrong with bounds that are all numbers or all texts. -/
theorem boundsFault?_eq_none_iff (name : Text) {bounds : List Datum}
    (comparable : bounds.all isComparable = true) :
    boundsFault? name bounds = none ↔
      (bounds.all isNumber || bounds.all isText) = true := by
  rw [List.all_eq_true] at comparable
  rw [boundsFault?]
  split
  · rename_i someBoolean
    obtain ⟨bound, member, isFlag⟩ := List.any_eq_true.mp someBoolean
    have neither := (kinds_of_isComparable (comparable bound member)).1
    rw [isFlag, eq_comm, Bool.not_eq_true', Bool.or_eq_false_iff] at neither
    refine ⟨nofun, fun same => ?_⟩
    rcases Bool.or_eq_true_iff.mp same with numbers | texts
    · rw [List.all_eq_true.mp numbers bound member] at neither
      cases neither.1
    · rw [List.all_eq_true.mp texts bound member] at neither
      cases neither.2
  · rename_i noBoolean
    have textOrNumber : ∀ bound ∈ bounds, bound.isText = !bound.isNumber := by
      intro bound member
      obtain ⟨flag, notBoth⟩ := kinds_of_isComparable (comparable bound member)
      have noFlag : bound.isBoolean = false :=
        Bool.eq_false_iff.mpr fun isFlag => noBoolean (List.any_eq_true.mpr ⟨bound, member, isFlag⟩)
      rw [noFlag] at flag
      revert flag notBoth
      cases bound.isText <;> cases bound.isNumber <;> simp
    have allTexts : bounds.all isText = !bounds.any isNumber := by
      rw [Bool.eq_iff_iff, List.not_any_eq_all_not, List.all_eq_true, List.all_eq_true]
      exact forall₂_congr fun bound member => by rw [textOrNumber bound member]
    have allNumbers : bounds.all isNumber = !bounds.any isText := by
      rw [Bool.eq_iff_iff, List.not_any_eq_all_not, List.all_eq_true, List.all_eq_true]
      exact forall₂_congr fun bound member => by rw [textOrNumber bound member, Bool.not_not]
    rw [allTexts, allNumbers]
    cases bounds.any isNumber <;> cases bounds.any isText <;> simp

end Datum

/-- A name is refused with what is wrong with it. -/
theorem refusal?_queryFieldName (field : Datum) :
    refusal? (queryFieldName field) = field.nameFault? := by
  cases field with
  | text name =>
    rw [queryFieldName, FieldName.validate, Datum.nameFault?]
    cases name.isEmpty <;> cases name.symbols.any FieldName.isForbidden <;>
      cases reserved : FieldName.isReserved name <;> simp [reserved, refusal?]
  | _ => rfl

/-- A value is refused with what is wrong with it. -/
theorem refusal?_comparand (value : Datum) : refusal? (comparand value) = value.valueFault? := by
  cases value with
  | integer number =>
    rw [comparand, ValueKind.ofDatum, Datum.valueFault?]
    cases fitsInteger number <;> rfl
  | real number =>
    rw [comparand, ValueKind.ofDatum, Datum.valueFault?]
    cases number.isNaN <;> rfl
  | _ => rfl

namespace QueryKind

/-- The values that a leaf compares; bounds that are absent are not compared. -/
def compared (kind : QueryKind) (values : List Datum) (low high : Datum) : List Datum :=
  match kind with
  | .equals => [values.headD .null]
  | .among => values
  | .range => [low, high].filter Datum.isPresent
  | _ => []

/-- What is wrong with a leaf on the document identifier, its name apart. -/
def identifierFault? (kind : QueryKind) (compared : List Datum) : Option QueryError :=
  if kind.isLeaf then compared.findSome? Datum.identifierFault?
  else some (.unsupportedIdentifierKind kind.literal)

/-- What is wrong with a leaf on a field, its name apart. -/
def fieldFault? (kind : QueryKind) (name : Text) (compared : List Datum) : Option QueryError :=
  if kind.isLeaf then
    (compared.findSome? Datum.valueFault?).or
      (if kind = .range then Datum.boundsFault? name compared else none)
  else some (.unsupportedKind kind.literal)

/-- Nothing is wrong with a leaf on the document identifier that compares texts. -/
theorem identifierFault?_eq_none_iff (kind : QueryKind) (compared : List Datum) :
    kind.identifierFault? compared = none ↔
      kind.isLeaf = true ∧ compared.all Datum.isText = true := by
  rw [identifierFault?]
  cases kind.isLeaf with
  | false => simp
  | true => simp [Datum.identifierFault?_eq_none_iff]

/-- Nothing is wrong with a leaf on a field that compares values of fields, if it is a range all
numbers or all texts. -/
theorem fieldFault?_eq_none_iff (kind : QueryKind) (name : Text) (compared : List Datum) :
    kind.fieldFault? name compared = none ↔
      kind.isLeaf = true ∧ (compared.all Datum.isComparable && (kind != .range ||
        compared.all Datum.isNumber || compared.all Datum.isText)) = true := by
  have noneWrong : compared.findSome? Datum.valueFault? = none ↔
      compared.all Datum.isComparable = true := by
    rw [List.findSome?_eq_none_iff, List.all_eq_true]
    exact forall₂_congr fun value _ => Datum.valueFault?_eq_none_iff value
  rw [fieldFault?]
  cases kind.isLeaf with
  | false => simp
  | true =>
    rw [if_pos rfl, Option.or_eq_none_iff, noneWrong, Bool.and_eq_true, and_iff_right rfl]
    refine and_congr_right fun comparable => ?_
    split
    · rename_i isRange
      rw [Datum.boundsFault?_eq_none_iff name comparable, isRange]
      rfl
    · rename_i noRange
      simp [noRange]

end QueryKind

namespace Clause

/-- A bound is refused with what is wrong with it, and else it is absent or a field value. -/
theorem bound_cases (given : Datum) :
    (∃ fault, ([given].filter Datum.isPresent).findSome? Datum.valueFault? = some fault ∧
        bound given = .error fault) ∨
      ∃ held : Option FieldValue,
        [given].filter Datum.isPresent = held.toList.map FieldValue.toDatum ∧
        (held.toList.map FieldValue.toDatum).findSome? Datum.valueFault? = none ∧
        bound given = .ok (held.map FieldValue.typed) := by
  cases present : given.isPresent with
  | false => exact .inr ⟨none, by simp [present], rfl, by simp [bound, present]⟩
  | true =>
    have reported := refusal?_comparand given
    cases judged : comparand given with
    | error fault =>
      rw [judged, refusal?, eq_comm] at reported
      refine .inl ⟨fault, by simp [present, reported], ?_⟩
      rw [bound, present, judged]
      rfl
    | ok pair =>
      obtain ⟨value, rfl, -, -, rfl⟩ := FieldValue.of_comparand judged
      rw [judged, refusal?, eq_comm] at reported
      refine .inr ⟨some value, by simp [present], by simp [reported], ?_⟩
      rw [bound, present, judged]
      rfl

/-- The kind of bounds is refused with what is wrong with them. -/
theorem refusal?_rangeKind (name : Text) (lower upper : Option FieldValue) :
    refusal? (rangeKind name (lower.map FieldValue.typed) (upper.map FieldValue.typed)) =
      Datum.boundsFault? name
        ((lower.toList ++ upper.toList).map FieldValue.toDatum) := by
  rcases lower with _ | low <;> rcases upper with _ | high
  · rfl
  · cases high <;> rfl
  · cases low <;> rfl
  · cases low <;> cases high <;> rfl

/-- A range is refused with what is wrong with its bounds: first with one of them, then with both
of them together. -/
theorem refusal?_range (name : Text) (low high : Datum) :
    refusal? (range name low high) =
      (([low, high].filter Datum.isPresent).findSome? Datum.valueFault?).or
        (Datum.boundsFault? name ([low, high].filter Datum.isPresent)) := by
  have apart : [low, high].filter Datum.isPresent =
      [low].filter Datum.isPresent ++ [high].filter Datum.isPresent := by
    rw [← List.filter_append]
    rfl
  rw [apart, List.findSome?_append, range]
  rcases bound_cases low with ⟨fault, wrong, refused⟩ | ⟨lower, compared, sound, accepted⟩
  · rw [wrong, refused]
    rfl
  · rw [compared, sound, accepted, Option.none_or]
    rcases bound_cases high with ⟨fault, wrong, refused⟩ | ⟨upper, compared, sound, accepted⟩
    · rw [wrong, refused]
      rfl
    · rw [compared, sound, accepted, Option.none_or, ← List.map_append, ← refusal?_rangeKind]
      simp only [bind, Except.bind]
      cases rangeKind name (lower.map FieldValue.typed) (upper.map FieldValue.typed) with
      | error fault => rfl
      | ok shared => cases shared <;> rfl

/-- A leaf on a field is refused with what is wrong with it. -/
theorem refusal?_fieldLeaf (kind : QueryKind) (name : Text) (values : List Datum)
    (low high : Datum) :
    refusal? (fieldLeaf kind name values low high) =
      kind.fieldFault? name (kind.compared values low high) := by
  cases kind with
  | equals =>
    change refusal? (equals name (values.headD .null)) =
      ([values.headD .null].findSome? Datum.valueFault?).or none
    rw [Option.or_none, List.findSome?_singleton, ← refusal?_comparand, equals]
    cases comparand (values.headD .null) <;> rfl
  | among =>
    change refusal? (among name values) = (values.findSome? Datum.valueFault?).or none
    rw [Option.or_none, ← refusal?_mapM fun value _ => refusal?_comparand value, among]
    cases values with
    | nil => rfl
    | cons first rest => cases (first :: rest).mapM comparand <;> rfl
  | range => exact refusal?_range name low high
  | _ => rfl

/-- The bound of an identifier is refused with what is wrong with it, and else has a part or
none. -/
theorem refusal?_identifierBound (comparison : Comparison) (given : Datum) :
    refusal? (identifierBound comparison given) =
      ([given].filter Datum.isPresent).findSome? Datum.identifierFault? := by
  cases given <;> rfl

/-- A leaf on the document identifier is refused with what is wrong with it. -/
theorem refusal?_identifierLeaf (kind : QueryKind) (values : List Datum) (low high : Datum) :
    refusal? (identifierLeaf kind values low high) =
      kind.identifierFault? (kind.compared values low high) := by
  have ofValue (value : Datum) : refusal? (identifierValue value) = value.identifierFault? := by
    cases value <;> rfl
  cases kind with
  | equals =>
    change _ = [values.headD .null].findSome? Datum.identifierFault?
    rw [List.findSome?_singleton, ← ofValue, identifierLeaf]
    cases identifierValue (values.headD .null) <;> rfl
  | among =>
    change _ = values.findSome? Datum.identifierFault?
    rw [← refusal?_mapM fun value _ => ofValue value, identifierLeaf]
    cases values with
    | nil => rfl
    | cons first rest => cases (first :: rest).mapM identifierValue <;> rfl
  | range =>
    change _ = ([low, high].filter Datum.isPresent).findSome? Datum.identifierFault?
    have apart : [low, high].filter Datum.isPresent =
        [low].filter Datum.isPresent ++ [high].filter Datum.isPresent := by
      rw [← List.filter_append]
      rfl
    rw [identifierLeaf, apart, List.findSome?_append, ← refusal?_identifierBound .atLeast,
      ← refusal?_identifierBound .atMost]
    cases identifierBound .atLeast low with
    | error fault => rfl
    | ok lower =>
      cases identifierBound .atMost high with
      | error fault => rfl
      | ok upper =>
        simp only [bind, Except.bind]
        cases lower ++ upper <;> rfl
  | _ => rfl

end Clause

namespace Query

mutual

/-- The nodes of a query that are no composites, from left to right. -/
def leaves : Query → List Query
  | .node kind field values low high children =>
    match kind with
    | .all => leavesOf children
    | .any => leavesOf children
    | leaf => [.node leaf field values low high children]
  | .foreign given => [.foreign given]

/-- The leaves of a list of queries, one query after the other. -/
def leavesOf : List Query → List Query
  | [] => []
  | child :: rest => leaves child ++ leavesOf rest

end

/-- What is wrong with a leaf: first its name, then what it compares. -/
def fault? : Query → Option QueryError
  | .node kind field values low high _ =>
    field.nameFault?.or <|
      if field.isIdentifier then kind.identifierFault? (kind.compared values low high)
      else kind.fieldFault? (field.text?.getD default) (kind.compared values low high)
  | .foreign given => some (.notQuery given.typeName)

/-- Whether a leaf has a meaning: it is a query of one of the four kinds that test a field, its
field is a name, and what it compares are texts, if the name is that of the identifier, and else
values that can be compared, which as bounds of a range are all numbers or all texts. -/
def isSound : Query → Bool
  | .node kind field values low high _ =>
    let compared := kind.compared values low high
    kind.isLeaf && field.namesField &&
      if field.isIdentifier then compared.all Datum.isText
      else compared.all Datum.isComparable &&
        (kind != .range || compared.all Datum.isNumber || compared.all Datum.isText)
  | .foreign _ => false

/-- Looking through the leaves of a list of queries is looking through one query after the
other. -/
theorem findSome?_leavesOf {α : Type} (look : Query → Option α) (queries : List Query) :
    (leavesOf queries).findSome? look =
      queries.findSome? fun query => query.leaves.findSome? look := by
  induction queries with
  | nil => rfl
  | cons child rest inductionHypothesis =>
    rw [leavesOf, List.findSome?_append, List.findSome?_cons, inductionHypothesis]
    cases child.leaves.findSome? look <;> rfl

/-- Nothing is wrong with the sound leaves. -/
theorem fault?_eq_none_iff (leaf : Query) : leaf.fault? = none ↔ leaf.isSound = true := by
  cases leaf with
  | foreign given => simp [fault?, isSound]
  | node kind field values low high children =>
    rw [fault?, isSound, Option.or_eq_none_iff, Datum.nameFault?_eq_none_iff, Bool.and_eq_true,
      Bool.and_eq_true, and_assoc, and_left_comm, and_congr_right_iff]
    intro named
    cases isIdentifier : field.isIdentifier with
    | true => exact kind.identifierFault?_eq_none_iff _
    | false => exact kind.fieldFault?_eq_none_iff _ _

/-- Whether a query has a meaning: all its leaves have. -/
def isSoundThroughout (query : Query) : Bool := query.leaves.all isSound

end Query

namespace Clause

/-- A leaf is refused with what is wrong with it. -/
theorem refusal?_leaf (kind : QueryKind) (field : Datum) (values : List Datum) (low high : Datum)
    (children : List Query) :
    refusal? (leaf kind field values low high) =
      (Query.node kind field values low high children).fault? := by
  rw [leaf, Query.fault?, ← refusal?_queryFieldName]
  cases named : queryFieldName field with
  | error fault => rfl
  | ok name =>
    obtain rfl := of_queryFieldName named
    rw [refusal?, Option.none_or, Datum.isIdentifier, Datum.text?]
    by_cases isIdentifier : name = FieldName.identifier
    · subst isIdentifier
      exact refusal?_identifierLeaf kind values low high
    · have other : (some name == some ("_id" : Text)) = false := by
        simpa [FieldName.identifier] using isIdentifier
      rw [other]
      simp only [bind, Except.bind, isIdentifier, if_false]
      exact refusal?_fieldLeaf kind name values low high

/-- A query is refused with what is wrong with the first of its leaves that is not sound. -/
theorem refusal?_ofQuery (query : Query) :
    refusal? (ofQuery query) = query.leaves.findSome? Query.fault? := by
  induction query with
  | foreign given => rfl
  | node kind field values low high children inductionHypothesis =>
    have ofChildren (connective : Connective) :
        refusal? (do .ok (balanced connective (← ofQueries children))) =
          (Query.leavesOf children).findSome? Query.fault? := by
      rw [refusal?_bind_ok, ofQueries_eq_mapM, refusal?_mapM inductionHypothesis,
        Query.findSome?_leavesOf]
    have ofLeaf (single : ofQuery (.node kind field values low high children) =
          leaf kind field values low high)
        (alone : (Query.node kind field values low high children).leaves =
          [.node kind field values low high children]) :
        refusal? (ofQuery (.node kind field values low high children)) =
          (Query.node kind field values low high children).leaves.findSome? Query.fault? := by
      rw [single, alone, List.findSome?_singleton]
      exact refusal?_leaf kind field values low high children
    cases kind with
    | all => exact ofChildren .conjunction
    | any => exact ofChildren .disjunction
    | _ => exact ofLeaf rfl rfl

end Clause

/-- Two texts name a direction. -/
theorem SortDirection.isSome_ofDatum? (given : Datum) :
    (ofDatum? given).isSome =
      (given.text? == some ("asc" : Text) || given.text? == some ("desc" : Text)) := by
  cases given with
  | text name =>
    rw [ofDatum?, label, label, Datum.text?]
    by_cases isAscending : name = ("asc" : Text)
    · simp [isAscending]
    · by_cases isDescending : name = ("desc" : Text) <;> simp [isAscending, isDescending]
  | _ => rfl

namespace SortOrder

/-- Whether a sort has a meaning: its field is a name and its direction is one of the two. -/
def isSound (order : SortOrder) : Bool :=
  order.field.namesField &&
    (order.direction.text? == some ("asc" : Text) || order.direction.text? == some ("desc" : Text))

/-- What is wrong with a sort: first its field, then its direction. -/
def fault? (order : SortOrder) : Option QueryError :=
  order.field.nameFault?.or <|
    if order.direction.text? == some ("asc" : Text) ||
        order.direction.text? == some ("desc" : Text) then none
    else some (.unknownDirection order.direction)

/-- Nothing is wrong with the sorts that are sound. -/
theorem fault?_eq_none_iff (order : SortOrder) : order.fault? = none ↔ order.isSound = true := by
  rw [fault?, isSound, Option.or_eq_none_iff, Datum.nameFault?_eq_none_iff, Bool.and_eq_true]
  cases order.direction.text? == some ("asc" : Text) ||
    order.direction.text? == some ("desc" : Text) <;> simp

/-- A sort is refused with what is wrong with it. -/
theorem refusal?_ofSort (order : SortOrder) :
    refusal? (OrderClause.ofSort (some order)) = order.fault? := by
  rw [OrderClause.ofSort, fault?, ← refusal?_queryFieldName]
  cases queryFieldName order.field with
  | error fault => rfl
  | ok name =>
    rw [refusal?, Option.none_or, ← SortDirection.isSome_ofDatum?]
    simp only [bind, Except.bind]
    cases SortDirection.ofDatum? order.direction with
    | none => rfl
    | some direction =>
      simp only
      split <;> rfl

end SortOrder

/-- What is wrong first with a query and a sort: the leaves of the query are looked at from left to
right, and the sort after them. -/
def firstFault? (query : Option Query) (sort : Option SortOrder) : Option QueryError :=
  ((query.toList.flatMap Query.leaves).findSome? Query.fault?).or (sort.bind SortOrder.fault?)

/-- A query and a sort are refused with what is wrong first. -/
theorem Selection.refusal?_ofQuery (query : Option Query) (sort : Option SortOrder) :
    refusal? (ofQuery query sort) = firstFault? query sort := by
  have ofSort : refusal? (OrderClause.ofSort sort) = sort.bind SortOrder.fault? := by
    cases sort with
    | none => rfl
    | some order => exact order.refusal?_ofSort
  rw [firstFault?, ← ofSort]
  cases query with
  | none =>
    rw [ofQuery]
    cases OrderClause.ofSort sort <;> rfl
  | some query =>
    rw [Option.toList_some, List.flatMap_singleton, ← Clause.refusal?_ofQuery, ofQuery]
    cases Clause.ofQuery query with
    | error fault => rfl
    | ok clause => cases OrderClause.ofSort sort <;> rfl

/-- Nothing is wrong with a query and a sort that have a meaning. -/
theorem firstFault?_eq_none_iff (query : Option Query) (sort : Option SortOrder) :
    firstFault? query sort = none ↔
      query.all Query.isSoundThroughout = true ∧ sort.all SortOrder.isSound = true := by
  rw [firstFault?, Option.or_eq_none_iff]
  refine and_congr ?_ ?_
  · cases query with
    | none => simp
    | some query =>
      rw [Option.toList_some, List.flatMap_singleton, Option.all_some, Query.isSoundThroughout,
        List.findSome?_eq_none_iff, List.all_eq_true]
      exact forall₂_congr fun leaf _ => leaf.fault?_eq_none_iff
  · cases sort with
    | none => simp
    | some order => exact order.fault?_eq_none_iff

end Depot
