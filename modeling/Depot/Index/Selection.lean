import Depot.Index.Clause
import Depot.Query.Basic

/-!
# Selections of queries

`Selection.ofQuery` checks a query and an order and turns them into clauses; nothing is
checked afterwards. Leaves on the document identifier compare the identifier column, all other
leaves test for a field row with the name, the kind and the value asked for.
-/

namespace Depot

/-- The kind under which a value is compared. -/
def ValueKind.ofDatum : Datum → Except QueryError ValueKind
  | .boolean _ => .ok .boolean
  | .integer value => if fitsInteger value then .ok .number else .error (.integerRange value)
  | .real value => if value.isNaN then .error .notANumber else .ok .number
  | .text _ => .ok .string
  | other => .error (.unsupportedValue other.typeName)

/-- The form in which a comparable value stands beside a statement. -/
def Parameter.ofDatum : Datum → Except QueryError Parameter
  | .boolean value => .ok (.integer (if value then 1 else 0))
  | .integer value => .ok (.integer value)
  | .real value => .ok (.real value)
  | .text value => .ok (.text value)
  | other => .error (.unsupportedValue other.typeName)

/-- A comparable value with its kind. -/
def comparand (value : Datum) : Except QueryError (ValueKind × Parameter) := do
  let kind ← ValueKind.ofDatum value
  let stored ← Parameter.ofDatum value
  .ok (kind, stored)

/-- The name of a field in a query or an order. -/
def queryFieldName (name : Datum) : Except QueryError Text :=
  match FieldName.validate name with
  | .error error => .error (.name error)
  | .ok accepted =>
    if FieldName.isReserved accepted then .error (.reserved accepted) else .ok accepted

namespace Clause

/-- The condition that a document has a field row with a name, and that the row fulfils the
further parts. -/
def fieldTest {hole : Type} (name : hole) (parts : List (Condition hole)) : Condition hole :=
  .fieldExists (parts.foldl (Condition.joined .conjunction)
    (.joined .conjunction .owned (.compare .fieldName .equal name)))

/-- The document has the field. -/
def present (name : Text) : Clause := ⟨fieldTest () [], [.text name]⟩

/-- The field has the kind and the value. -/
def equals (name : Text) (value : Datum) : Except QueryError Clause := do
  let (kind, stored) ← comparand value
  .ok ⟨fieldTest () [.compare .fieldKind .equal (), .compare .fieldValue .equal ()],
    [.text name, .text kind.label, stored]⟩

/-- Adds a value to the group of its kind; a new kind gets a new group at the end. -/
def addToGroup (kind : ValueKind) (value : Parameter) :
    List (ValueKind × List Parameter) → List (ValueKind × List Parameter)
  | [] => [(kind, [value])]
  | (present, values) :: rest =>
    if present = kind then (present, values ++ [value]) :: rest
    else (present, values) :: addToGroup kind value rest

/-- Values by kind, kinds in the order of their first value. -/
def groupByKind (values : List (ValueKind × Parameter)) :
    List (ValueKind × List Parameter) :=
  values.foldl (fun groups value => addToGroup value.1 value.2 groups) []

/-- The condition that a field row has a kind and one of some values. -/
def groupTest {hole : Type} (kind : hole) (values : List hole) : Condition hole :=
  .grouped (.joined .conjunction (.compare .fieldKind .equal kind) (.among .fieldValue values))

/-- Conditions of which one has to hold, in parentheses. -/
def anyOf {hole : Type} : List (Condition hole) → Condition hole
  | [] => .grouped (.constant false)
  | first :: rest => .grouped (rest.foldl (Condition.joined .disjunction) first)

/-- The field has the kind and the value of one of the values. -/
def among (name : Text) (values : List Datum) : Except QueryError Clause :=
  if values.isEmpty then .ok nothing
  else do
    let groups := groupByKind (← values.mapM comparand)
    .ok ⟨fieldTest () [anyOf (groups.map fun group => groupTest () (group.2.map fun _ => ()))],
      .text name :: groups.flatMap fun group => .text group.1.label :: group.2⟩

/-- The comparable value of a bound that is present. -/
def bound (value : Datum) : Except QueryError (Option (ValueKind × Parameter)) :=
  if value.isPresent then do .ok (some (← comparand value)) else .ok none

/-- The kind that the bounds of a range share, if there is a bound. -/
def rangeKind (name : Text) (low high : Option (ValueKind × Parameter)) :
    Except QueryError (Option ValueKind) :=
  let kinds := (low.toList ++ high.toList).map Prod.fst
  if kinds.contains .boolean then .error (.booleanBound name)
  else
    match kinds with
    | [] => .ok none
    | [kind] => .ok (some kind)
    | first :: second :: _ =>
      if first = second then .ok (some first) else .error (.mixedBounds name)

/-- The field lies between the bounds, both included. -/
def range (name : Text) (low high : Datum) : Except QueryError Clause := do
  let lower ← bound low
  let upper ← bound high
  match ← rangeKind name lower upper with
  | none => .ok (present name)
  | some kind =>
    .ok ⟨fieldTest () (.compare .fieldKind .equal () ::
        (lower.toList.map fun _ => .compare .fieldValue .atLeast ()) ++
        (upper.toList.map fun _ => .compare .fieldValue .atMost ())),
      .text name :: .text kind.label ::
        (lower.toList.map Prod.snd ++ upper.toList.map Prod.snd)⟩

/-- A value to compare the document identifier with. -/
def identifierValue : Datum → Except QueryError Parameter
  | .text value => .ok (.text value)
  | other => .error (.identifierNotText other.typeName)

/-- The comparison of the document identifier with a bound that is present. -/
def identifierBound (comparison : Comparison) (value : Datum) :
    Except QueryError (List Clause) :=
  if value.isPresent then do
    .ok [⟨.compare .documentId comparison (), [← identifierValue value]⟩]
  else .ok []

/-- A leaf on the document identifier. -/
def identifierLeaf (kind : QueryKind) (values : List Datum) (low high : Datum) :
    Except QueryError Clause :=
  match kind with
  | .present => .ok everything
  | .equals => do
    .ok ⟨.compare .documentId .equal (), [← identifierValue (values.headD .null)]⟩
  | .among =>
    if values.isEmpty then .ok nothing
    else do
      .ok ⟨.among .documentId (values.map fun _ => ()), ← values.mapM identifierValue⟩
  | .range => do
    let lower ← identifierBound .atLeast low
    let upper ← identifierBound .atMost high
    match lower ++ upper with
    | [] => .ok everything
    | first :: rest => .ok (rest.foldl (joined .conjunction) first)
  | other => .error (.unsupportedIdentifierKind other.literal)

/-- A leaf on a field that is not the document identifier. -/
def fieldLeaf (kind : QueryKind) (name : Text) (values : List Datum) (low high : Datum) :
    Except QueryError Clause :=
  match kind with
  | .equals => equals name (values.headD .null)
  | .among => among name values
  | .range => range name low high
  | .present => .ok (present name)
  | other => .error (.unsupportedKind other.literal)

/-- A leaf of a query; the field is checked first. -/
def leaf (kind : QueryKind) (field : Datum) (values : List Datum) (low high : Datum) :
    Except QueryError Clause := do
  let name ← queryFieldName field
  if name = FieldName.identifier then identifierLeaf kind values low high
  else fieldLeaf kind name values low high

mutual

/-- The clause of a query, or the first thing that is wrong with it. -/
def ofQuery : Query → Except QueryError Clause
  | .node kind field values low high children =>
    match kind with
    | .all => do .ok (balanced .conjunction (← ofQueries children))
    | .any => do .ok (balanced .disjunction (← ofQueries children))
    | other => leaf other field values low high
  | .foreign given => .error (.notQuery given.typeName)

/-- The clauses of a list of queries, in order. -/
def ofQueries : List Query → Except QueryError (List Clause)
  | [] => .ok []
  | child :: rest => do .ok ((← ofQuery child) :: (← ofQueries rest))

end

end Clause

/-- The order that a sort asks for; the field is checked before the direction. -/
def OrderClause.ofSort : Option SortOrder → Except QueryError OrderClause
  | none => .ok filing
  | some sort => do
    let name ← queryFieldName sort.field
    match SortDirection.ofDatum? sort.direction with
    | none => .error (.unknownDirection sort.direction)
    | some direction =>
      if name = FieldName.identifier then .ok ⟨.documentId, direction, []⟩
      else .ok ⟨.field (), direction, [.text name]⟩

/-- The selection of a query, where no query selects everything; the condition is checked
before the order. -/
def Selection.ofQuery (query : Option Query) (sort : Option SortOrder) :
    Except QueryError Selection := do
  let condition ← match query with
    | none => .ok .everything
    | some query => Clause.ofQuery query
  .ok ⟨condition, ← OrderClause.ofSort sort⟩

end Depot
