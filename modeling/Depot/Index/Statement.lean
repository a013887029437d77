import Depot.Failure
import Depot.Index.Clause

/-!
# Search statements

A search asks the index twice: for the number of documents that a selection picks, and for
the rows of one page of them. Both statements put the condition in parentheses after the
test of the index name. Parameters are handed over as one list and bound from left to
right: the index name, the values of the condition, the values of the order, the size of
the page, and the number of rows before it. The first one that the index cannot take is the
fault of the whole list.

Before its parameters are bound a statement is prepared. The database does not prepare
statements with more than `parameterLimit` places or with expressions higher than
`heightLimit`, as it is built unless told otherwise.
-/

namespace Depot

namespace Selection

/-- The statement that counts. -/
def countText (selection : Selection) : String :=
  "SELECT COUNT(*) FROM documents d WHERE d.index_name = ? AND (" ++
    selection.condition.text ++ ")"

/-- The statement that fetches a page. -/
def pageText (selection : Selection) : String :=
  "SELECT d.id, d.index_name, d.doc_id, d.hash, d.content_type FROM documents d " ++
    "WHERE d.index_name = ? AND (" ++ selection.condition.text ++ ") " ++
    selection.order.text ++ " LIMIT ? OFFSET ?"

/-- The parameters of the statement that counts. -/
def countParameters (selection : Selection) (indexName : Text) : List Parameter :=
  .text indexName :: selection.condition.parameters

/-- The parameters of the statement that fetches a page. -/
def pageParameters (selection : Selection) (indexName : Text) (request : PageRequest) :
    List Parameter :=
  .text indexName :: (selection.condition.parameters ++ selection.order.parameters ++
    [.integer request.size, .integer request.offset])

end Selection

/-- The count statement with its parameters bound. -/
structure BoundCount where
  indexName : StoredValue
  condition : Condition StoredValue

/-- The page statement with its parameters bound. -/
structure BoundPage where
  indexName : StoredValue
  condition : Condition StoredValue
  order : OrderKey StoredValue
  direction : SortDirection
  size : Nat
  offset : Nat

/-- Why parameters cannot be bound. -/
inductive BindingFault where
  | database (fault : DatabaseFault)
  | integerTooLarge
  | encoding (fault : EncodingFault)

/-- The stored form of a parameter that the index can take. -/
def Parameter.bind : Parameter → Except BindingFault StoredValue
  | .integer value => if fitsInteger value then .ok (.integer value) else .error .integerTooLarge
  | other => other.encode.mapError .encoding

/-- Puts parameters into the places of an order; what is left over comes back. -/
def OrderKey.bind? : OrderKey Unit → List StoredValue →
    Option (OrderKey StoredValue × List StoredValue)
  | filing, values => some (filing, values)
  | documentId, values => some (documentId, values)
  | field _, name :: rest => some (field name, rest)
  | field _, [] => none

/-- The number of places of an order. -/
def OrderKey.places : OrderKey Unit → Nat
  | field _ => 1
  | _ => 0

/-- The greatest number of places of a statement. -/
def parameterLimit : Nat := 32766

/-- The greatest height of an expression. -/
def heightLimit : Nat := 1000

/-- The height of the expression of a statement with a condition: the test of the index name and
the condition are joined, and the tests inside the condition are counted on top. -/
def Condition.statementHeight (condition : Condition Unit) : Nat :=
  max 3 condition.height + 1 + condition.innerHeight

/-- What keeps a statement with a condition and a number of places from being prepared. -/
def Condition.prepareFault? (condition : Condition Unit) (places : Nat) : Option DatabaseFault :=
  if parameterLimit < places then some .tooManyParameters
  else if heightLimit < condition.statementHeight then some .tooDeep
  else none

namespace Selection

/-- The number of places of the count statement. -/
def countPlaces (selection : Selection) : Nat := selection.condition.condition.places + 1

/-- The number of places of the page statement. -/
def pagePlaces (selection : Selection) : Nat :=
  selection.condition.condition.places + selection.order.key.places + 3

/-- What keeps the count statement from being prepared. -/
def countFault? (selection : Selection) : Option DatabaseFault :=
  selection.condition.condition.prepareFault? selection.countPlaces

/-- What keeps the page statement from being prepared. -/
def pageFault? (selection : Selection) : Option DatabaseFault :=
  selection.condition.condition.prepareFault? selection.pagePlaces

end Selection

/-- Prepares a statement and binds the values of its parameters. -/
def bindAll (fault? : Option DatabaseFault) (parameters : List Parameter) :
    Except BindingFault (List StoredValue) :=
  match fault? with
  | some fault => .error (.database fault)
  | none => parameters.mapM Parameter.bind

/-- Binds the parameters of the count statement. -/
def Selection.bindCount (selection : Selection) (parameters : List Parameter) :
    Except BindingFault BoundCount := do
  let wrong : BindingFault :=
    .database (.wrongParameters selection.countPlaces parameters.length)
  match ← bindAll selection.countFault? parameters with
  | [] => .error wrong
  | indexName :: values =>
    match selection.condition.condition.bind? values with
    | some (condition, []) => .ok ⟨indexName, condition⟩
    | _ => .error wrong

/-- Binds the parameters of the page statement. -/
def Selection.bindPage (selection : Selection) (parameters : List Parameter) :
    Except BindingFault BoundPage := do
  let wrong : BindingFault :=
    .database (.wrongParameters selection.pagePlaces parameters.length)
  match ← bindAll selection.pageFault? parameters with
  | [] => .error wrong
  | indexName :: values =>
    match selection.condition.condition.bind? values with
    | none => .error wrong
    | some (condition, afterCondition) =>
      match selection.order.key.bind? afterCondition with
      | some (order, [.integer size, .integer offset]) =>
        .ok ⟨indexName, condition, order, selection.order.direction, size.toNat, offset.toNat⟩
      | some (_, [_, _]) => .error (.database .wrongShape)
      | _ => .error wrong

namespace Tables

/-- The rows of an index that fulfil a condition, in the order in which they were filed. -/
def select (tables : Tables) (indexName : StoredValue) (condition : Condition StoredValue) :
    List DocumentRow :=
  tables.documents.filter fun row =>
    Comparison.equal.holds (.text row.indexName) indexName.sortKey &&
      condition.holds tables.fields row none

/-- The value that a row is ordered by. -/
def orderKey (tables : Tables) (order : OrderKey StoredValue) (row : DocumentRow) : SortKey :=
  match order with
  | .filing => .missing
  | .documentId => .text row.documentId
  | .field name =>
    match tables.fields.find? fun field =>
        field.owner == row.rowId &&
          Comparison.equal.holds (.text field.name) name.sortKey with
    | some field => field.value.sortKey
    | none => .missing

/-- Whether a row with its key comes before another one: by the keys in the direction asked
for, and of equal keys by the order in which the rows were filed. -/
def precedes (direction : SortDirection) (left right : SortKey × DocumentRow) : Bool :=
  if left.1 = right.1 then decide (left.2.rowId ≤ right.2.rowId)
  else
    match direction with
    | .ascending => left.1.le right.1
    | .descending => right.1.le left.1

/-- The number of rows that a count statement finds. -/
def count (tables : Tables) (statement : BoundCount) : Nat :=
  (tables.select statement.indexName statement.condition).length

/-- All rows that a page statement finds, in its order. -/
def ordered (tables : Tables) (statement : BoundPage) : List DocumentRow :=
  let keyed := (tables.select statement.indexName statement.condition).map fun row =>
    (tables.orderKey statement.order row, row)
  (keyed.mergeSort (precedes statement.direction)).map Prod.snd

/-- The rows of a page statement. -/
def page (tables : Tables) (statement : BoundPage) : List DocumentRow :=
  ((tables.ordered statement).drop statement.offset).take statement.size

end Tables
end Depot
