import Depot.Index.Selection
import Depot.Index.Statement

/-!
# The index

A connection holds the contents of an index and tells whether it is open. Changes run as
transactions: the statements of a transaction change a working copy one after the other,
and the copy takes the place of the contents only if all of them succeed.
-/

namespace Depot

/-- Why a transaction is given up. -/
inductive WorkFault where
  | database (fault : DatabaseFault)
  | value (error : QueryError)
  | encoding (fault : EncodingFault)

/-- The body of a transaction: it changes the working copy and may be given up at any
point, leaving the copy half changed. -/
abbrev Work (α : Type) := ExceptT WorkFault (StateM Tables) α

namespace Tables

/-- Adds the name of an index, if it is not there. -/
def addIndexName (tables : Tables) (name : String) : Tables :=
  if tables.indexNames.contains name then tables
  else { tables with indexNames := tables.indexNames ++ [name] }

/-- Files a document: a document that is there is overwritten in its place, another one is
put at the end with the next row number. Overwriting uses up a row number as well. The row
number of the document comes back. -/
def putDocument (tables : Tables) (indexName documentId contentHash : String)
    (contentType : Option String) : Nat × Tables :=
  match tables.document? indexName documentId with
  | some row =>
    let changed : DocumentRow :=
      { row with contentHash := contentHash, contentType := contentType }
    (row.rowId, { tables with
      documents := tables.documents.map fun present =>
        if present.rowId = row.rowId then changed else present
      lastRowId := tables.lastRowId + 1 })
  | none =>
    let rowId := tables.lastRowId + 1
    (rowId, { tables with
      documents := tables.documents ++
        [⟨rowId, indexName, documentId, contentHash, contentType⟩],
      lastRowId := rowId })

/-- Drops the fields of a document. -/
def dropFields (tables : Tables) (rowId : Nat) : Tables :=
  { tables with fields := tables.fields.filter fun row => row.owner != rowId }

/-- Adds a field row; a document has at most one field of a name. -/
def insertField (tables : Tables) (row : FieldRow) : Except DatabaseFault Tables :=
  if tables.fields.any fun present => present.owner == row.owner && present.name == row.name then
    .error .repeatedField
  else .ok { tables with fields := tables.fields ++ [row] }

end Tables

/-- The row of a field; the name is encoded before the value. -/
def FieldRow.ofField (rowId position : Nat) (field : Field) : Except EncodingFault FieldRow := do
  let name ← field.name.encode
  let value ← field.value.parameter.encode
  .ok ⟨rowId, position, name, field.value.kind.label, value⟩

namespace Work

/-- A statement that inserts the row of a field. -/
def insertField (rowId position : Nat) (field : Field) : Work Unit := do
  match FieldRow.ofField rowId position field with
  | .error fault => throw (.encoding fault)
  | .ok row =>
    match (← get).insertField row with
    | .ok tables => set tables
    | .error fault => throw (.database fault)

/-- Inserts the rows of fields whose first one has a position. -/
def insertFields (rowId position : Nat) : List Field → Work Unit
  | [] => pure ()
  | field :: rest => do
    insertField rowId position field
    insertFields rowId (position + 1) rest

/-- The transaction that files a document with all its fields. A value that cannot be compared
is refused before the first row of a field is inserted. -/
def upsert (indexName documentId contentHash : String) (contentType : Option String)
    (fields : List Field) : Work Unit := do
  modify fun tables => tables.addIndexName indexName
  let (rowId, filed) := (← get).putDocument indexName documentId contentHash contentType
  set filed
  modify fun tables => tables.dropFields rowId
  if fields.any fun field => field.value.isNaN then throw (.value .notANumber)
  else insertFields rowId 0 fields

end Work

/-- An index that has been opened. -/
structure Connection where
  tables : Tables
  isOpen : Bool
  deriving DecidableEq

namespace Connection

/-- Runs a transaction: its changes are kept if it succeeds and undone if it fails. -/
def transact {α : Type} (connection : Connection) (work : Work α) :
    Except WorkFault α × Connection :=
  if connection.isOpen then
    match work.run connection.tables with
    | (.ok result, tables) => (.ok result, { connection with tables := tables })
    | (.error fault, _) => (.error fault, connection)
  else (.error (.database .closed), connection)

/-- The failure of a transaction that was given up, where `database` says what a fault of the
database kept from being done. -/
def workFailure (database : DatabaseFault → IndexFault) : WorkFault → Failure
  | .database fault => .indexUnavailable (database fault)
  | .value error => .query error
  | .encoding fault => .encoding fault

/-- Makes an index, if there is none of the name. -/
def createIndex (connection : Connection) (indexName : String) :
    Except Failure Unit × Connection :=
  let (result, after) :=
    connection.transact (modify fun tables => tables.addIndexName indexName)
  (result.mapError (workFailure (.cannotCreate indexName)), after)

/-- The names of all indexes in ascending order. -/
def indexNames (connection : Connection) : Except Failure (List String) :=
  if connection.isOpen then
    .ok (connection.tables.indexNames.mergeSort fun left right => decide (left ≤ right))
  else .error (.indexUnavailable (.cannotList .closed))

/-- Files a document under an identifier. -/
def upsert (connection : Connection) (indexName documentId contentHash : String)
    (contentType : Option String) (fields : List Field) : Except Failure Unit × Connection :=
  let (result, after) :=
    connection.transact (Work.upsert indexName documentId contentHash contentType fields)
  (result.mapError (workFailure (.cannotFile documentId indexName)), after)

/-- The failure of a search whose statements cannot be prepared or bound. -/
def searchFailure (indexName : Text) : BindingFault → Failure
  | .database fault => .indexUnavailable (.cannotSearch indexName fault)
  | .integerTooLarge => .integerTooLarge
  | .encoding fault => .encoding fault

/-- The documents that rows stand for. -/
def load (tables : Tables) (rows : List DocumentRow) : Except FieldError (List Metadata) :=
  rows.mapM fun row => row.toMetadata (tables.fieldsOf row.rowId)

/-- One page of the documents that a selection picks from an index. The statement that fetches the
fields of the page has a place for each of its rows. -/
def search (connection : Connection) (indexName : Text) (selection : Selection)
    (request : PageRequest) : Except Failure (Page Metadata) :=
  if connection.isOpen then
    match selection.bindCount (selection.countParameters indexName) with
    | .error fault => .error (searchFailure indexName fault)
    | .ok countStatement =>
      match selection.bindPage (selection.pageParameters indexName request) with
      | .error fault => .error (searchFailure indexName fault)
      | .ok pageStatement =>
        let rows := connection.tables.page pageStatement
        if parameterLimit < rows.length then
          .error (searchFailure indexName (.database .tooManyParameters))
        else
          match load connection.tables rows with
          | .error error => .error (.field error)
          | .ok documents =>
            .ok ⟨documents, connection.tables.count countStatement, request.page, request.size⟩
  else .error (.indexUnavailable (.cannotSearch indexName .closed))

end Connection
end Depot
