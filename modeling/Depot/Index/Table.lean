import Depot.Field.Value
import Depot.Metadata

/-!
# Tables

The index keeps three tables: the names of the indexes, one row for each document, and
one row for each field of a document. Document rows stand in the order in which their
documents were first filed and have ascending numbers, with gaps where documents were
overwritten.
-/

namespace Depot

/-- A row of the table of documents. -/
structure DocumentRow where
  rowId : Nat
  indexName : String
  documentId : String
  contentHash : String
  contentType : Option String
  deriving DecidableEq

/-- A row of the table of fields; `owner` is the row number of the document. -/
structure FieldRow where
  owner : Nat
  position : Nat
  name : String
  kind : String
  value : StoredValue
  deriving DecidableEq

/-- The contents of the index. -/
structure Tables where
  indexNames : List String
  documents : List DocumentRow
  fields : List FieldRow
  /-- The last row number that has been used up. -/
  lastRowId : Nat
  deriving DecidableEq

namespace Tables

/-- The tables of a new index. -/
def empty : Tables := ⟨[], [], [], 0⟩

/-- The row of a document. -/
def document? (tables : Tables) (indexName documentId : String) : Option DocumentRow :=
  tables.documents.find? fun row => row.indexName == indexName && row.documentId == documentId

/-- The field rows of a document, in the order of their positions. -/
def fieldsOf (tables : Tables) (rowId : Nat) : List FieldRow :=
  (tables.fields.filter fun row => row.owner == rowId).mergeSort fun left right =>
    left.position ≤ right.position

end Tables

/-- The field that a row of the table of fields holds. -/
def FieldRow.toField (row : FieldRow) : Except FieldError Field :=
  Field.make (.text row.name) (.restore row.kind row.value.toDatum)

/-- The metadata of a document from its row and its field rows. -/
def DocumentRow.toMetadata (row : DocumentRow) (fields : List FieldRow) :
    Except FieldError Metadata := do
  let accepted ← fields.mapM FieldRow.toField
  .ok ⟨row.indexName, row.documentId, row.contentHash, row.contentType, accepted⟩

end Depot
