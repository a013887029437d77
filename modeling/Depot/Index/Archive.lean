import Depot.Json.Reader
import Depot.Json.Writer
import Depot.Index.Table
import Depot.Text.Utf8

/-!
# Archives of tables

Tables are kept in files as JSON: a record with a list for each of the three tables and the
greatest row number. A file that holds anything else holds no tables.
-/

namespace Depot.Archive

/-- A row of documents as a sequence. -/
def ofDocument (row : DocumentRow) : Datum :=
  .sequence [.integer row.rowId, .text row.indexName, .text row.documentId,
    .text row.contentHash, .ofOptionalText row.contentType]

/-- A row of fields as a sequence. -/
def ofField (row : FieldRow) : Datum :=
  .sequence [.integer row.owner, .integer row.position, .text row.name, .text row.kind,
    row.value.toDatum]

/-- Tables as a record. -/
def ofTables (tables : Tables) : Datum :=
  .record [
    ("indexes", .sequence (tables.indexNames.map fun name : String => .text name)),
    ("documents", .sequence (tables.documents.map ofDocument)),
    ("fields", .sequence (tables.fields.map ofField)),
    ("last", .integer tables.lastRowId)]

/-- The natural of a datum. -/
def natural? : Datum → Option Nat
  | .integer value => if 0 ≤ value then some value.toNat else none
  | _ => none

/-- The stored value of a datum. -/
def storedValue? : Datum → Option StoredValue
  | .integer value => some (.integer value)
  | .real value => some (.real value)
  | .text value => value.toString?.map .text
  | _ => none

/-- The row of documents that a datum holds. -/
def document? : Datum → Option DocumentRow
  | .sequence [rowId, indexName, documentId, contentHash, contentType] => do
    some ⟨← natural? rowId, ← indexName.string?, ← documentId.string?, ← contentHash.string?,
      contentType.string?⟩
  | _ => none

/-- The row of fields that a datum holds. -/
def field? : Datum → Option FieldRow
  | .sequence [owner, position, name, kind, value] => do
    some ⟨← natural? owner, ← natural? position, ← name.string?, ← kind.string?,
      ← storedValue? value⟩
  | _ => none

/-- The items of a table. -/
def items? (entries : List (Text × Datum)) (name : String) : Option (List Datum) :=
  match Datum.entry? name entries with
  | some (.sequence items) => some items
  | _ => none

/-- The tables that a datum holds. -/
def tables? : Datum → Option Tables
  | .record entries => do
    let indexNames ← (← items? entries "indexes").mapM Datum.string?
    let documents ← (← items? entries "documents").mapM document?
    let fields ← (← items? entries "fields").mapM field?
    let last ← natural? (← Datum.entry? "last" entries)
    some ⟨indexNames, documents, fields, last⟩
  | _ => none

/-- The bytes of tables in a file. -/
def write (tables : Tables) : List UInt8 := Utf8.write (Json.write (ofTables tables))

/-- The tables that the bytes of a file hold. -/
def read? (bytes : List UInt8) : Option Tables := do
  let text ← Utf8.read? bytes
  match Json.read text with
  | .ok datum => tables? datum
  | .error _ => none

end Depot.Archive
