import Depot.Bytes.Encoding
import Depot.Entries
import Depot.Field.Basic

/-!
# Metadata of documents

What the index knows about a document: where it is filed, which payload it points at,
and its fields in the order in which they were given.
-/

namespace Depot

/-- A document as the index returns it. -/
structure Metadata where
  indexName : String
  documentId : String
  contentHash : String
  contentType : Option String
  fields : List Field
  deriving DecidableEq

namespace Metadata

/-- The fields by name; a repeated name keeps its first place and takes its last value. -/
def fieldEntries (metadata : Metadata) : List (Text × Datum) :=
  collectEntries (metadata.fields.map Field.toPair)

/-- The document as a record. -/
def toDatum (metadata : Metadata) : Datum :=
  .record [
    ("index", .text metadata.indexName),
    ("id", .text metadata.documentId),
    ("hash", .text metadata.contentHash),
    ("content_type", .ofOptionalText metadata.contentType),
    ("fields", .sequence (metadata.fields.map fun field =>
      .record [("name", .text field.name), ("value", field.value.toDatum)]))]

end Metadata

/-- Where an indexed document is filed and what it points at. -/
structure Placement where
  indexName : String
  documentId : String
  contentHash : String
  deriving DecidableEq

/-- The place of a document as a record. -/
def Placement.toDatum (placement : Placement) : Datum :=
  .record [
    ("index", .text placement.indexName),
    ("id", .text placement.documentId),
    ("hash", .text placement.contentHash)]

/-- The optional parts of an index request. -/
structure IndexOptions where
  documentId : Option Text
  contentType : Option Text
  fields : List Field

namespace IndexOptions

/-- No identifier, no content type, no fields. -/
def empty : IndexOptions := ⟨none, none, []⟩

/-- Options with checked fields; an empty identifier counts as none. -/
def build (documentId contentType : Option Text) (fields : Option Field.Source) :
    Except FieldError IndexOptions := do
  let accepted ← Field.collect fields
  .ok ⟨documentId.filter (!·.isEmpty), contentType, accepted⟩

end IndexOptions

/-- A document joined with its payload; without a document the payload is empty. -/
structure Retrieved where
  metadata : Option Metadata
  payload : List UInt8

/-- Whether there is a document. -/
def Retrieved.found (retrieved : Retrieved) : Bool := retrieved.metadata.isSome

/-- A document with its payload as a record; the payload is written in Base64. -/
def Retrieved.toDatum (retrieved : Retrieved) : Datum :=
  .record [
    ("metadata", (retrieved.metadata.map Metadata.toDatum).getD .null),
    ("payload", .text (Base64.encode retrieved.payload))]

end Depot
