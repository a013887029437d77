import Depot.Proofs.Filing
import Mathlib.Data.List.Nodup
import Mathlib.Data.List.TakeWhile

/-!
# Catalogues

A catalogue is an index as its callers see it: the names of the indexes and one ordered list of
documents, each known by its index and its identifier. Filing overwrites the document that is
known by the same key where it stands, or puts a new one at the end.

`Connection.after` and `Catalogue.after` run the same calls, the one on tables and the other on
a catalogue.
-/

namespace Depot

/-- What a document is known by: its index and its identifier. -/
def Metadata.key (document : Metadata) : String × String :=
  (document.indexName, document.documentId)

/-- An index as its callers see it. -/
structure Catalogue where
  indexNames : List String
  documents : List Metadata

namespace Catalogue

/-- Nothing has been filed. -/
def empty : Catalogue := ⟨[], []⟩

/-- Adds the name of an index, if it is not there. -/
def addIndex (catalogue : Catalogue) (name : String) : Catalogue :=
  if name ∈ catalogue.indexNames then catalogue
  else { catalogue with indexNames := catalogue.indexNames ++ [name] }

/-- Puts a document in the place of the one that is known by its key, or at the end. -/
def place (document : Metadata) (documents : List Metadata) : List Metadata :=
  if document.key ∈ documents.map Metadata.key then
    documents.map fun present => if present.key = document.key then document else present
  else documents ++ [document]

/-- Files a document, whose index is added if it is not there. -/
def file (catalogue : Catalogue) (document : Metadata) : Catalogue :=
  ⟨(catalogue.addIndex document.indexName).indexNames, place document catalogue.documents⟩

/-- The document of a key. -/
def find? (catalogue : Catalogue) (indexName documentId : String) : Option Metadata :=
  catalogue.documents.find? fun document => document.key = (indexName, documentId)

/-- The documents of an index, in the order in which they were first filed. -/
def inIndex (catalogue : Catalogue) (indexName : String) : List Metadata :=
  catalogue.documents.filter fun document => document.indexName = indexName

@[simp] theorem documents_addIndex (catalogue : Catalogue) (name : String) :
    (catalogue.addIndex name).documents = catalogue.documents := by
  rw [addIndex]
  split <;> rfl

/-- Adding an index keeps the names distinct. -/
theorem nodup_addIndex {catalogue : Catalogue} (distinct : catalogue.indexNames.Nodup)
    (name : String) : (catalogue.addIndex name).indexNames.Nodup := by
  rw [addIndex]
  split
  · exact distinct
  · rename_i absent
    rw [← List.concat_eq_append]
    exact distinct.concat absent

/-- Placing a document keeps the keys in their order. -/
theorem map_key_place (document : Metadata) (documents : List Metadata) :
    (place document documents).map Metadata.key =
      if document.key ∈ documents.map Metadata.key then documents.map Metadata.key
      else documents.map Metadata.key ++ [document.key] := by
  rw [place]
  split
  · rw [List.map_map]
    apply List.map_congr_left
    intro present _
    simp only [Function.comp_apply]
    split
    · rename_i same
      exact same.symm
    · rfl
  · rw [List.map_append, List.map_singleton]

/-- Placing a document keeps the keys distinct. -/
theorem nodup_place {documents : List Metadata} (distinct : (documents.map Metadata.key).Nodup)
    (document : Metadata) : ((place document documents).map Metadata.key).Nodup := by
  rw [map_key_place]
  split
  · exact distinct
  · rename_i absent
    rw [← List.concat_eq_append]
    exact distinct.concat absent

end Catalogue

/-- Whether an open index files fields: their values can be compared and kept, and their names
are distinct. -/
def Field.areFileable (fields : List Field) : Bool :=
  fields.all (fun field => !field.value.isNaN && field.isEncodable) &&
    decide (fields.map Field.name).Nodup

/-- The three conditions on fields that are filed. -/
theorem Field.areFileable_iff (fields : List Field) :
    areFileable fields = true ↔ (∀ field ∈ fields, field.value.isNaN = false) ∧
      (∀ field ∈ fields, field.isEncodable = true) ∧ (fields.map Field.name).Nodup := by
  simp only [areFileable, Bool.and_eq_true, List.all_eq_true, Bool.not_eq_true',
    decide_eq_true_eq]
  constructor
  · rintro ⟨each, distinct⟩
    exact ⟨fun field member => (each field member).1, fun field member => (each field member).2,
      distinct⟩
  · rintro ⟨comparable, encodable, distinct⟩
    exact ⟨fun field member => ⟨comparable field member, encodable field member⟩, distinct⟩

/-- A call that changes an index. -/
inductive IndexCall where
  | createIndex (indexName : String)
  | upsert (indexName documentId contentHash : String) (contentType : Option String)
      (fields : List Field)

namespace Connection

/-- An index that was just made. -/
def vacant : Connection := ⟨.empty, true⟩

/-- The index after a call, whether the call succeeds or fails. -/
def perform (connection : Connection) : IndexCall → Connection
  | .createIndex indexName => (connection.createIndex indexName).2
  | .upsert indexName documentId contentHash contentType fields =>
    (connection.upsert indexName documentId contentHash contentType fields).2

/-- A new index after calls. -/
def after (calls : List IndexCall) : Connection := calls.foldl perform vacant

/-- An open index refuses fields that cannot be filed. -/
theorem upsert_of_not_fileable {connection : Connection} (indexName documentId contentHash : String)
    (contentType : Option String) {fields : List Field} (isOpen : connection.isOpen = true)
    (refused : Field.areFileable fields = false) :
    ∃ failure, (connection.upsert indexName documentId contentHash contentType fields).1 =
      .error failure := by
  by_cases comparable : ∀ field ∈ fields, field.value.isNaN = false
  · by_cases distinct : ((fields.takeWhile Field.isEncodable).map Field.name).Nodup
    · by_cases encodable : ∀ field ∈ fields, field.isEncodable = true
      · rw [List.takeWhile_eq_self_iff.mpr encodable] at distinct
        have fileable := (Field.areFileable_iff fields).mpr ⟨comparable, encodable, distinct⟩
        rw [fileable] at refused
        cases refused
      · obtain ⟨fault, failed⟩ := upsert_of_not_isEncodable indexName documentId contentHash
          contentType isOpen comparable distinct (by simpa using encodable)
        exact ⟨_, failed⟩
    · exact ⟨_, upsert_of_repeated isOpen comparable distinct⟩
  · exact ⟨_, upsert_of_notANumber isOpen (by simpa using comparable)⟩

/-- Filing either fails and changes nothing, or succeeds and leaves the tables with the document;
it succeeds exactly on an open index with fields that can be filed. -/
theorem upsert_cases (connection : Connection) (indexName documentId contentHash : String)
    (contentType : Option String) (fields : List Field) :
    (connection.isOpen = true ∧ Field.areFileable fields = true ∧
        connection.upsert indexName documentId contentHash contentType fields =
          (.ok (), { connection with
            tables := Work.filed connection.tables indexName documentId contentHash contentType
              fields })) ∨
      ((connection.isOpen && Field.areFileable fields) = false ∧
        ∃ failure, connection.upsert indexName documentId contentHash contentType fields =
          (.error failure, connection)) := by
  have unchanged {failure : Failure}
      (failed : (connection.upsert indexName documentId contentHash contentType fields).1 =
        .error failure) :
      connection.upsert indexName documentId contentHash contentType fields =
        (.error failure, connection) :=
    Prod.ext failed (upsert_of_error failed)
  cases isOpen : connection.isOpen with
  | false => exact .inr ⟨rfl, _, upsert_of_closed isOpen⟩
  | true =>
    cases fileable : Field.areFileable fields with
    | true =>
      obtain ⟨comparable, encodable, distinct⟩ := (Field.areFileable_iff fields).mp fileable
      refine .inl ⟨rfl, rfl, ?_⟩
      rw [upsert_of_fileable isOpen comparable distinct encodable, isOpen]
    | false =>
      obtain ⟨failure, failed⟩ := upsert_of_not_fileable indexName documentId contentHash
        contentType isOpen fileable
      exact .inr ⟨rfl, failure, unchanged failed⟩

/-- An open index makes an index. -/
theorem createIndex_of_open {connection : Connection} (isOpen : connection.isOpen = true)
    (indexName : String) :
    connection.createIndex indexName =
      (.ok (), { connection with tables := connection.tables.addIndexName indexName }) := by
  rw [createIndex, transact, isOpen]
  rfl

end Connection

namespace Catalogue

/-- The catalogue after a call; a document whose fields cannot be filed changes nothing. -/
def perform (catalogue : Catalogue) : IndexCall → Catalogue
  | .createIndex indexName => catalogue.addIndex indexName
  | .upsert indexName documentId contentHash contentType fields =>
    if Field.areFileable fields then
      catalogue.file ⟨indexName, documentId, contentHash, contentType, fields⟩
    else catalogue

/-- An empty catalogue after calls. -/
def after (calls : List IndexCall) : Catalogue := calls.foldl perform empty

end Catalogue
end Depot
