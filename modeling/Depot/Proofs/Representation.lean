import Depot.Proofs.Catalogue
import Mathlib.Data.List.Forall2

/-!
# Tables represent catalogues

`Tables.Represents` says which catalogue tables stand for: the rows of documents stand for its
documents in order, and the field rows with the number of a document hold its fields in order.
Every call keeps tables and catalogue together, so the tables of an index represent the
catalogue of the same calls.
-/

namespace Depot

/-- A row stands for a document when their parts are the same and the field rows with its number
hold the fields of the document. -/
structure DocumentRow.StandsFor (row : DocumentRow) (fields : List FieldRow)
    (document : Metadata) : Prop where
  indexName : row.indexName = document.indexName
  documentId : row.documentId = document.documentId
  contentHash : row.contentHash = document.contentHash
  contentType : row.contentType = document.contentType
  encodable : ∀ field ∈ document.fields, field.isEncodable = true
  fieldRows : fields.filter (fun field => field.owner == row.rowId) =
    Field.rows row.rowId 0 document.fields

/-- What a row of documents is known by. -/
def DocumentRow.key (row : DocumentRow) : String × String := (row.indexName, row.documentId)

/-- A row is known by the key of its document. -/
theorem DocumentRow.StandsFor.key_eq {row : DocumentRow} {fields : List FieldRow}
    {document : Metadata} (standsFor : row.StandsFor fields document) :
    row.key = document.key := by
  rw [DocumentRow.key, Metadata.key, standsFor.indexName, standsFor.documentId]

namespace Tables

/-- Tables represent a catalogue. -/
structure Represents (tables : Tables) (catalogue : Catalogue) : Prop where
  indexNames : tables.indexNames = catalogue.indexNames
  distinctNames : catalogue.indexNames.Nodup
  documents : List.Forall₂ (fun row document => row.StandsFor tables.fields document)
    tables.documents catalogue.documents
  ascending : (tables.documents.map DocumentRow.rowId).Pairwise (· < ·)
  bounded : ∀ rowId ∈ tables.documents.map DocumentRow.rowId, rowId ≤ tables.lastRowId
  distinct : (catalogue.documents.map Metadata.key).Nodup

/-- New tables represent the empty catalogue. -/
theorem represents_empty : empty.Represents .empty where
  indexNames := rfl
  distinctNames := .nil
  documents := .nil
  ascending := .nil
  bounded := fun _ member => by cases member
  distinct := .nil

@[simp] theorem documents_addIndexName (tables : Tables) (name : String) :
    (tables.addIndexName name).documents = tables.documents := by
  rw [addIndexName]
  split <;> rfl

@[simp] theorem fields_addIndexName (tables : Tables) (name : String) :
    (tables.addIndexName name).fields = tables.fields := by
  rw [addIndexName]
  split <;> rfl

@[simp] theorem lastRowId_addIndexName (tables : Tables) (name : String) :
    (tables.addIndexName name).lastRowId = tables.lastRowId := by
  rw [addIndexName]
  split <;> rfl

/-- The rows and the documents have the same keys in the same order. -/
theorem Represents.map_key {tables : Tables} {catalogue : Catalogue}
    (represents : tables.Represents catalogue) :
    tables.documents.map DocumentRow.key = catalogue.documents.map Metadata.key := by
  rw [← List.forall₂_eq_eq_eq, List.forall₂_map_left_iff, List.forall₂_map_right_iff]
  exact represents.documents.imp fun _ _ standsFor => standsFor.key_eq

/-- Making an index keeps tables and catalogue together. -/
theorem Represents.addIndexName {tables : Tables} {catalogue : Catalogue}
    (represents : tables.Represents catalogue) (name : String) :
    (tables.addIndexName name).Represents (catalogue.addIndex name) where
  indexNames := by
    rw [Tables.addIndexName, Catalogue.addIndex]
    simp only [List.contains_iff_mem, represents.indexNames]
    split
    · exact represents.indexNames
    · rfl
  distinctNames := Catalogue.nodup_addIndex represents.distinctNames name
  documents := by simpa using represents.documents
  ascending := by simpa using represents.ascending
  bounded := by simpa using represents.bounded
  distinct := by simpa using represents.distinct

/-- The field rows of a document that was filed are the new ones. -/
theorem filter_owner_self (fields : List FieldRow) (rowId : Nat) (filed : List Field) :
    ((fields.filter fun row => row.owner != rowId) ++ Field.rows rowId 0 filed).filter
      (fun row => row.owner == rowId) = Field.rows rowId 0 filed := by
  rw [List.filter_append, List.filter_filter]
  have dropped : fields.filter (fun row => row.owner == rowId && row.owner != rowId) = [] := by
    rw [List.filter_eq_nil_iff]
    intro row _
    simp [bne]
  have kept : (Field.rows rowId 0 filed).filter (fun row => row.owner == rowId) =
      Field.rows rowId 0 filed := by
    rw [List.filter_eq_self]
    intro row member
    simp [Field.owner_of_mem_rows member]
  rw [dropped, kept, List.nil_append]

/-- The field rows of all other documents stay. -/
theorem filter_owner_of_ne {rowId other : Nat} (different : other ≠ rowId)
    (fields : List FieldRow) (filed : List Field) :
    ((fields.filter fun row => row.owner != rowId) ++ Field.rows rowId 0 filed).filter
      (fun row => row.owner == other) = fields.filter (fun row => row.owner == other) := by
  rw [List.filter_append, List.filter_filter]
  have kept : fields.filter (fun row => row.owner == other && row.owner != rowId) =
      fields.filter (fun row => row.owner == other) := by
    apply List.filter_congr
    intro row _
    by_cases same : row.owner = other
    · simp [same, different]
    · simp [same]
  have absent : (Field.rows rowId 0 filed).filter (fun row => row.owner == other) = [] := by
    rw [List.filter_eq_nil_iff]
    intro row member
    simpa [Field.owner_of_mem_rows member] using different.symm
  rw [kept, absent, List.append_nil]

/-- A row of another number keeps standing for its document. -/
theorem standsFor_of_ne {row : DocumentRow} {fields : List FieldRow} {document : Metadata}
    (standsFor : row.StandsFor fields document) {rowId : Nat} (different : row.rowId ≠ rowId)
    (filed : List Field) :
    row.StandsFor ((fields.filter fun field => field.owner != rowId) ++ Field.rows rowId 0 filed)
      document :=
  { standsFor with
    fieldRows := by rw [filter_owner_of_ne different, standsFor.fieldRows] }

/-- The row of a document that was filed stands for it. -/
theorem standsFor_filed (fields : List FieldRow) (rowId : Nat) (document : Metadata)
    (encodable : ∀ field ∈ document.fields, field.isEncodable = true) :
    (DocumentRow.mk rowId document.indexName document.documentId document.contentHash
      document.contentType).StandsFor
      ((fields.filter fun field => field.owner != rowId) ++
        Field.rows rowId 0 document.fields) document where
  indexName := rfl
  documentId := rfl
  contentHash := rfl
  contentType := rfl
  encodable := encodable
  fieldRows := filter_owner_self fields rowId document.fields

/-- Rows that are known by one key are the same row. -/
theorem Represents.eq_of_key_eq {tables : Tables} {catalogue : Catalogue}
    (represents : tables.Represents catalogue) {first second : DocumentRow}
    (firstMember : first ∈ tables.documents) (secondMember : second ∈ tables.documents)
    (same : first.key = second.key) : first = second := by
  have distinct : (tables.documents.map DocumentRow.key).Nodup := by
    rw [represents.map_key]
    exact represents.distinct
  exact List.inj_on_of_nodup_map distinct firstMember secondMember same

/-- Rows with one number are the same row. -/
theorem Represents.eq_of_rowId_eq {tables : Tables} {catalogue : Catalogue}
    (represents : tables.Represents catalogue) {first second : DocumentRow}
    (firstMember : first ∈ tables.documents) (secondMember : second ∈ tables.documents)
    (same : first.rowId = second.rowId) : first = second := by
  have distinct : (tables.documents.map DocumentRow.rowId).Nodup :=
    represents.ascending.imp Nat.ne_of_lt
  exact List.inj_on_of_nodup_map distinct firstMember secondMember same

/-- The row that a look-up finds is there and has the key. -/
theorem document?_eq_some {tables : Tables} {indexName documentId : String} {row : DocumentRow}
    (found : tables.document? indexName documentId = some row) :
    row ∈ tables.documents ∧ row.key = (indexName, documentId) := by
  refine ⟨List.mem_of_find?_eq_some found, ?_⟩
  have matched := List.find?_some found
  rw [Bool.and_eq_true, beq_iff_eq, beq_iff_eq] at matched
  exact Prod.ext matched.1 matched.2

/-- A look-up that finds nothing means that no row has the key. -/
theorem document?_eq_none {tables : Tables} {indexName documentId : String}
    (absent : tables.document? indexName documentId = none) :
    (indexName, documentId) ∉ tables.documents.map DocumentRow.key := by
  rw [document?, List.find?_eq_none] at absent
  rw [List.mem_map]
  rintro ⟨row, member, same⟩
  apply absent row member
  rw [DocumentRow.key, Prod.mk.injEq] at same
  rw [Bool.and_eq_true, beq_iff_eq, beq_iff_eq]
  exact same

/-- A row and a document with one key: the number of a row picks the row exactly when the key of
that row picks the document. -/
theorem Represents.rowId_eq_iff {tables : Tables} {catalogue : Catalogue}
    (represents : tables.Represents catalogue) {row present : DocumentRow}
    (rowMember : row ∈ tables.documents) (member : present ∈ tables.documents) {other : Metadata}
    (sameKey : present.key = other.key) : present.rowId = row.rowId ↔ other.key = row.key := by
  constructor
  · intro same
    rw [← sameKey, represents.eq_of_rowId_eq member rowMember same]
  · intro same
    rw [represents.eq_of_key_eq member rowMember (sameKey.trans same)]

/-- Overwriting the row of a number with one of the same number keeps the numbers. -/
theorem map_rowId_overwrite (rows : List DocumentRow) {changed : DocumentRow} {rowId : Nat}
    (sameId : changed.rowId = rowId) :
    (rows.map fun present => if present.rowId = rowId then changed else present).map
      DocumentRow.rowId = rows.map DocumentRow.rowId := by
  rw [List.map_map]
  apply List.map_congr_left
  intro present _
  simp only [Function.comp_apply]
  split
  · rename_i same
    rw [sameId, same]
  · rfl

section

variable {tables : Tables} {catalogue : Catalogue} {document : Metadata}

/-- The tables after the document of a row has been filed again. -/
theorem filed_of_some {row : DocumentRow}
    (found : tables.document? document.indexName document.documentId = some row) :
    Work.filed tables document.indexName document.documentId document.contentHash
      document.contentType document.fields =
      { indexNames := (tables.addIndexName document.indexName).indexNames
        documents := tables.documents.map fun present =>
          if present.rowId = row.rowId then
            { row with contentHash := document.contentHash, contentType := document.contentType }
          else present
        fields := (tables.fields.filter fun field => field.owner != row.rowId) ++
          Field.rows row.rowId 0 document.fields
        lastRowId := tables.lastRowId + 1 } := by
  have foundNamed : (tables.addIndexName document.indexName).document? document.indexName
      document.documentId = some row := by
    rw [document?, documents_addIndexName]
    exact found
  rw [Work.filed, Work.prepared, putDocument, foundNamed]
  simp [addFields, dropFields]

/-- The tables after a new document has been filed. -/
theorem filed_of_none
    (absent : tables.document? document.indexName document.documentId = none) :
    Work.filed tables document.indexName document.documentId document.contentHash
      document.contentType document.fields =
      { indexNames := (tables.addIndexName document.indexName).indexNames
        documents := tables.documents ++ [⟨tables.lastRowId + 1, document.indexName,
          document.documentId, document.contentHash, document.contentType⟩]
        fields := (tables.fields.filter fun field => field.owner != tables.lastRowId + 1) ++
          Field.rows (tables.lastRowId + 1) 0 document.fields
        lastRowId := tables.lastRowId + 1 } := by
  have absentNamed : (tables.addIndexName document.indexName).document? document.indexName
      document.documentId = none := by
    rw [document?, documents_addIndexName]
    exact absent
  rw [Work.filed, Work.prepared, putDocument, absentNamed]
  simp [addFields, dropFields]

/-- Filing a document again overwrites it where it stands, in the tables and in the catalogue. -/
theorem Represents.filed_of_some (represents : tables.Represents catalogue) {row : DocumentRow}
    (found : tables.document? document.indexName document.documentId = some row)
    (encodable : ∀ field ∈ document.fields, field.isEncodable = true) :
    (Work.filed tables document.indexName document.documentId document.contentHash
      document.contentType document.fields).Represents (catalogue.file document) := by
  obtain ⟨rowMember, rowKey⟩ := document?_eq_some found
  have known : document.key ∈ catalogue.documents.map Metadata.key := by
    rw [← represents.map_key, ← show row.key = document.key from rowKey]
    exact List.mem_map_of_mem rowMember
  have named := represents.addIndexName document.indexName
  let changed : DocumentRow :=
    { row with contentHash := document.contentHash, contentType := document.contentType }
  have sameId : changed.rowId = row.rowId := rfl
  have rowIds := map_rowId_overwrite tables.documents sameId
  have pairs := (List.forall₂_and_left _ _).mpr
    ⟨fun present member => member, represents.documents⟩
  rw [Tables.filed_of_some found]
  refine ⟨named.indexNames, named.distinctNames, ?_, ?_, ?_,
    Catalogue.nodup_place represents.distinct document⟩
  · rw [Catalogue.file, Catalogue.place, if_pos known, List.forall₂_map_left_iff,
      List.forall₂_map_right_iff]
    refine pairs.imp ?_
    rintro present other ⟨member, standsFor⟩
    -- the row to be overwritten is found by its number, its document by its key
    have same : present.rowId = row.rowId ↔ other.key = document.key := by
      rw [represents.rowId_eq_iff rowMember member standsFor.key_eq, rowKey]
      rfl
    by_cases overwritten : present.rowId = row.rowId
    · rw [if_pos overwritten, if_pos (same.mp overwritten)]
      have written := standsFor_filed tables.fields row.rowId document encodable
      obtain ⟨sameIndex, sameId⟩ := Prod.mk.inj rowKey
      rw [← sameIndex, ← sameId] at written
      exact written
    · rw [if_neg overwritten, if_neg (mt same.mpr overwritten)]
      exact standsFor_of_ne standsFor overwritten document.fields
  · rw [rowIds]
    exact represents.ascending
  · intro rowId member
    rw [rowIds] at member
    exact Nat.le_succ_of_le (represents.bounded rowId member)

/-- Filing a new document puts it at the end, in the tables and in the catalogue. -/
theorem Represents.filed_of_none (represents : tables.Represents catalogue)
    (absent : tables.document? document.indexName document.documentId = none)
    (encodable : ∀ field ∈ document.fields, field.isEncodable = true) :
    (Work.filed tables document.indexName document.documentId document.contentHash
      document.contentType document.fields).Represents (catalogue.file document) := by
  have unknown : document.key ∉ catalogue.documents.map Metadata.key := by
    rw [← represents.map_key]
    exact document?_eq_none absent
  have named := represents.addIndexName document.indexName
  have earlier : ∀ row ∈ tables.documents, row.rowId ≠ tables.lastRowId + 1 := by
    intro row member
    have below := represents.bounded row.rowId (List.mem_map_of_mem member)
    omega
  have pairs := (List.forall₂_and_left _ _).mpr ⟨earlier, represents.documents⟩
  rw [Tables.filed_of_none absent]
  refine ⟨named.indexNames, named.distinctNames, ?_, ?_, ?_,
    Catalogue.nodup_place represents.distinct document⟩
  · rw [Catalogue.file, Catalogue.place, if_neg unknown]
    refine List.rel_append (pairs.imp ?_) (.cons ?_ .nil)
    · rintro row other ⟨different, standsFor⟩
      exact standsFor_of_ne standsFor different document.fields
    · exact standsFor_filed tables.fields (tables.lastRowId + 1) document encodable
  · rw [List.map_append, List.pairwise_append]
    refine ⟨represents.ascending, List.pairwise_singleton _ _, ?_⟩
    intro rowId member new isNew
    rw [List.map_singleton, List.mem_singleton] at isNew
    subst isNew
    exact Nat.lt_succ_of_le (represents.bounded rowId member)
  · intro rowId member
    rw [List.map_append, List.mem_append, List.map_singleton, List.mem_singleton] at member
    rcases member with old | rfl
    · exact Nat.le_succ_of_le (represents.bounded rowId old)
    · exact Nat.le_refl _

/-- Filing a document keeps tables and catalogue together. -/
theorem Represents.filed (represents : tables.Represents catalogue)
    (encodable : ∀ field ∈ document.fields, field.isEncodable = true) :
    (Work.filed tables document.indexName document.documentId document.contentHash
      document.contentType document.fields).Represents (catalogue.file document) := by
  cases found : tables.document? document.indexName document.documentId with
  | some row => exact represents.filed_of_some found encodable
  | none => exact represents.filed_of_none found encodable

end
end Tables

namespace Connection

/-- An open index whose tables represent a catalogue. -/
structure Represents (connection : Connection) (catalogue : Catalogue) : Prop where
  isOpen : connection.isOpen = true
  tables : connection.tables.Represents catalogue

/-- A call keeps index and catalogue together, whether it succeeds or fails. -/
theorem Represents.perform {connection : Connection} {catalogue : Catalogue}
    (represents : connection.Represents catalogue) (call : IndexCall) :
    (connection.perform call).Represents (catalogue.perform call) := by
  cases call with
  | createIndex indexName =>
    rw [Connection.perform, createIndex_of_open represents.isOpen]
    exact ⟨represents.isOpen, represents.tables.addIndexName indexName⟩
  | upsert indexName documentId contentHash contentType fields =>
    rw [Connection.perform, Catalogue.perform]
    rcases connection.upsert_cases indexName documentId contentHash contentType fields with
      ⟨isOpen, fileable, filed⟩ | ⟨refused, failure, failed⟩
    · rw [filed, if_pos fileable]
      have encodable := ((Field.areFileable_iff fields).mp fileable).2.1
      let document : Metadata := ⟨indexName, documentId, contentHash, contentType, fields⟩
      have kept : ∀ field ∈ document.fields, field.isEncodable = true := encodable
      exact ⟨represents.isOpen, represents.tables.filed kept⟩
    · rw [represents.isOpen, Bool.true_and] at refused
      rw [failed, if_neg (by simp [refused])]
      exact represents

/-- After any calls the index represents the catalogue of the same calls. -/
theorem represents_after (calls : List IndexCall) :
    (after calls).Represents (Catalogue.after calls) := by
  have started : vacant.Represents .empty := ⟨rfl, Tables.represents_empty⟩
  rw [after, Catalogue.after]
  generalize vacant = connection at started ⊢
  generalize Catalogue.empty = catalogue at started ⊢
  induction calls generalizing connection catalogue with
  | nil => exact started
  | cons call rest inductionHypothesis =>
    exact inductionHypothesis (connection.perform call) (catalogue.perform call)
      (started.perform call)

end Connection
end Depot
