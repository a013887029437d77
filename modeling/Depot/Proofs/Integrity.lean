import Depot.Proofs.Sessions
import Depot.Proofs.TwoPhases
import Mathlib.Data.List.Range

/-!
# The tables of an index stay whole

Searching, sorting and reading back rely on what the tables look like and check none of it: keys
are there once, every field row belongs to a document and has a value of its kind, and the rows of a
document are numbered without a gap. Every call keeps this, whether it succeeds or fails, and it
leaves the row numbers that documents have been given.
-/

namespace Depot

/-- A stored value agrees with the kind that is kept beside it. -/
inductive StoredValue.HasKind : StoredValue → ValueKind → Prop
  | no : HasKind (.integer 0) .boolean
  | yes : HasKind (.integer 1) .boolean
  | integer {value : Int} (fits : fitsInteger value = true) : HasKind (.integer value) .number
  | real {value : Binary64} (comparable : value.isNaN = false) : HasKind (.real value) .number
  | text (value : String) : HasKind (.text value) .string

/-- A value that agrees with its kind comes back as a field value. -/
theorem StoredValue.HasKind.restored {value : StoredValue} {kind : ValueKind}
    (hasKind : value.HasKind kind) : ∃ held : FieldValue, held.fits = true ∧
      Datum.restore kind.label value.toDatum = held.toDatum := by
  cases hasKind with
  | no => exact ⟨.boolean false, rfl, rfl⟩
  | yes => exact ⟨.boolean true, rfl, rfl⟩
  | @integer value fits => exact ⟨.integer value, fits, rfl⟩
  | @real value comparable => exact ⟨.real value, rfl, rfl⟩
  | text value => exact ⟨.text value, rfl, rfl⟩

/-- A value that can be compared is stored as one of its kind. -/
theorem FieldValue.hasKind_stored {value : FieldValue} (fits : value.fits = true)
    (comparable : value.isNaN = false) : value.stored.HasKind value.kind := by
  cases value with
  | boolean flag =>
    cases flag with
    | false => exact .no
    | true => exact .yes
  | integer number => exact .integer fits
  | real number => exact .real comparable
  | text label => exact .text _

namespace FieldRow

/-- The field rows of one document: their positions count from zero, their names are distinct and
can name stored fields, and their values agree with their kinds. -/
structure AreSound (rows : List FieldRow) : Prop where
  positions : rows.map position = List.range rows.length
  distinct : (rows.map name).Nodup
  usable : ∀ row ∈ rows, FieldName.isUsable row.name = true
  typed : ∀ row ∈ rows, ∃ kind : ValueKind, row.kind = kind.label ∧ row.value.HasKind kind

/-- Sound rows can be read back. -/
theorem AreSound.exists_fields {rows : List FieldRow} (sound : AreSound rows) :
    ∃ fields, rows.mapM toField = .ok fields := by
  have each : ∀ row ∈ rows, ∃ field, row.toField = .ok field := by
    intro row member
    obtain ⟨kind, isKind, hasKind⟩ := sound.typed row member
    obtain ⟨value, fits, restored⟩ := hasKind.restored
    exact ⟨⟨row.name, value, sound.usable row member, fits⟩, by
      rw [toField, isKind, restored]
      exact Field.make_self ⟨row.name, value, sound.usable row member, fits⟩⟩
  clear sound
  induction rows with
  | nil => exact ⟨[], rfl⟩
  | cons row rest inductionHypothesis =>
    rw [List.forall_mem_cons] at each
    obtain ⟨field, first⟩ := each.1
    obtain ⟨fields, later⟩ := inductionHypothesis each.2
    exact ⟨field :: fields, by rw [List.mapM_cons, first, later]; rfl⟩

end FieldRow

namespace Field

/-- The positions of rows count from the first one. -/
theorem map_position_rows (owner position : Nat) (fields : List Field) :
    (rows owner position fields).map FieldRow.position =
      List.range' position fields.length := by
  induction fields generalizing position with
  | nil => rfl
  | cons field rest inductionHypothesis =>
    rw [rows, List.map_cons, inductionHypothesis, List.length_cons, List.range'_succ]
    rfl

/-- The names of rows are those of the fields. -/
theorem map_name_rows (owner position : Nat) (fields : List Field) :
    (rows owner position fields).map FieldRow.name =
      fields.map fun field => field.name.toStringLossy := by
  induction fields generalizing position with
  | nil => rfl
  | cons field rest inductionHypothesis =>
    rw [rows, List.map_cons, inductionHypothesis, List.map_cons]
    rfl

/-- Every row is that of a field. -/
theorem of_mem_rows {owner position : Nat} {fields : List Field} {row : FieldRow}
    (member : row ∈ rows owner position fields) :
    ∃ field ∈ fields, ∃ place, row = field.row owner place := by
  induction fields generalizing position with
  | nil => cases member
  | cons field rest inductionHypothesis =>
    rcases List.mem_cons.mp member with rfl | later
    · exact ⟨field, List.mem_cons_self, position, rfl⟩
    · obtain ⟨other, otherMember, found⟩ := inductionHypothesis later
      exact ⟨other, List.mem_cons_of_mem _ otherMember, found⟩

/-- There is a row for each field. -/
@[simp] theorem length_rows (owner position : Nat) (fields : List Field) :
    (rows owner position fields).length = fields.length := by
  rw [← List.length_map FieldRow.position, map_position_rows, List.length_range']

/-- The rows of fields that can be filed are sound. -/
theorem areSound_rows {fields : List Field} (fileable : areFileable fields = true)
    (owner : Nat) : FieldRow.AreSound (rows owner 0 fields) := by
  obtain ⟨comparable, encodable, distinct⟩ := (areFileable_iff fields).mp fileable
  have nameEncodable : ∀ field ∈ fields, field.name.isEncodable = true := fun field member =>
    (field.isEncodable_iff.mp (encodable field member)).1
  refine ⟨?_, ?_, ?_, ?_⟩
  · rw [map_position_rows, length_rows, List.range_eq_range']
  · rw [map_name_rows, ← Function.comp_def, ← List.map_map]
    refine distinct.map_on ?_
    intro left leftMember right rightMember same
    obtain ⟨leftField, leftField_mem, rfl⟩ := List.mem_map.mp leftMember
    obtain ⟨rightField, rightField_mem, rfl⟩ := List.mem_map.mp rightMember
    exact (Text.toStringLossy_inj (nameEncodable leftField leftField_mem)
      (nameEncodable rightField rightField_mem)).mp same
  · intro row member
    obtain ⟨field, fieldMember, place, rfl⟩ := of_mem_rows member
    rw [row, Text.ofString_toStringLossy (nameEncodable field fieldMember)]
    exact field.usable
  · intro row member
    obtain ⟨field, fieldMember, place, rfl⟩ := of_mem_rows member
    exact ⟨field.value.kind, rfl,
      FieldValue.hasKind_stored field.fits (comparable field fieldMember)⟩

/-- Rows stand in the order of their positions. -/
theorem mergeSort_rows (owner position : Nat) (fields : List Field) :
    ((rows owner position fields).mergeSort fun left right => left.position ≤ right.position) =
      rows owner position fields := by
  refine List.mergeSort_of_pairwise ((pairwise_position_rows owner position fields).imp ?_)
  intro left right ordered
  exact decide_eq_true ordered

end Field

namespace Tables

/-- Tables are whole. -/
structure AreWhole (tables : Tables) : Prop where
  /-- No name of an index is there twice. -/
  names : tables.indexNames.Nodup
  /-- No two documents have one index and one identifier. -/
  keys : (tables.documents.map DocumentRow.key).Nodup
  /-- The index of every document is there. -/
  listed : ∀ row ∈ tables.documents, row.indexName ∈ tables.indexNames
  /-- Every field row belongs to a document. -/
  owned : ∀ field ∈ tables.fields, ∃ row ∈ tables.documents, field.owner = row.rowId
  sound : ∀ row ∈ tables.documents, FieldRow.AreSound (tables.fieldsOf row.rowId)
  /-- Documents stand in the order of their row numbers. -/
  ascending : (tables.documents.map DocumentRow.rowId).Pairwise (· < ·)
  bounded : ∀ row ∈ tables.documents, row.rowId ≤ tables.lastRowId

/-- New tables are whole. -/
theorem areWhole_empty : empty.AreWhole where
  names := .nil
  keys := .nil
  listed := nofun
  owned := nofun
  sound := nofun
  ascending := .nil
  bounded := nofun

/-- The documents of whole tables can be read back. -/
theorem AreWhole.exists_metadata {tables : Tables} (whole : tables.AreWhole) {row : DocumentRow}
    (member : row ∈ tables.documents) :
    ∃ document, row.toMetadata (tables.fieldsOf row.rowId) = .ok document := by
  obtain ⟨fields, accepted⟩ := (whole.sound row member).exists_fields
  exact ⟨⟨row.indexName, row.documentId, row.contentHash, row.contentType, fields⟩, by
    rw [DocumentRow.toMetadata, accepted]
    rfl⟩

/-- The keys of the documents with the row numbers that they have been given. -/
def numbering (tables : Tables) : List ((String × String) × Nat) :=
  tables.documents.map fun row => (row.key, row.rowId)

/-- An entry of the numbering is that of a document. -/
theorem mem_numbering {tables : Tables} {entry : (String × String) × Nat} :
    entry ∈ tables.numbering ↔ ∃ row ∈ tables.documents, (row.key, row.rowId) = entry :=
  List.mem_map

/-- The keys of the numbering are those of the documents. -/
theorem map_fst_numbering (tables : Tables) :
    tables.numbering.map Prod.fst = tables.documents.map DocumentRow.key := by
  rw [numbering, List.map_map]
  rfl

/-- The numbers of the numbering are those of the documents. -/
theorem map_snd_numbering (tables : Tables) :
    tables.numbering.map Prod.snd = tables.documents.map DocumentRow.rowId := by
  rw [numbering, List.map_map]
  rfl

/-- Every document of earlier tables has kept its row number in later tables, and the documents that
came later have greater ones. -/
structure GrowsTo (before after : Tables) : Prop where
  kept : ∀ row ∈ before.documents, ∃ still ∈ after.documents,
    still.key = row.key ∧ still.rowId = row.rowId
  later : ∀ row ∈ after.documents, row.key ∉ before.documents.map DocumentRow.key →
    ∀ earlier ∈ before.documents, earlier.rowId < row.rowId

/-- Whole tables whose numbering continues an earlier one have grown. -/
theorem AreWhole.growsTo {before after : Tables} (whole : after.AreWhole)
    (continues : before.numbering <+: after.numbering) : before.GrowsTo after := by
  constructor
  · intro row member
    obtain ⟨still, stillMember, same⟩ :=
      mem_numbering.mp (continues.subset (mem_numbering.mpr ⟨row, member, rfl⟩))
    exact ⟨still, stillMember, congrArg Prod.fst same, congrArg Prod.snd same⟩
  · intro row member isNew earlier earlierMember
    obtain ⟨new, grown⟩ := continues
    have entered : (row.key, row.rowId) ∈ before.numbering ++ new := by
      rw [grown]
      exact mem_numbering.mpr ⟨row, member, rfl⟩
    have ascending := whole.ascending
    rw [← map_snd_numbering, ← grown, List.map_append, List.pairwise_append] at ascending
    rcases List.mem_append.mp entered with old | added
    · refine absurd ?_ isNew
      rw [← map_fst_numbering]
      exact List.mem_map_of_mem old
    · refine ascending.2.2 _ ?_ _ (List.mem_map_of_mem added)
      rw [map_snd_numbering]
      exact List.mem_map_of_mem earlierMember

/-- The names after one has been added. -/
theorem mem_addIndexName {tables : Tables} {name other : String} :
    other ∈ (tables.addIndexName name).indexNames ↔ other ∈ tables.indexNames ∨ other = name := by
  rw [addIndexName]
  split
  · rename_i present
    rw [List.contains_iff_mem] at present
    exact ⟨.inl, fun member => member.elim id fun isName => isName ▸ present⟩
  · rw [List.mem_append, List.mem_singleton]

/-- Names stay distinct when one is added. -/
theorem nodup_addIndexName {tables : Tables} (distinct : tables.indexNames.Nodup) (name : String) :
    (tables.addIndexName name).indexNames.Nodup := by
  rw [addIndexName]
  split
  · exact distinct
  · rename_i absent
    rw [List.contains_iff_mem] at absent
    rw [← List.concat_eq_append]
    exact distinct.concat absent

variable {tables after : Tables}

/-- Making an index keeps tables whole. -/
theorem AreWhole.addIndexName (whole : tables.AreWhole) (name : String) :
    (tables.addIndexName name).AreWhole where
  names := nodup_addIndexName whole.names name
  keys := by simpa using whole.keys
  listed := by
    intro row member
    rw [documents_addIndexName] at member
    exact mem_addIndexName.mpr (.inl (whole.listed row member))
  owned := by simpa using whole.owned
  sound := by simpa [fieldsOf] using whole.sound
  ascending := by simpa using whole.ascending
  bounded := by simpa using whole.bounded

/-- When the field rows of one document are replaced, that document has the new ones, and all other
documents have theirs. -/
theorem fieldsOf_replaced {rowId : Nat} {filed : List Field}
    (replaced : after.fields = (tables.fields.filter fun field => field.owner != rowId) ++
      Field.rows rowId 0 filed) (other : Nat) :
    after.fieldsOf other = if other = rowId then Field.rows rowId 0 filed
      else tables.fieldsOf other := by
  rw [fieldsOf, replaced]
  split
  · rename_i same
    rw [same, filter_owner_self, Field.mergeSort_rows]
  · rename_i different
    rw [filter_owner_of_ne different, fieldsOf]

/-- No entry of the numbering is above the greatest row number. -/
theorem AreWhole.entry_bounded (whole : tables.AreWhole) :
    ∀ entry ∈ tables.numbering, entry.2 ≤ tables.lastRowId := by
  intro entry member
  obtain ⟨present, presentMember, rfl⟩ := mem_numbering.mp member
  exact whole.bounded present presentMember

section

variable {document : Metadata}

/-- Replacing the fields of a document keeps tables whole, if the numbering stays one of distinct
keys and ascending numbers, with the document in it and no other new entry. -/
theorem AreWhole.replaced (whole : tables.AreWhole)
    (fileable : Field.areFileable document.fields = true) (rowId : Nat)
    (names : after.indexNames = (tables.addIndexName document.indexName).indexNames)
    (fields : after.fields = (tables.fields.filter fun field => field.owner != rowId) ++
      Field.rows rowId 0 document.fields)
    (entries : ∀ entry, entry ∈ after.numbering ↔
      entry ∈ tables.numbering ∨ entry = (document.key, rowId))
    (keys : (after.numbering.map Prod.fst).Nodup)
    (ascending : (after.numbering.map Prod.snd).Pairwise (· < ·))
    (bounded : ∀ entry ∈ after.numbering, entry.2 ≤ after.lastRowId) : after.AreWhole where
  names := by
    rw [names]
    exact nodup_addIndexName whole.names document.indexName
  keys := by rwa [map_fst_numbering] at keys
  listed := by
    intro row member
    rw [names, mem_addIndexName]
    rcases (entries _).mp (mem_numbering.mpr ⟨row, member, rfl⟩) with old | isNew
    · obtain ⟨present, presentMember, same⟩ := mem_numbering.mp old
      have sameName : present.indexName = row.indexName :=
        congrArg (fun entry : (String × String) × Nat => entry.1.1) same
      rw [← sameName]
      exact .inl (whole.listed present presentMember)
    · exact .inr (congrArg (fun entry : (String × String) × Nat => entry.1.1) isNew)
  owned := by
    intro field member
    have ofEntry {key : String × String} (entered : (key, field.owner) ∈ after.numbering) :
        ∃ row ∈ after.documents, field.owner = row.rowId := by
      obtain ⟨row, rowMember, same⟩ := mem_numbering.mp entered
      exact ⟨row, rowMember, (congrArg Prod.snd same).symm⟩
    rw [fields, List.mem_append] at member
    rcases member with old | isNew
    · obtain ⟨row, rowMember, owns⟩ := whole.owned field (List.mem_of_mem_filter old)
      exact ofEntry ((entries (row.key, field.owner)).mpr
        (.inl (mem_numbering.mpr ⟨row, rowMember, by rw [owns]⟩)))
    · exact ofEntry ((entries (document.key, field.owner)).mpr
        (.inr (by rw [Field.owner_of_mem_rows isNew])))
  sound := by
    intro row member
    rw [fieldsOf_replaced fields]
    split
    · exact Field.areSound_rows fileable rowId
    · rename_i different
      rcases (entries _).mp (mem_numbering.mpr ⟨row, member, rfl⟩) with old | isNew
      · obtain ⟨present, presentMember, same⟩ := mem_numbering.mp old
        rw [← show present.rowId = row.rowId from congrArg Prod.snd same]
        exact whole.sound present presentMember
      · exact absurd (congrArg Prod.snd isNew) different
  ascending := by rwa [map_snd_numbering] at ascending
  bounded := fun row member => bounded _ (mem_numbering.mpr ⟨row, member, rfl⟩)

/-- Overwriting the row of a number with one of the same key and number keeps the numbering. -/
theorem AreWhole.numbering_overwrite (whole : tables.AreWhole) {row : DocumentRow}
    (rowMember : row ∈ tables.documents) (changed : DocumentRow) (sameKey : changed.key = row.key)
    (sameId : changed.rowId = row.rowId) :
    ((tables.documents.map fun present =>
        if present.rowId = row.rowId then changed else present).map
      fun row => (row.key, row.rowId)) = tables.numbering := by
  rw [numbering, List.map_map]
  refine List.map_congr_left fun present member => ?_
  have distinct : (tables.documents.map DocumentRow.rowId).Nodup :=
    whole.ascending.imp Nat.ne_of_lt
  rw [Function.comp_apply]
  split
  · rename_i same
    rw [List.inj_on_of_nodup_map distinct member rowMember same, sameKey, sameId]
  · rfl

/-- Filing a document again keeps tables whole, and the numbering stays. -/
theorem AreWhole.filed_of_some (whole : tables.AreWhole) {row : DocumentRow}
    (found : tables.document? document.indexName document.documentId = some row)
    (fileable : Field.areFileable document.fields = true) :
    (Work.filed tables document.indexName document.documentId document.contentHash
        document.contentType document.fields).AreWhole ∧
      tables.numbering <+: (Work.filed tables document.indexName document.documentId
        document.contentHash document.contentType document.fields).numbering := by
  obtain ⟨rowMember, rowKey⟩ := document?_eq_some found
  have isEntry : (document.key, row.rowId) ∈ tables.numbering :=
    mem_numbering.mpr ⟨row, rowMember, by rw [rowKey]; rfl⟩
  have stays : (Work.filed tables document.indexName document.documentId document.contentHash
      document.contentType document.fields).numbering = tables.numbering := by
    rw [Tables.filed_of_some found]
    exact whole.numbering_overwrite rowMember _ rfl rfl
  refine ⟨whole.replaced fileable row.rowId ?_ ?_ ?_ ?_ ?_ ?_, ?_⟩
  · rw [Tables.filed_of_some found]
  · rw [Tables.filed_of_some found]
  · intro entry
    rw [stays]
    exact ⟨.inl, fun member => member.elim id fun isNew => isNew ▸ isEntry⟩
  · rw [stays, map_fst_numbering]
    exact whole.keys
  · rw [stays, map_snd_numbering]
    exact whole.ascending
  · intro entry member
    rw [stays] at member
    rw [Tables.filed_of_some found]
    exact Nat.le_succ_of_le (whole.entry_bounded entry member)
  · exact stays ▸ List.prefix_rfl

/-- Filing a new document keeps tables whole, and the document is numbered last. -/
theorem AreWhole.filed_of_none (whole : tables.AreWhole)
    (absent : tables.document? document.indexName document.documentId = none)
    (fileable : Field.areFileable document.fields = true) :
    (Work.filed tables document.indexName document.documentId document.contentHash
        document.contentType document.fields).AreWhole ∧
      tables.numbering <+: (Work.filed tables document.indexName document.documentId
        document.contentHash document.contentType document.fields).numbering := by
  have unknown : document.key ∉ tables.numbering.map Prod.fst := by
    rw [map_fst_numbering]
    exact document?_eq_none absent
  have isLast : (Work.filed tables document.indexName document.documentId document.contentHash
      document.contentType document.fields).numbering =
      tables.numbering ++ [(document.key, tables.lastRowId + 1)] := by
    rw [Tables.filed_of_none absent, numbering, List.map_append]
    rfl
  refine ⟨whole.replaced fileable (tables.lastRowId + 1) ?_ ?_ ?_ ?_ ?_ ?_, ?_⟩
  · rw [Tables.filed_of_none absent]
  · rw [Tables.filed_of_none absent]
  · intro entry
    rw [isLast, List.mem_append, List.mem_singleton]
  · rw [isLast, List.map_append, List.map_singleton, ← List.concat_eq_append]
    refine List.Nodup.concat unknown ?_
    rw [map_fst_numbering]
    exact whole.keys
  · rw [isLast, List.map_append, List.pairwise_append, map_snd_numbering]
    refine ⟨whole.ascending, List.pairwise_singleton _ _, ?_⟩
    intro rowId member new isNew
    rw [List.map_singleton, List.mem_singleton] at isNew
    obtain ⟨row, rowMember, rfl⟩ := List.mem_map.mp member
    rw [isNew]
    exact Nat.lt_succ_of_le (whole.bounded row rowMember)
  · rw [isLast, Tables.filed_of_none absent]
    intro entry member
    rcases List.mem_append.mp member with old | isNew
    · exact Nat.le_succ_of_le (whole.entry_bounded entry old)
    · rw [List.mem_singleton.mp isNew]
  · rw [isLast]
    exact List.prefix_append _ _

/-- Filing a document keeps tables whole and continues the numbering. -/
theorem AreWhole.filed (whole : tables.AreWhole)
    (fileable : Field.areFileable document.fields = true) :
    (Work.filed tables document.indexName document.documentId document.contentHash
        document.contentType document.fields).AreWhole ∧
      tables.numbering <+: (Work.filed tables document.indexName document.documentId
        document.contentHash document.contentType document.fields).numbering := by
  cases found : tables.document? document.indexName document.documentId with
  | some row => exact whole.filed_of_some found fileable
  | none => exact whole.filed_of_none found fileable

end

end Tables

namespace Coordinator

/-- The depot after calls, or the failure to open it again. -/
def performAll (config : Config) (base : Option Path) (coordinator : Coordinator)
    (calls : List DepotCall) : Except Failure Coordinator :=
  calls.foldlM (perform config base) coordinator

section

variable {config : Config} {base : Option Path} {coordinator : Coordinator}

/-- Filing keeps tables whole and continues their numbering, whether it succeeds or fails. -/
theorem areWhole_file (whole : coordinator.index.tables.AreWhole) (indexName contentHash : Text)
    (options : IndexOptions) :
    (coordinator.file indexName contentHash options).2.index.tables.AreWhole ∧
      coordinator.index.tables.numbering <+:
        (coordinator.file indexName contentHash options).2.index.tables.numbering := by
  obtain ⟨issued, ⟨succeeded, -, after⟩ | ⟨-, after⟩⟩ :=
    coordinator.file_cases indexName contentHash options
  · cases done : (coordinator.file indexName contentHash options).1 with
    | error failure => rw [done] at succeeded; cases succeeded
    | ok placement =>
      obtain ⟨-, -, -, fileable, -⟩ := of_file_ok (Prod.ext done rfl)
      let document := coordinator.document indexName contentHash options
      have kept : Field.areFileable document.fields = true := fileable
      rw [after]
      exact whole.filed kept
  · rw [after]
    exact ⟨whole, List.prefix_rfl⟩

/-- Every call keeps the tables of a depot whole and continues their numbering. Only opening a
depot again that has its index in memory starts a new one. -/
theorem Settled.perform_whole (settled : coordinator.Settled config base)
    (whole : coordinator.index.tables.AreWhole) (call : DepotCall) :
    ∃ next, coordinator.perform config base call = .ok next ∧ next.Settled config base ∧
      next.index.tables.AreWhole ∧
      ((call = .reopen → (config.resolvedIndex base).text ≠ memoryPath) →
        coordinator.index.tables.numbering <+: next.index.tables.numbering) := by
  cases call with
  | createIndex indexName =>
    refine ⟨_, rfl, ?_⟩
    rcases coordinator.createIndex_cases indexName with ⟨-, after⟩ | ⟨-, after⟩
    · rw [after]
      refine ⟨settled.of_eq rfl rfl, whole.addIndexName indexName.toStringLossy, fun _ => ?_⟩
      have same : (coordinator.index.tables.addIndexName indexName.toStringLossy).numbering =
          coordinator.index.tables.numbering := by
        rw [Tables.numbering, Tables.numbering, Tables.documents_addIndexName]
      exact same ▸ List.prefix_rfl
    · rw [after]
      exact ⟨settled, whole, fun _ => List.prefix_rfl⟩
  | file indexName contentHash options =>
    obtain ⟨wholeAfter, continues⟩ := areWhole_file whole indexName contentHash options
    refine ⟨_, rfl, ?_, wholeAfter, fun _ => continues⟩
    obtain ⟨issued, ⟨-, -, after⟩ | ⟨-, after⟩⟩ :=
      coordinator.file_cases indexName contentHash options <;> rw [after] <;>
      exact settled.of_eq rfl rfl
  | closeIndex => exact ⟨_, rfl, settled.of_eq rfl rfl, whole, fun _ => List.prefix_rfl⟩
  | reopen =>
    obtain ⟨reopened, opened, found⟩ := settled.reopen
    obtain ⟨settledAgain, -, -⟩ := settled_of_openDepot opened
    refine ⟨reopened, opened, settledAgain, ?_, fun inFile => ?_⟩
    · rw [found]
      split
      · exact Tables.areWhole_empty
      · exact whole
    · have same : reopened.index.tables = coordinator.index.tables :=
        found.trans (if_neg (inFile rfl))
      exact same ▸ List.prefix_rfl

/-- Calls keep the tables of a depot whole, and they continue the numbering as long as no depot with
its index in memory is opened again. -/
theorem Settled.performAll_whole (settled : coordinator.Settled config base)
    (whole : coordinator.index.tables.AreWhole) (calls : List DepotCall) :
    ∃ last, coordinator.performAll config base calls = .ok last ∧ last.Settled config base ∧
      last.index.tables.AreWhole ∧
      ((.reopen ∈ calls → (config.resolvedIndex base).text ≠ memoryPath) →
        coordinator.index.tables.numbering <+: last.index.tables.numbering) := by
  induction calls generalizing coordinator with
  | nil => exact ⟨coordinator, rfl, settled, whole, fun _ => List.prefix_rfl⟩
  | cons call rest inductionHypothesis =>
    obtain ⟨next, performed, settledNext, wholeNext, continues⟩ :=
      settled.perform_whole whole call
    obtain ⟨last, done, settledLast, wholeLast, goesOn⟩ :=
      inductionHypothesis settledNext wholeNext
    refine ⟨last, ?_, settledLast, wholeLast, fun inFile => ?_⟩
    · rw [performAll, List.foldlM_cons, performed]
      exact done
    · refine (continues fun isReopen => inFile ?_).trans (goesOn fun member => inFile ?_)
      · rw [isReopen]
        exact List.mem_cons_self
      · exact List.mem_cons_of_mem _ member

/-- Whatever is called on a depot that opened with an empty index, failing calls and opening it
again included, its tables are whole and all its documents can be read back. Between any two moments
documents keep their row numbers, and those that are filed first in between get greater ones, unless
the index is in memory only and the depot is opened again in between. -/
theorem performAll_keepsWhole {world : World}
    (opened : (openDepot world config base).1 = .ok coordinator)
    (new : coordinator.index.tables = .empty) (earlier later : List DepotCall) :
    ∃ middle last, coordinator.performAll config base earlier = .ok middle ∧
      middle.performAll config base later = .ok last ∧
      last.index.tables.AreWhole ∧
      (∀ row ∈ last.index.tables.documents, ∃ document,
        row.toMetadata (last.index.tables.fieldsOf row.rowId) = .ok document) ∧
      ((.reopen ∈ later → (config.resolvedIndex base).text ≠ memoryPath) →
        middle.index.tables.GrowsTo last.index.tables) := by
  obtain ⟨settled, -, -⟩ := settled_of_openDepot opened
  have whole : coordinator.index.tables.AreWhole := by
    rw [new]
    exact Tables.areWhole_empty
  obtain ⟨middle, reached, settledMiddle, wholeMiddle, -⟩ := settled.performAll_whole whole earlier
  obtain ⟨last, done, -, wholeLast, continues⟩ :=
    settledMiddle.performAll_whole wholeMiddle later
  exact ⟨middle, last, reached, done, wholeLast, fun row member => wholeLast.exists_metadata member,
    fun inFile => wholeLast.growsTo (continues inFile)⟩

/-- The call that files a document without fields. -/
def fileCall (documentId : String) : DepotCall := .file "d" "h" ⟨some documentId, none, []⟩

/-- Documents that are filed twice, refused, and filed after the depot has been opened again. Filing
a document again takes a number that no row gets. -/
theorem performAll_keepsWhole_filedTwice :
    ∃ middle last,
      Session.newDepot.performAll Session.fileSettings none Session.filedTwice = .ok middle ∧
      middle.performAll Session.fileSettings none [fileCall "z", .reopen, fileCall "x"] =
        .ok last ∧
      last.index.tables.documents.map (fun row => (row.documentId, row.rowId)) =
        [("x", 1), ("z", 3)] ∧
      last.index.tables.AreWhole ∧ middle.index.tables.GrowsTo last.index.tables := by
  have opened : (openDepot Session.emptyWorld Session.fileSettings none).1 =
      .ok Session.newDepot := rfl
  obtain ⟨middle, last, reached, done, whole, -, grows⟩ :=
    performAll_keepsWhole opened rfl Session.filedTwice [fileCall "z", .reopen, fileCall "x"]
  cases (show Except.ok _ = Except.ok middle from reached)
  cases (show Except.ok _ = Except.ok last from done)
  exact ⟨_, _, reached, done, rfl, whole, grows fun _ => by decide⟩

/-- When a depot that has its index in memory is opened again, documents are numbered anew: the
first document has the second number after another one has been filed before it. -/
theorem not_growsTo_reopened :
    ∃ coordinator middle last,
      (openDepot Session.emptyWorld Session.memorySettings none).1 = .ok coordinator ∧
      coordinator.index.tables = .empty ∧
      coordinator.performAll Session.memorySettings none [fileCall "x", fileCall "y"] =
        .ok middle ∧
      middle.performAll Session.memorySettings none [.reopen, fileCall "y", fileCall "x"] =
        .ok last ∧
      ¬ middle.index.tables.GrowsTo last.index.tables := by
  refine ⟨_, _, _, rfl, rfl, rfl, rfl, ?_⟩
  intro grows
  obtain ⟨still, member, sameKey, sameId⟩ := grows.kept ⟨1, "d", "x", "h", none⟩ (by decide)
  have moved : ∀ row ∈ [DocumentRow.mk 1 "d" "y" "h" none, ⟨2, "d", "x", "h", none⟩],
      row.key = ("d", "x") → row.rowId ≠ 1 := by decide
  exact moved still member sameKey sameId

end
end Coordinator
end Depot
