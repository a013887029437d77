import Depot.Coordinator
import Depot.Proofs.Filing
import Mathlib.Data.List.TakeWhile
import Mathlib.Tactic.ByContra

/-!
# When filing keeps its promise

Filing promises to refuse a value that is no number as a query error, to refuse a repeated name
as an unavailable index, and to file everything else. It does so exactly when no text that the
index would have to keep stops it first, and when it fails it leaves everything as it was, apart
from the number of identifiers that have been issued.
-/

namespace Depot.Coordinator

/-- The identifier under which a document is filed. -/
def targetId (coordinator : Coordinator) (options : IndexOptions) : Text :=
  (options.documentId.filter (!·.isEmpty)).getD (generatedId (coordinator.issued + 1))

/-- The coordinator after the identifier of a document has been chosen. -/
def chosen (coordinator : Coordinator) (options : IndexOptions) : Coordinator :=
  { coordinator with
    issued := if (options.documentId.filter (!·.isEmpty)).isSome then coordinator.issued
      else coordinator.issued + 1 }

/-- Whether the index can keep the parts of a document that its row holds. -/
def partsEncodable (coordinator : Coordinator) (indexName contentHash : Text)
    (options : IndexOptions) : Bool :=
  indexName.isEncodable && (coordinator.targetId options).isEncodable &&
    contentHash.isEncodable && options.contentType.all Text.isEncodable

/-- The place under which a document is filed. -/
def placement (coordinator : Coordinator) (indexName contentHash : Text)
    (options : IndexOptions) : Placement :=
  ⟨indexName.toStringLossy, (coordinator.targetId options).toStringLossy,
    contentHash.toStringLossy⟩

/-- Parts that can be kept are encoded. -/
theorem encodeParts_of_encodable {indexName documentId contentHash : Text}
    {contentType : Option Text} (nameEncodable : indexName.isEncodable = true)
    (idEncodable : documentId.isEncodable = true) (hashEncodable : contentHash.isEncodable = true)
    (typeEncodable : contentType.all Text.isEncodable = true) :
    encodeParts indexName documentId contentHash contentType =
      .ok (⟨indexName.toStringLossy, documentId.toStringLossy, contentHash.toStringLossy⟩,
        contentType.map Text.toStringLossy) := by
  rw [encodeParts, Text.encode_of_isEncodable nameEncodable, Text.encode_of_isEncodable idEncodable,
    Text.encode_of_isEncodable hashEncodable]
  cases contentType with
  | none => rfl
  | some text =>
    have encoded := @Text.encode_of_isEncodable text typeEncodable
    simp only [bind, Except.bind, encoded]
    rfl

/-- A part that cannot be kept is refused. -/
theorem encodeParts_of_not_encodable {indexName documentId contentHash : Text}
    {contentType : Option Text}
    (refused : (indexName.isEncodable && documentId.isEncodable && contentHash.isEncodable &&
      contentType.all Text.isEncodable) = false) :
    ∃ fault, encodeParts indexName documentId contentHash contentType = .error fault := by
  rw [encodeParts]
  cases nameEncodable : indexName.isEncodable with
  | false =>
    obtain ⟨fault, failed⟩ := Text.encode_of_not_isEncodable nameEncodable
    exact ⟨fault, by rw [failed]; rfl⟩
  | true =>
    rw [Text.encode_of_isEncodable nameEncodable]
    cases idEncodable : documentId.isEncodable with
    | false =>
      obtain ⟨fault, failed⟩ := Text.encode_of_not_isEncodable idEncodable
      exact ⟨fault, by rw [failed]; rfl⟩
    | true =>
      rw [Text.encode_of_isEncodable idEncodable]
      cases hashEncodable : contentHash.isEncodable with
      | false =>
        obtain ⟨fault, failed⟩ := Text.encode_of_not_isEncodable hashEncodable
        exact ⟨fault, by rw [failed]; rfl⟩
      | true =>
        rw [Text.encode_of_isEncodable hashEncodable]
        cases contentType with
        | none => simp [nameEncodable, idEncodable, hashEncodable] at refused
        | some text =>
          have typeRefused : text.isEncodable = false := by
            simpa [nameEncodable, idEncodable, hashEncodable] using refused
          obtain ⟨fault, failed⟩ := Text.encode_of_not_isEncodable typeRefused
          refine ⟨fault, ?_⟩
          simp only [bind, Except.bind, failed]

section

variable {coordinator : Coordinator} {indexName contentHash : Text} {options : IndexOptions}

/-- Without an outage, filing chooses an identifier, encodes the parts of the row and runs the
transaction. -/
theorem file_of_calm (calm : coordinator.outages.failure? .upsert (some indexName) = none) :
    coordinator.file indexName contentHash options =
      match encodeParts indexName (coordinator.targetId options) contentHash
          options.contentType with
      | .error fault =>
        (.error (coordinator.encodingFailure
          (.cannotFile (coordinator.targetId options) indexName) fault), coordinator.chosen options)
      | .ok (placement, contentType) =>
        ((coordinator.index.upsert placement.indexName placement.documentId
            placement.contentHash contentType options.fields).1.map fun _ => placement,
          { coordinator.chosen options with
            index := (coordinator.index.upsert placement.indexName placement.documentId
              placement.contentHash contentType options.fields).2 }) := by
  rw [file, calm, targetId, chosen]
  cases options.documentId.filter (!·.isEmpty) <;> rfl

/-- The transaction decides what becomes of a document with parts that can be kept. -/
theorem file_of_partsEncodable
    (calm : coordinator.outages.failure? .upsert (some indexName) = none)
    (encodable : coordinator.partsEncodable indexName contentHash options = true) :
    coordinator.file indexName contentHash options =
      ((coordinator.index.upsert indexName.toStringLossy
          (coordinator.targetId options).toStringLossy contentHash.toStringLossy
          (options.contentType.map Text.toStringLossy) options.fields).1.map
        fun _ => coordinator.placement indexName contentHash options,
        { coordinator.chosen options with
          index := (coordinator.index.upsert indexName.toStringLossy
            (coordinator.targetId options).toStringLossy contentHash.toStringLossy
            (options.contentType.map Text.toStringLossy) options.fields).2 }) := by
  rw [partsEncodable, Bool.and_eq_true, Bool.and_eq_true, Bool.and_eq_true] at encodable
  obtain ⟨⟨⟨nameEncodable, idEncodable⟩, hashEncodable⟩, typeEncodable⟩ := encodable
  rw [file_of_calm calm,
    encodeParts_of_encodable nameEncodable idEncodable hashEncodable typeEncodable]
  rfl

/-- A part that cannot be kept is reported, unless the index is closed. -/
theorem file_of_not_partsEncodable
    (calm : coordinator.outages.failure? .upsert (some indexName) = none)
    (refused : coordinator.partsEncodable indexName contentHash options = false) :
    ∃ fault, coordinator.file indexName contentHash options =
      (.error (coordinator.encodingFailure
        (.cannotFile (coordinator.targetId options) indexName) fault),
        coordinator.chosen options) := by
  obtain ⟨fault, failed⟩ := encodeParts_of_not_encodable refused
  exact ⟨fault, by rw [file_of_calm calm, failed]⟩

/-- A filing that fails changes nothing but the number of identifiers that have been issued. -/
theorem file_of_error (calm : coordinator.outages.failure? .upsert (some indexName) = none)
    {failure : Failure}
    (failed : (coordinator.file indexName contentHash options).1 = .error failure) :
    (coordinator.file indexName contentHash options).2 = coordinator.chosen options := by
  cases encodable : coordinator.partsEncodable indexName contentHash options with
  | false =>
    obtain ⟨fault, outcome⟩ := file_of_not_partsEncodable calm encodable
    rw [outcome]
  | true =>
    rw [file_of_partsEncodable calm encodable] at failed ⊢
    generalize transaction : coordinator.index.upsert _ _ _ _ _ = outcome at failed ⊢
    obtain ⟨_ | _, index⟩ := outcome
    · have unchanged := Connection.upsert_of_error (congrArg Prod.fst transaction)
      rw [transaction] at unchanged
      subst unchanged
      rfl
    · cases failed

end

/-- What filing promises: the outcome of every call in terms of the values and the names of the
fields alone. -/
structure FilesAsPromised (coordinator : Coordinator) (indexName contentHash : Text)
    (options : IndexOptions) : Prop where
  closed : coordinator.index.isOpen = false →
    ∃ fault, (coordinator.file indexName contentHash options).1 = .error (.indexUnavailable fault)
  notANumber : coordinator.index.isOpen = true →
    (∃ field ∈ options.fields, field.value.isNaN = true) →
    ∃ error, (coordinator.file indexName contentHash options).1 = .error (.query error)
  repeatedName : coordinator.index.isOpen = true →
    (∀ field ∈ options.fields, field.value.isNaN = false) →
    ¬ (options.fields.map Field.name).Nodup →
    ∃ fault, (coordinator.file indexName contentHash options).1 = .error (.indexUnavailable fault)
  filed : coordinator.index.isOpen = true →
    (∀ field ∈ options.fields, field.value.isNaN = false) →
    (options.fields.map Field.name).Nodup →
    ∃ placement, (coordinator.file indexName contentHash options).1 = .ok placement

/-- Whether the fields are judged before the index meets one of them that it cannot encode: a
value is no number, all of them can be encoded, or a name comes again before. -/
def FieldsJudged (fields : List Field) : Prop :=
  (∃ field ∈ fields, field.value.isNaN = true) ∨ (∀ field ∈ fields, field.isEncodable = true) ∨
    ¬ ((fields.takeWhile Field.isEncodable).map Field.name).Nodup

section

variable {coordinator : Coordinator} {indexName contentHash : Text} {options : IndexOptions}

/-- A closed index keeps the promise. -/
theorem filesAsPromised_of_closed
    (calm : coordinator.outages.failure? .upsert (some indexName) = none)
    (closed : coordinator.index.isOpen = false) :
    coordinator.FilesAsPromised indexName contentHash options := by
  have refused : ∃ fault, (coordinator.file indexName contentHash options).1 =
      .error (.indexUnavailable fault) := by
    cases encodable : coordinator.partsEncodable indexName contentHash options with
    | false =>
      obtain ⟨fault, outcome⟩ := file_of_not_partsEncodable calm encodable
      refine ⟨.cannotFile (coordinator.targetId options) indexName .closed, ?_⟩
      rw [outcome, encodingFailure, closed]
      rfl
    | true =>
      rw [file_of_partsEncodable calm encodable, Connection.upsert_of_closed closed]
      exact ⟨_, rfl⟩
  have notOpen : coordinator.index.isOpen ≠ true := by simp [closed]
  exact ⟨fun _ => refused, fun isOpen => absurd isOpen notOpen,
    fun isOpen => absurd isOpen notOpen, fun isOpen => absurd isOpen notOpen⟩

/-- An open index that can keep the parts of the row keeps the promise when the fields are
judged before one of them cannot be encoded. -/
theorem filesAsPromised_of_judged
    (calm : coordinator.outages.failure? .upsert (some indexName) = none)
    (isOpen : coordinator.index.isOpen = true)
    (encodable : coordinator.partsEncodable indexName contentHash options = true)
    (judged : FieldsJudged options.fields) :
    coordinator.FilesAsPromised indexName contentHash options where
  closed := fun closed => by simp [isOpen] at closed
  notANumber := fun _ notANumber => by
    rw [file_of_partsEncodable calm encodable, Connection.upsert_of_notANumber isOpen notANumber]
    exact ⟨_, rfl⟩
  repeatedName := fun _ comparable again => by
    have frontAgain : ¬ ((options.fields.takeWhile Field.isEncodable).map Field.name).Nodup := by
      rcases judged with ⟨field, member, notANumber⟩ | allEncodable | frontAgain
      · simp [comparable field member] at notANumber
      · rwa [List.takeWhile_eq_self_iff.mpr allEncodable]
      · exact frontAgain
    rw [file_of_partsEncodable calm encodable,
      Connection.upsert_of_repeated isOpen comparable frontAgain]
    exact ⟨_, rfl⟩
  filed := fun _ comparable distinct => by
    have allEncodable : ∀ field ∈ options.fields, field.isEncodable = true := by
      rcases judged with ⟨field, member, notANumber⟩ | allEncodable | frontAgain
      · simp [comparable field member] at notANumber
      · exact allEncodable
      · have front : ((options.fields.takeWhile Field.isEncodable).map Field.name).Sublist
            (options.fields.map Field.name) :=
          (List.takeWhile_sublist Field.isEncodable).map Field.name
        exact absurd (distinct.sublist front) frontAgain
    rw [file_of_partsEncodable calm encodable,
      Connection.upsert_of_fileable isOpen comparable distinct allEncodable]
    exact ⟨_, rfl⟩

/-- In all other cases an open index reports a text that cannot be encoded. -/
theorem file_of_not_judged
    (calm : coordinator.outages.failure? .upsert (some indexName) = none)
    (isOpen : coordinator.index.isOpen = true)
    (stopped : coordinator.partsEncodable indexName contentHash options = true →
      ¬ FieldsJudged options.fields) :
    ∃ fault, (coordinator.file indexName contentHash options).1 = .error (.encoding fault) := by
  cases encodable : coordinator.partsEncodable indexName contentHash options with
  | false =>
    obtain ⟨fault, outcome⟩ := file_of_not_partsEncodable calm encodable
    refine ⟨fault, ?_⟩
    rw [outcome, encodingFailure, isOpen]
    rfl
  | true =>
    have unjudged := stopped encodable
    rw [FieldsJudged, not_or, not_or, not_not] at unjudged
    obtain ⟨numbers, notAll, distinct⟩ := unjudged
    have comparable : ∀ field ∈ options.fields, field.value.isNaN = false := by
      simpa using numbers
    have refused : ∃ field ∈ options.fields, field.isEncodable = false := by
      simpa using notAll
    obtain ⟨fault, failed⟩ := Connection.upsert_of_not_isEncodable indexName.toStringLossy
      (coordinator.targetId options).toStringLossy contentHash.toStringLossy
      (options.contentType.map Text.toStringLossy) isOpen comparable distinct refused
    refine ⟨fault, ?_⟩
    rw [file_of_partsEncodable calm encodable, failed]
    rfl

/-- The promise is kept when an open index can keep the parts of the row and judges the fields. -/
theorem filesAsPromised_of_fileable
    (calm : coordinator.outages.failure? .upsert (some indexName) = none)
    (fileable : coordinator.index.isOpen = true →
      coordinator.partsEncodable indexName contentHash options = true ∧
        FieldsJudged options.fields) :
    coordinator.FilesAsPromised indexName contentHash options := by
  cases isOpen : coordinator.index.isOpen with
  | false => exact filesAsPromised_of_closed calm isOpen
  | true =>
    obtain ⟨encodable, judged⟩ := fileable isOpen
    exact filesAsPromised_of_judged calm isOpen encodable judged

/-- An open index that reports a text breaks the promise: the report is neither of the two
refusals, nor is the document filed. -/
theorem not_filesAsPromised_of_encoding (isOpen : coordinator.index.isOpen = true)
    {fault : EncodingFault}
    (failed : (coordinator.file indexName contentHash options).1 = .error (.encoding fault)) :
    ¬ coordinator.FilesAsPromised indexName contentHash options := by
  intro promise
  by_cases comparable : ∀ field ∈ options.fields, field.value.isNaN = false
  · by_cases distinct : (options.fields.map Field.name).Nodup
    · obtain ⟨placement, filed⟩ := promise.filed isOpen comparable distinct
      rw [failed] at filed
      cases filed
    · obtain ⟨other, refused⟩ := promise.repeatedName isOpen comparable distinct
      rw [failed] at refused
      cases refused
  · obtain ⟨error, refused⟩ := promise.notANumber isOpen (by simpa using comparable)
    rw [failed] at refused
    cases refused

/-- Filing keeps its promise exactly when an open index can keep the parts of the row and judges
the fields before it meets one that it cannot encode; otherwise it reports that text. A filing
that fails, at whatever statement, changes nothing but the number of identifiers that have been
issued, which grows by one at most. -/
theorem file_outcome (coordinator : Coordinator) (indexName contentHash : Text)
    (options : IndexOptions)
    (calm : coordinator.outages.failure? .upsert (some indexName) = none) :
    (coordinator.FilesAsPromised indexName contentHash options ↔
      (coordinator.index.isOpen = true →
        coordinator.partsEncodable indexName contentHash options = true ∧
          FieldsJudged options.fields)) ∧
    (¬ coordinator.FilesAsPromised indexName contentHash options →
      ∃ fault, (coordinator.file indexName contentHash options).1 = .error (.encoding fault)) ∧
    (∀ failure, (coordinator.file indexName contentHash options).1 = .error failure →
      ∃ issued, (coordinator.file indexName contentHash options).2 =
          { coordinator with issued := issued } ∧
        (issued = coordinator.issued ∨ issued = coordinator.issued + 1)) := by
  have broken (notFileable : ¬ (coordinator.index.isOpen = true →
      coordinator.partsEncodable indexName contentHash options = true ∧
        FieldsJudged options.fields)) :
      coordinator.index.isOpen = true ∧
        ∃ fault, (coordinator.file indexName contentHash options).1 =
          .error (.encoding fault) := by
    rw [Classical.not_imp, not_and] at notFileable
    exact ⟨notFileable.1, file_of_not_judged calm notFileable.1 notFileable.2⟩
  refine ⟨⟨fun promise => ?_, filesAsPromised_of_fileable calm⟩, fun promiseBroken => ?_,
    fun failure failed => ?_⟩
  · by_contra notFileable
    obtain ⟨isOpen, fault, failed⟩ := broken notFileable
    exact not_filesAsPromised_of_encoding isOpen failed promise
  · exact (broken (mt (filesAsPromised_of_fileable calm) promiseBroken)).2
  · refine ⟨(coordinator.chosen options).issued, file_of_error calm failed, ?_⟩
    rw [chosen]
    cases (options.documentId.filter (!·.isEmpty)).isSome with
    | true => exact .inl rfl
    | false => exact .inr rfl

end

/-- A coordinator with an empty index and nothing stored. -/
def vacant : Coordinator where
  blobs := ⟨.empty, [], ⟨.relative, []⟩⟩
  index := ⟨.empty, true⟩
  indexPath := ⟨.relative, ["index"]⟩
  issued := 0
  outages := []
  defaultPageSize := Depot.defaultPageSize
  fetchConcurrency := defaultFetchConcurrency
  pageSize_pos := by decide
  concurrency_pos := by decide

/-- The promise is kept for a name that comes again before a value that cannot be encoded. -/
theorem file_outcome_repeated :
    vacant.outages.failure? .upsert (some ("d" : Text)) = none ∧
      vacant.FilesAsPromised "d" "h" ⟨none, none,
        [⟨"a", .integer 1, by decide, by decide⟩, ⟨"a", .boolean true, by decide, rfl⟩,
          ⟨"b", .text ⟨[.half 0]⟩, by decide, rfl⟩]⟩ :=
  ⟨rfl, (file_outcome vacant "d" "h" _ rfl).1.mpr fun _ =>
    ⟨by decide, .inr (.inr (by decide))⟩⟩

/-- The promise is broken by a single field whose value is half of a surrogate pair: it is
neither filed nor refused as an unavailable index. -/
theorem not_filesAsPromised_half :
    ¬ vacant.FilesAsPromised "d" "h" ⟨some "x", none,
      [⟨"a", .text ⟨[.half 0]⟩, by decide, rfl⟩]⟩ := by
  intro promise
  obtain ⟨placement, filed⟩ := promise.filed rfl (by decide) (by decide)
  have failed : (vacant.file "d" "h" ⟨some "x", none,
      [⟨"a", .text ⟨[.half 0]⟩, by decide, rfl⟩]⟩).1 = .error (.encoding ⟨0, 0, 1⟩) := rfl
  rw [failed] at filed
  cases filed

end Depot.Coordinator
