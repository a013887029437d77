import Depot.Proofs.Answering
import Depot.Proofs.Filters
import Depot.Proofs.TwoPhases

/-!
# Calls in another order

Calls that file documents with different keys leave the same documents in every order in which they
take effect, and the same names of indexes. Only the order of the entries can differ, and nothing
that a depot shows depends on it but the ties of a listing: the documents with equal keys, which
stand in the order of filing. Document identifiers are different in an index, so a listing by them
has no ties.
-/

namespace Depot

namespace Catalogue

/-- Two catalogues have the same entries, perhaps in another order. -/
structure SameEntries (left right : Catalogue) : Prop where
  indexNames : ∀ name, name ∈ left.indexNames ↔ name ∈ right.indexNames
  documents : ∀ document, document ∈ left.documents ↔ document ∈ right.documents

/-- A document that is placed takes the place of the one with its key, and leaves all others. -/
theorem mem_place (document : Metadata) (documents : List Metadata) (other : Metadata) :
    other ∈ place document documents ↔
      other = document ∨ other ∈ documents ∧ other.key ≠ document.key := by
  rw [place]
  split
  · rename_i present
    obtain ⟨held, isHeld, sameKey⟩ := List.mem_map.mp present
    simp only [List.mem_map]
    constructor
    · rintro ⟨old, isOld, rfl⟩
      split
      · exact .inl rfl
      · rename_i different
        exact .inr ⟨isOld, different⟩
    · rintro (rfl | ⟨isOld, different⟩)
      · exact ⟨held, isHeld, if_pos sameKey⟩
      · exact ⟨other, isOld, if_neg different⟩
  · rename_i absent
    simp only [List.mem_append, List.mem_singleton]
    constructor
    · rintro (isOld | rfl)
      · refine .inr ⟨isOld, fun sameKey => absent ?_⟩
        rw [← sameKey]
        exact List.mem_map_of_mem isOld
      · exact .inl rfl
    · rintro (rfl | ⟨isOld, -⟩)
      · exact .inr rfl
      · exact .inl isOld

/-- A name that is added stands among those that were there. -/
theorem mem_addIndex (catalogue : Catalogue) (name other : String) :
    other ∈ (catalogue.addIndex name).indexNames ↔
      other = name ∨ other ∈ catalogue.indexNames := by
  rw [addIndex]
  split
  · rename_i present
    constructor
    · exact .inr
    · rintro (rfl | isOld)
      · exact present
      · exact isOld
  · simp [or_comm]

/-- Files documents one after the other. -/
def fileAll (catalogue : Catalogue) (documents : List Metadata) : Catalogue :=
  documents.foldl file catalogue

/-- Filing documents with distinct keys leaves them, and of the others those with other keys. -/
theorem mem_documents_fileAll {documents : List Metadata}
    (distinctKeys : (documents.map Metadata.key).Nodup) (catalogue : Catalogue)
    (other : Metadata) :
    other ∈ (catalogue.fileAll documents).documents ↔
      other ∈ documents ∨
        other ∈ catalogue.documents ∧ other.key ∉ documents.map Metadata.key := by
  induction documents generalizing catalogue with
  | nil => simp [fileAll]
  | cons document rest inductionHypothesis =>
    rw [List.map_cons, List.nodup_cons] at distinctKeys
    obtain ⟨fresh, distinctRest⟩ := distinctKeys
    have later := inductionHypothesis distinctRest (catalogue.file document)
    rw [fileAll] at later
    rw [fileAll, List.foldl_cons, later, file, mem_place, List.mem_cons, List.map_cons,
      List.mem_cons, not_or]
    constructor
    · rintro (inRest | ⟨rfl | ⟨isOld, different⟩, notLater⟩)
      · exact .inl (.inr inRest)
      · exact .inl (.inl rfl)
      · exact .inr ⟨isOld, different, notLater⟩
    · rintro ((rfl | inRest) | ⟨isOld, different, notLater⟩)
      · exact .inr ⟨.inl rfl, fresh⟩
      · exact .inl inRest
      · exact .inr ⟨.inr ⟨isOld, different⟩, notLater⟩

/-- Filing documents adds the names of their indexes. -/
theorem mem_indexNames_fileAll (documents : List Metadata) (catalogue : Catalogue)
    (name : String) :
    name ∈ (catalogue.fileAll documents).indexNames ↔
      name ∈ documents.map Metadata.indexName ∨ name ∈ catalogue.indexNames := by
  induction documents generalizing catalogue with
  | nil => simp [fileAll]
  | cons document rest inductionHypothesis =>
    have later := inductionHypothesis (catalogue.file document)
    rw [fileAll] at later
    rw [fileAll, List.foldl_cons, later, file, mem_addIndex, List.map_cons, List.mem_cons,
      or_left_comm, or_assoc]

/-- Documents with distinct keys leave the same entries in every order. -/
theorem sameEntries_fileAll {documents others : List Metadata}
    (distinctKeys : (documents.map Metadata.key).Nodup) (reordered : documents.Perm others)
    (catalogue : Catalogue) :
    (catalogue.fileAll documents).SameEntries (catalogue.fileAll others) where
  indexNames := by
    intro name
    rw [mem_indexNames_fileAll, mem_indexNames_fileAll, (reordered.map _).mem_iff]
  documents := by
    intro document
    have distinctOthers := ((reordered.map Metadata.key).nodup_iff).mp distinctKeys
    rw [mem_documents_fileAll distinctKeys, mem_documents_fileAll distinctOthers,
      reordered.mem_iff, (reordered.map _).mem_iff]

/-- A listing is ordered by the keys of its sort. -/
theorem pairwise_admits_listing (catalogue : Catalogue) (indexName : String)
    (query : Option Query) (sort : Option SortOrder) :
    (catalogue.listing indexName query sort).Pairwise fun earlier later =>
      (SortOrder.way sort).admits (SortOrder.key sort earlier) (SortOrder.key sort later) =
        true := by
  apply List.pairwise_mergeSort
  · intro first second third
    exact SortDirection.admits_trans
  · intro first second
    exact SortDirection.admits_total _ _ _

/-- A listing holds the documents of the index that match. -/
theorem mem_listing {catalogue : Catalogue} {indexName : String} {query : Option Query}
    {sort : Option SortOrder} {document : Metadata} :
    document ∈ catalogue.listing indexName query sort ↔
      document ∈ catalogue.documents ∧ document.indexName = indexName ∧
        query.all (fun query => query.holds document) = true := by
  rw [(catalogue.listing_perm indexName query sort).mem_iff]
  simp [matching, inIndex, and_comm, and_left_comm]

namespace SameEntries

variable {left right : Catalogue} (same : left.SameEntries right)
  (leftDistinct : (left.documents.map Metadata.key).Nodup)
  (rightDistinct : (right.documents.map Metadata.key).Nodup)

include same leftDistinct rightDistinct

/-- Catalogues with the same entries have the same documents that match a query. -/
theorem matching_perm (indexName : String) (query : Option Query) :
    (left.matching indexName query).Perm (right.matching indexName query) := by
  have documents : left.documents.Perm right.documents :=
    (List.perm_ext_iff_of_nodup (.of_map _ leftDistinct) (.of_map _ rightDistinct)).mpr
      same.documents
  exact (documents.filter _).filter _

/-- Their listings have the same documents. -/
theorem listing_perm (indexName : String) (query : Option Query) (sort : Option SortOrder) :
    (left.listing indexName query sort).Perm (right.listing indexName query sort) :=
  (left.listing_perm indexName query sort).trans <|
    (same.matching_perm leftDistinct rightDistinct indexName query).trans
      (right.listing_perm indexName query sort).symm

/-- Their listings have the same keys in the same order. -/
theorem map_key_listing (indexName : String) (query : Option Query) (sort : Option SortOrder) :
    (left.listing indexName query sort).map (SortOrder.key sort) =
      (right.listing indexName query sort).map (SortOrder.key sort) := by
  have ordered (catalogue : Catalogue) :
      ((catalogue.listing indexName query sort).map (SortOrder.key sort)).Pairwise
        fun earlier later => (SortOrder.way sort).admits earlier later = true :=
    List.pairwise_map.mpr (catalogue.pairwise_admits_listing _ _ _)
  apply List.Perm.eq_of_pairwise _ (ordered left) (ordered right)
  · exact (same.listing_perm leftDistinct rightDistinct indexName query sort).map _
  · intro first second _ _
    exact SortDirection.admits_antisymm

/-- Their listings are equal when no two documents of them have one key. -/
theorem listing_eq {indexName : String} {query : Option Query} {sort : Option SortOrder}
    (separates : ∀ first ∈ left.listing indexName query sort,
      ∀ second ∈ right.listing indexName query sort,
        SortOrder.key sort first = SortOrder.key sort second → first = second) :
    left.listing indexName query sort = right.listing indexName query sort := by
  apply List.Perm.eq_of_pairwise _ (left.pairwise_admits_listing _ _ _)
    (right.pairwise_admits_listing _ _ _)
  · exact same.listing_perm leftDistinct rightDistinct indexName query sort
  · intro first second isFirst isSecond before after
    exact separates first isFirst second isSecond (SortDirection.admits_antisymm before after)

omit rightDistinct in
/-- Documents of one index with one identifier are the same in both. -/
theorem eq_of_documentId {indexName : String} {query : Option Query} {sort : Option SortOrder}
    {first second : Metadata} (isFirst : first ∈ left.listing indexName query sort)
    (isSecond : second ∈ right.listing indexName query sort)
    (sameId : first.documentId = second.documentId) : first = second := by
  obtain ⟨firstHeld, firstIndex, -⟩ := mem_listing.mp isFirst
  obtain ⟨secondHeld, secondIndex, -⟩ := mem_listing.mp isSecond
  have sameKey : first.key = second.key := by
    rw [Metadata.key, Metadata.key, firstIndex, secondIndex, sameId]
  exact List.inj_on_of_nodup_map leftDistinct firstHeld ((same.documents second).mpr secondHeld)
    sameKey

end SameEntries
end Catalogue

namespace Coordinator

/-- Two depots differ at most in the order of the entries of their indexes. -/
structure DiffersInOrder (left right : Coordinator) : Prop where
  rest : right = { left with index := right.index }
  isOpen : right.index.isOpen = left.index.isOpen
  entries : ∃ catalogue other, left.index.tables.Represents catalogue ∧
    right.index.tables.Represents other ∧ catalogue.SameEntries other

/-- Two depots show the same but for ties: searches count the same documents and give pages with
the same keys, pages are the same when they are sorted by the document identifier, look-ups find the
same documents, and the names of the indexes are the same. Searches that are translated, can be run
and find pages for whose rows a statement has places are answered with pages. -/
structure ShowsSame (left right : Coordinator) : Prop where
  counted : ∀ (indexName : Text) (query : Option Query) (request : PageRequest),
    (left.search indexName query (some request)).map Page.totalElements =
      (right.search indexName query (some request)).map Page.totalElements
  keyed : ∀ (indexName : Text) (query : Option Query) (request : PageRequest),
    (left.search indexName query (some request)).map
        (fun page => page.content.map (SortOrder.key request.sort)) =
      (right.search indexName query (some request)).map
        fun page => page.content.map (SortOrder.key request.sort)
  identified : ∀ (indexName : Text) (query : Option Query) (request : PageRequest)
    (sort : SortOrder), request.sort = some sort → sort.field = .text FieldName.identifier →
    left.search indexName query (some request) = right.search indexName query (some request)
  found : ∀ (indexName : Text) (documentId : Datum),
    left.metadata indexName documentId = right.metadata indexName documentId
  listed : left.index.indexNames = right.index.indexNames
  answered : ∀ (indexName : Text) (query : Option Query) (request : PageRequest)
    (selection : Selection) (catalogue : Catalogue), left.index.Represents catalogue →
    left.outages.failure? .search (some indexName) = none →
    Selection.translate query request.sort = .ok selection → selection.isPreparable = true →
    Selection.textsEncodable indexName query request.sort = true → request.fits = true →
    request.rows (catalogue.matching indexName.toStringLossy query).length ≤ parameterLimit →
    ∃ page other, left.search indexName query (some request) = .ok page ∧
      right.search indexName query (some request) = .ok other

namespace DiffersInOrder

variable {left right : Coordinator} (differs : left.DiffersInOrder right)

include differs

/-- What is observed of the answers of searches is the same when it is the same of the slices of
listings. -/
theorem map_search {α : Type} (observe : Page Metadata → α) (indexName : Text)
    (query : Option Query) (request : PageRequest)
    (alike : ∀ catalogue other : Catalogue, catalogue.SameEntries other →
      (catalogue.documents.map Metadata.key).Nodup → (other.documents.map Metadata.key).Nodup →
      ∀ selection, Selection.ofQuery query request.sort = .ok selection →
        observe (Page.slice (catalogue.listing indexName.toStringLossy query request.sort)
            request) =
          observe (Page.slice (other.listing indexName.toStringLossy query request.sort)
            request)) :
    (left.search indexName query (some request)).map observe =
      (right.search indexName query (some request)).map observe := by
  obtain ⟨rest, sameOpen, catalogue, other, represents, otherRepresents, same⟩ := differs
  have sameOutages : right.outages = left.outages := by rw [rest]
  rw [search, search, Option.getD_some, Option.getD_some, sameOutages]
  cases translated : Selection.translate query request.sort with
  | error failure => rfl
  | ok selection =>
    have accepted := (Selection.translateWithin_eq_ok_iff.mp translated).1
    cases outage : left.outages.failure? .search (some indexName) with
    | some failure => rfl
    | none =>
      cases isOpen : left.index.isOpen with
      | false => simp [Connection.search, isOpen, sameOpen]
      | true =>
        have leftConnection : left.index.Represents catalogue := ⟨isOpen, represents⟩
        have rightConnection : right.index.Represents other :=
          ⟨sameOpen.trans isOpen, otherRepresents⟩
        simp only [leftConnection.search_eq accepted, rightConnection.search_eq accepted]
        cases selection.searchFault? indexName request with
        | some fault => rfl
        | none =>
          have sameLength := (same.listing_perm represents.distinct otherRepresents.distinct
            indexName.toStringLossy query request.sort).length_eq
          have sameObserved := alike catalogue other same represents.distinct
            otherRepresents.distinct selection accepted
          simp only [Connection.loaded, Page.length_slice, sameLength]
          split
          · rfl
          · rw [Except.map, Except.map, sameObserved]

/-- Searches count the same documents. -/
theorem counted (indexName : Text) (query : Option Query) (request : PageRequest) :
    (left.search indexName query (some request)).map Page.totalElements =
      (right.search indexName query (some request)).map Page.totalElements := by
  apply differs.map_search
  intro catalogue other same distinct otherDistinct selection accepted
  simp only [Page.slice, (same.listing_perm distinct otherDistinct _ _ _).length_eq]

/-- Pages have the same keys. -/
theorem keyed (indexName : Text) (query : Option Query) (request : PageRequest) :
    (left.search indexName query (some request)).map
        (fun page => page.content.map (SortOrder.key request.sort)) =
      (right.search indexName query (some request)).map
        fun page => page.content.map (SortOrder.key request.sort) := by
  apply differs.map_search
  intro catalogue other same distinct otherDistinct selection accepted
  simp only [Page.slice, List.map_take, List.map_drop,
    same.map_key_listing distinct otherDistinct]

/-- Searches whose listings have no ties are answered alike. -/
theorem search_eq (indexName : Text) (query : Option Query) (request : PageRequest)
    (separates : ∀ selection, Selection.ofQuery query request.sort = .ok selection →
      ∀ first second : Metadata, query.all (fun query => query.holds first) = true →
        query.all (fun query => query.holds second) = true →
        SortOrder.key request.sort first = SortOrder.key request.sort second →
        first.documentId = second.documentId) :
    left.search indexName query (some request) = right.search indexName query (some request) := by
  have sameAnswers := differs.map_search id indexName query request <| by
    intro catalogue other same distinct otherDistinct selection accepted
    rw [same.listing_eq distinct otherDistinct]
    intro first isFirst second isSecond sameKey
    apply same.eq_of_documentId distinct isFirst isSecond
    exact separates selection accepted first second (Catalogue.mem_listing.mp isFirst).2.2
      (Catalogue.mem_listing.mp isSecond).2.2 sameKey
  simpa using sameAnswers

/-- Pages that are sorted by the document identifier are the same. -/
theorem identified (indexName : Text) (query : Option Query) (request : PageRequest)
    (sort : SortOrder) (isSort : request.sort = some sort)
    (byIdentifier : sort.field = .text FieldName.identifier) :
    left.search indexName query (some request) = right.search indexName query (some request) := by
  apply differs.search_eq
  intro selection accepted first second _ _ sameKey
  rw [isSort] at accepted sameKey
  obtain ⟨name, direction, isName, reads, -⟩ :=
    OrderClause.of_ofSort (Selection.of_ofQuery accepted).2
  rw [byIdentifier] at isName
  cases isName
  simpa [SortOrder.key, reads, Metadata.sortKey] using sameKey

/-- Look-ups find the same documents. -/
theorem metadata_eq (indexName : Text) (documentId : Datum) :
    left.metadata indexName documentId = right.metadata indexName documentId := by
  have sameSearch := differs.search_eq indexName
    (some (.equals (.text FieldName.identifier) documentId)) ⟨0, 1, none, by decide⟩ <| by
    intro selection accepted first second isFirst isSecond _
    rw [Option.all_some, Query.holds_equals] at isFirst isSecond
    simp only [Metadata.valuesOf, if_true, List.mem_singleton, exists_eq_left,
      Datum.agrees_comm _ documentId] at isFirst isSecond
    simpa [Datum.agrees] using Datum.agrees_of_common isFirst isSecond
  rw [metadata, metadata, sameSearch]

/-- The names of the indexes are the same. -/
theorem indexNames_eq : left.index.indexNames = right.index.indexNames := by
  obtain ⟨rest, sameOpen, catalogue, other, represents, otherRepresents, same⟩ := differs
  have ordered (names : List String) :
      (names.mergeSort fun left right => decide (left ≤ right)).Pairwise
        fun left right => left ≤ right := by
    have sorted : (names.mergeSort fun left right => decide (left ≤ right)).Pairwise
        fun left right => decide (left ≤ right) = true :=
      List.pairwise_mergeSort (by simpa using fun _ _ _ => String.le_trans)
        (by simpa using String.le_total) names
    simpa using sorted
  have sameNames : left.index.tables.indexNames.Perm right.index.tables.indexNames := by
    rw [represents.indexNames, otherRepresents.indexNames]
    exact (List.perm_ext_iff_of_nodup represents.distinctNames otherRepresents.distinctNames).mpr
      same.indexNames
  have sameOrder := List.Perm.eq_of_pairwise (fun _ _ _ _ => String.le_antisymm)
    (ordered left.index.tables.indexNames) (ordered right.index.tables.indexNames)
    ((List.mergeSort_perm _ _).trans (sameNames.trans (List.mergeSort_perm _ _).symm))
  rw [Connection.indexNames, Connection.indexNames, sameOpen, sameOrder]

/-- Depots that differ in the order of their entries show the same but for ties. -/
theorem showsSame : left.ShowsSame right where
  counted := differs.counted
  keyed := differs.keyed
  identified := differs.identified
  found := differs.metadata_eq
  listed := differs.indexNames_eq
  answered := by
    intro indexName query request selection catalogue represents calm translated preparable
      encodable fits rows
    have accepted := (Selection.translateWithin_eq_ok_iff.mp translated).1
    have answered := represents.search_eq_ok accepted preparable encodable fits rows
    rw [← search_of_calm translated calm] at answered
    have sameCount := differs.counted indexName query request
    rw [answered] at sameCount
    cases otherAnswered : right.search indexName query (some request) with
    | error failure => simp [otherAnswered, Except.map] at sameCount
    | ok other => exact ⟨_, other, answered, rfl⟩

end DiffersInOrder
end Coordinator

/-- A call that files a document under an identifier that the caller names. -/
structure FilingCall where
  indexName : Text
  documentId : Text
  contentHash : Text
  contentType : Option Text
  fields : List Field
  named : documentId.isEmpty = false

namespace FilingCall

/-- What the call is told to file. -/
def options (call : FilingCall) : IndexOptions :=
  ⟨some call.documentId, call.contentType, call.fields⟩

/-- The index and the identifier of the call. -/
def key (call : FilingCall) : Text × Text := (call.indexName, call.documentId)

/-- The document that the call files. -/
def document (call : FilingCall) : Metadata :=
  ⟨call.indexName.toStringLossy, call.documentId.toStringLossy, call.contentHash.toStringLossy,
    call.contentType.map Text.toStringLossy, call.fields⟩

/-- Where the call files its document. -/
def placement (call : FilingCall) : Placement :=
  ⟨call.indexName.toStringLossy, call.documentId.toStringLossy, call.contentHash.toStringLossy⟩

end FilingCall

namespace Coordinator

/-- The results of calls that take effect one after the other, and the depot after them. -/
def fileAll (coordinator : Coordinator) :
    List FilingCall → List (Except Failure Placement) × Coordinator
  | [] => ([], coordinator)
  | call :: rest =>
    let (result, after) := coordinator.file call.indexName call.contentHash call.options
    let (results, last) := after.fileAll rest
    (result :: results, last)

/-- Whether a depot files the document of a call. What it has filed does not matter. -/
structure Admits (coordinator : Coordinator) (call : FilingCall) : Prop where
  calm : coordinator.outages.failure? .upsert (some call.indexName) = none
  isOpen : coordinator.index.isOpen = true
  encodable : coordinator.partsEncodable call.indexName call.contentHash call.options = true
  fileable : Field.areFileable call.fields = true

section

variable {coordinator : Coordinator} {call : FilingCall}

/-- The identifier that a call names is the one that its document is filed under. -/
theorem targetId_options (coordinator : Coordinator) (call : FilingCall) :
    coordinator.targetId call.options = call.documentId := by
  simp [targetId, FilingCall.options, Option.filter, call.named]

/-- No identifier is issued for a call that names one. -/
theorem chosen_options (coordinator : Coordinator) (call : FilingCall) :
    coordinator.chosen call.options = coordinator := by
  simp [chosen, FilingCall.options, Option.filter, call.named]

/-- A call that succeeds is one that the depot admits. -/
theorem admits_of_isOk
    (succeeded : (coordinator.file call.indexName call.contentHash call.options).1.isOk = true) :
    coordinator.Admits call := by
  cases filed : coordinator.file call.indexName call.contentHash call.options with
  | mk result after =>
    cases result with
    | error failure => simp [filed, Except.isOk, Except.toBool] at succeeded
    | ok placement =>
      obtain ⟨calm, encodable, isOpen, fileable, -⟩ := of_file_ok filed
      exact ⟨calm, isOpen, encodable, fileable⟩

/-- A call that the depot admits succeeds, files its document and leaves everything else as it
was. -/
theorem file_of_admits {catalogue : Catalogue}
    (represents : coordinator.index.tables.Represents catalogue)
    (admits : coordinator.Admits call) :
    ∃ index, coordinator.file call.indexName call.contentHash call.options =
        (.ok call.placement, { coordinator with index := index }) ∧
      index.isOpen = true ∧ index.tables.Represents (catalogue.file call.document) := by
  rw [file_of_partsEncodable admits.calm admits.encodable, chosen_options, placement,
    targetId_options]
  rcases coordinator.index.upsert_cases call.indexName.toStringLossy
    call.documentId.toStringLossy call.contentHash.toStringLossy
    (call.contentType.map Text.toStringLossy) call.fields with ⟨-, -, filed⟩ | ⟨refused, -⟩
  · have kept : ∀ field ∈ call.document.fields, field.isEncodable = true :=
      ((Field.areFileable_iff call.fields).mp admits.fileable).2.1
    let index : Connection :=
      { coordinator.index with
        tables := Work.filed coordinator.index.tables call.document.indexName
          call.document.documentId call.document.contentHash call.document.contentType
          call.document.fields }
    refine ⟨index, ?_, admits.isOpen, represents.filed kept⟩
    simp only [FilingCall.options, filed]
    rfl
  · simp [admits.isOpen, admits.fileable] at refused

/-- A depot that differs in its index alone admits the same calls while it is open. -/
theorem Admits.of_index (admits : coordinator.Admits call) {index : Connection}
    (isOpen : index.isOpen = true) : { coordinator with index := index }.Admits call where
  calm := admits.calm
  isOpen := isOpen
  encodable := by
    rw [partsEncodable_eq _ coordinator]
    exact admits.encodable
  fileable := admits.fileable

/-- Calls that the depot admits succeed one after the other, file their documents and leave
everything else as it was. -/
theorem fileAll_of_admits {catalogue : Catalogue}
    (represents : coordinator.index.tables.Represents catalogue) {calls : List FilingCall}
    (admits : ∀ call ∈ calls, coordinator.Admits call) :
    ∃ index, coordinator.fileAll calls =
        (calls.map fun call => .ok call.placement, { coordinator with index := index }) ∧
      index.isOpen = coordinator.index.isOpen ∧
      index.tables.Represents (catalogue.fileAll (calls.map FilingCall.document)) := by
  induction calls generalizing coordinator catalogue with
  | nil => exact ⟨coordinator.index, rfl, rfl, represents⟩
  | cons call rest inductionHypothesis =>
    rw [List.forall_mem_cons] at admits
    obtain ⟨index, filed, indexOpen, representsFiled⟩ := file_of_admits represents admits.1
    have admitsRest : ∀ other ∈ rest, { coordinator with index := index }.Admits other :=
      fun other member => (admits.2 other member).of_index indexOpen
    obtain ⟨last, filedRest, lastOpen, representsLast⟩ :=
      inductionHypothesis representsFiled admitsRest
    refine ⟨last, ?_, ?_, representsLast⟩
    · rw [fileAll, filed]
      simp only [filedRest, List.map_cons]
    · rw [lastOpen, admits.1.isOpen]
      exact indexOpen

/-- Calls that all succeed are calls that the depot admits. -/
theorem admits_of_fileAll {catalogue : Catalogue}
    (represents : coordinator.index.tables.Represents catalogue) {calls : List FilingCall}
    (succeed : ∀ result ∈ (coordinator.fileAll calls).1, result.isOk = true) :
    ∀ call ∈ calls, coordinator.Admits call := by
  induction calls generalizing coordinator catalogue with
  | nil => simp
  | cons call rest inductionHypothesis =>
    rw [fileAll] at succeed
    simp only [List.forall_mem_cons] at succeed
    have admits := admits_of_isOk succeed.1
    obtain ⟨index, filed, indexOpen, representsFiled⟩ := file_of_admits represents admits
    rw [filed] at succeed
    have later := inductionHypothesis representsFiled succeed.2
    refine List.forall_mem_cons.mpr ⟨admits, fun other member => ?_⟩
    exact (later other member).of_index admits.isOpen

end

/-- Admitted calls with different keys file documents with different keys. -/
theorem nodup_key_document {coordinator : Coordinator} {calls : List FilingCall}
    (admits : ∀ call ∈ calls, coordinator.Admits call)
    (distinctKeys : (calls.map FilingCall.key).Nodup) :
    ((calls.map FilingCall.document).map Metadata.key).Nodup := by
  have encodable : ∀ call ∈ calls,
      call.indexName.isEncodable = true ∧ call.documentId.isEncodable = true := by
    intro call member
    have parts := (admits call member).encodable
    rw [partsEncodable, targetId_options] at parts
    simp only [Bool.and_eq_true] at parts
    exact parts.1.1
  rw [List.map_map]
  apply List.Nodup.map_on _ (.of_map _ distinctKeys)
  intro first isFirst second isSecond sameKey
  apply List.inj_on_of_nodup_map distinctKeys isFirst isSecond
  obtain ⟨firstIndex, firstId⟩ := encodable first isFirst
  obtain ⟨secondIndex, secondId⟩ := encodable second isSecond
  simpa [Metadata.key, FilingCall.document, FilingCall.key,
    Text.toStringLossy_inj firstIndex secondIndex, Text.toStringLossy_inj firstId secondId]
    using sameKey

/-- Calls with different keys that all succeed do so in every order, with the same results, and
leave depots that differ in the order of their entries. -/
theorem differsInOrder_fileAll {coordinator : Coordinator} {catalogue : Catalogue}
    (represents : coordinator.index.tables.Represents catalogue) {calls others : List FilingCall}
    (distinctKeys : (calls.map FilingCall.key).Nodup) (reordered : calls.Perm others)
    (succeed : ∀ result ∈ (coordinator.fileAll calls).1, result.isOk = true) :
    (coordinator.fileAll calls).1 = calls.map (fun call => .ok call.placement) ∧
      (coordinator.fileAll others).1 = others.map (fun call => .ok call.placement) ∧
      (coordinator.fileAll calls).2.DiffersInOrder (coordinator.fileAll others).2 := by
  have admits := admits_of_fileAll represents succeed
  have admitsOthers : ∀ call ∈ others, coordinator.Admits call :=
    fun call member => admits call (reordered.mem_iff.mpr member)
  obtain ⟨index, filed, sameOpen, representsFiled⟩ := fileAll_of_admits represents admits
  obtain ⟨other, filedOthers, otherOpen, representsOthers⟩ :=
    fileAll_of_admits represents admitsOthers
  have same := Catalogue.sameEntries_fileAll (nodup_key_document admits distinctKeys)
    (reordered.map FilingCall.document) catalogue
  rw [filed, filedOthers]
  exact ⟨rfl, rfl, rfl, otherOpen.trans sameOpen.symm, _, _, representsFiled, representsOthers,
    same⟩

end Coordinator

namespace Session

/-- Calls that clients make with different keys and that all succeed take effect in every order
alike: from every state that calls lead to, they succeed in every other order as well, with the same
results, and the depots after them show the same but for ties. -/
theorem run_fileAll_reordered {config : Config} {base : Option Path} {world : World}
    {coordinator : Coordinator}
    (opened : (Coordinator.openDepot world config base).1 = .ok coordinator)
    (new : coordinator.index.tables = .empty) (earlier : List DepotCall) :
    ∃ session, Session.run config base ⟨coordinator, .empty⟩ earlier = .ok session ∧
      ∀ calls others : List FilingCall, (calls.map FilingCall.key).Nodup → calls.Perm others →
        (∀ result ∈ (session.coordinator.fileAll calls).1, result.isOk = true) →
        (session.coordinator.fileAll calls).1 = calls.map (fun call => .ok call.placement) ∧
          (session.coordinator.fileAll others).1 = others.map (fun call => .ok call.placement) ∧
          (session.coordinator.fileAll calls).2.ShowsSame
            (session.coordinator.fileAll others).2 := by
  obtain ⟨session, done, sound, -, -⟩ := exists_sound_run opened new earlier
  refine ⟨session, done, fun calls others distinctKeys reordered succeed => ?_⟩
  obtain ⟨results, otherResults, differs⟩ :=
    Coordinator.differsInOrder_fileAll sound.tables distinctKeys reordered succeed
  exact ⟨results, otherResults, differs.showsSame⟩

/-- A document is filed in a new depot. -/
def filedOnce : List DepotCall := [.file "d" "old" ⟨some "x", none, []⟩]

/-- The depot with the document. -/
def depotWithDocument : Coordinator := (newDepot.file "d" "old" ⟨some "x", none, []⟩).2

/-- Three calls on the depot: one replaces the document, and two file new ones. -/
def replacedAndNew : List FilingCall :=
  [⟨"d", "x", "new", none, [], rfl⟩, ⟨"d", "y", "h", none, [], rfl⟩,
    ⟨"d", "z", "h", none, [⟨"rank", .integer 5, rfl, rfl⟩], rfl⟩]

/-- The identifiers of the documents of a depot in the order of its table. -/
def documentIds (coordinator : Coordinator) : List String :=
  coordinator.index.tables.documents.map DocumentRow.documentId

/-- The calls take effect forwards or backwards; the new documents stand in another order then, and
the depots show the same but for ties. -/
theorem run_fileAll_reordered_replacedAndNew :
    (Coordinator.openDepot emptyWorld fileSettings none).1 = .ok newDepot ∧
      (replacedAndNew.map FilingCall.key).Nodup ∧ replacedAndNew.Perm replacedAndNew.reverse ∧
      (∀ result ∈ (depotWithDocument.fileAll replacedAndNew).1, result.isOk = true) ∧
      documentIds (depotWithDocument.fileAll replacedAndNew).2 = ["x", "y", "z"] ∧
      documentIds (depotWithDocument.fileAll replacedAndNew.reverse).2 = ["x", "z", "y"] ∧
      ∃ session, Session.run fileSettings none ⟨newDepot, .empty⟩ filedOnce = .ok session ∧
        session.coordinator = depotWithDocument ∧
        (session.coordinator.fileAll replacedAndNew).2.ShowsSame
          (session.coordinator.fileAll replacedAndNew.reverse).2 := by
  have opened : (Coordinator.openDepot emptyWorld fileSettings none).1 = .ok newDepot := rfl
  have distinctKeys : (replacedAndNew.map FilingCall.key).Nodup := by decide
  have reordered := (List.reverse_perm replacedAndNew).symm
  have succeed : ∀ result ∈ (depotWithDocument.fileAll replacedAndNew).1, result.isOk = true :=
    List.all_eq_true.mp (by decide +kernel)
  obtain ⟨session, done, alike⟩ := run_fileAll_reordered opened rfl filedOnce
  have computed : Session.run fileSettings none ⟨newDepot, .empty⟩ filedOnce = .ok _ := rfl
  have isDone := computed.symm.trans done
  cases isDone
  exact ⟨opened, distinctKeys, reordered, succeed, by decide +kernel, by decide +kernel, _,
    computed, rfl, (alike _ _ distinctKeys reordered succeed).2.2⟩

end Session
end Depot
