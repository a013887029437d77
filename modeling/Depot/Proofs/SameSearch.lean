import Mathlib
import Depot.Proofs.Collecting
import Depot.Proofs.Inquiries
import Depot.Proofs.PageLimits
import Depot.Proofs.Showing
import Depot.Proofs.TwoPhases

/-!
# One search, three callers

Whatever a search of a depot answers is shown by the command, sent by the service and returned to
the caller: one page of the same documents with the same numbers, or one complaint about the query.
A text that cannot be encoded makes all three fail.
-/

namespace Depot

/-- Settings that lead to the same depot, and that a depot can be opened with as well. -/
structure Config.SameDepot (config other : Config) : Prop where
  indexPath : other.indexPath = config.indexPath
  blobFolder : other.blobFolder = config.blobFolder
  pageSize : other.defaultPageSize = config.defaultPageSize
  concurrency : 1 ≤ other.fetchConcurrency

/-- Settings that lead to the same depot open it with the same index. -/
theorem Config.SameDepot.openDepot {world : World} {config settings : Config} {depot : Coordinator}
    (same : config.SameDepot settings)
    (opened : (Coordinator.openDepot world config none).1 = .ok depot) :
    ∃ other, (Coordinator.openDepot world settings none).1 = .ok other ∧
      other.index = depot.index ∧ other.outages = depot.outages ∧
      other.defaultPageSize = depot.defaultPageSize := by
  obtain ⟨folderTree, made, tables, pageSize, concurrency, folders, blobFolders, read, rfl⟩ :=
    Coordinator.of_openDepot_ok opened
  have sameIndex : settings.resolvedIndex none = config.resolvedIndex none := same.indexPath
  have sameBlobs : settings.resolvedBlobs none = config.resolvedBlobs none := same.blobFolder
  rw [← sameIndex] at folders read
  rw [← sameBlobs] at blobFolders
  have otherPageSize : 1 ≤ settings.defaultPageSize := by
    rw [same.pageSize]
    exact pageSize
  refine ⟨_, Coordinator.openDepot_of_ok folders blobFolders read otherPageSize same.concurrency,
    rfl, rfl, ?_⟩
  change settings.defaultPageSize.toNat = config.defaultPageSize.toNat
  rw [same.pageSize]

/-! ## What is answered -/

namespace Page

/-- The table of a page: a row for every document with its fields in order. -/
def table (page : Page Metadata) : Output :=
  .table ["Id", "Hash", "Content type", "Fields"] (page.content.map fun document =>
    [document.documentId, document.contentHash, document.contentType.getD "",
      Json.write (.record (document.fields.map Field.toPair))])

/-- The line with the numbers of a page. -/
def numbers (page : Page Metadata) : Output :=
  .line ("Page " ++ toString (page.pageNumber + 1) ++ "/" ++ toString page.totalPages ++ ", " ++
    toString page.totalElements ++ " total")

end Page

/-- What a command hands to its console of an answer: the table and the numbers of a page, or that
nothing was found, or the failure. -/
def Report.ofAnswer (console : Console) : Except Failure (Page Metadata) → Report
  | .ok page =>
    if page.content = [] then .ofLine console "[yellow]No matches found.[/yellow]" 0
    else .printing console (.exited 0) [page.table, page.numbers]
  | .error failure => .failed console failure

/-- What there is to show of an answer. -/
def Report.ofTold : Except Failure (Page Metadata) → Report
  | .ok page =>
    if page.content = [] then ⟨[.line "No matches found."], [], none, .exit 0⟩
    else ⟨[page.table, page.numbers], [], none, .exit 0⟩
  | .error failure => .ofFailure failure

/-- Whether all that there is to show of an answer is plain. -/
def Report.isPlain : Except Failure (Page Metadata) → Bool
  | .ok page => page.content.isEmpty || page.table.isPlain
  | .error failure =>
    failure.title?.all fun title => Console.isPlain (title ++ ": " ++ failure.message)

/-- What the service sends of an answer: the page as it is, or a bad request for a query without a
meaning. -/
def Http.Response.ofAnswer : Except Failure (Page Metadata) → Http.Response
  | .ok page => .json statusOk (page.toDatum Metadata.toDatum)
  | .error (.query error) => .detail statusBadRequest error.message
  | .error failure => .ofFailure failure

/-- The numbers of a page are plain. -/
theorem Page.isPlain_numbers (page : Page Metadata) : page.numbers.isPlain = true := by
  apply Console.isPlain_of_all
  simp only [String.toList_append, List.all_append]
  rw [Console.all_isOrdinary_toString, Console.all_isOrdinary_toString,
    Console.all_isOrdinary_toString]
  decide

/-- A console that reads markup shows all that there is to show of a plain answer. -/
theorem Report.ofAnswer_eq_ofTold {console : Console} (reads : console.ReadsMarkup)
    {answer : Except Failure (Page Metadata)} (plain : Report.isPlain answer = true) :
    ofAnswer console answer = ofTold answer := by
  cases answer with
  | error failure =>
    refine failed_eq_ofFailure reads fun title isTitle => ?_
    simpa [Report.isPlain, isTitle] using plain
  | ok page =>
    by_cases noContent : page.content = []
    · have coloured := reads.coloured ("[yellow]", "[/yellow]") (by decide) "No matches found."
        (by decide)
      rw [ofAnswer, ofTold, if_pos noContent, if_pos noContent, ofLine, printing]
      rw [show "[yellow]" ++ "No matches found." ++ "[/yellow]" =
        "[yellow]No matches found.[/yellow]" from rfl] at coloured
      rw [coloured]
      rfl
    · have plainTable : page.table.isPlain = true := by
        simpa [Report.isPlain, noContent] using plain
      rw [ofAnswer, ofTold, if_neg noContent, if_neg noContent, printing, printing, printing,
        reads.plain _ plainTable, reads.plain _ page.isPlain_numbers]
      rfl

/-! ## Pages of stored documents -/

/-- Whether a value is no infinite or undefined real. -/
def FieldValue.isFinite : FieldValue → Bool
  | .real value => value.isFinite
  | _ => true

/-- Whether all reals of a document are finite. -/
def Metadata.isFinite (document : Metadata) : Bool :=
  document.fields.all fun field => field.value.isFinite

namespace Http.Response

/-- Items are sent as they are when each of them is. -/
theorem sendableItems_of_forall {items : List Datum}
    (each : ∀ item ∈ items, sendable item = item) : sendableItems items = items := by
  induction items with
  | nil => rw [sendableItems]
  | cons item rest inductionHypothesis =>
    rw [List.forall_mem_cons] at each
    rw [sendableItems, each.1, inductionHypothesis each.2]

/-- A finite value is sent as it is. -/
theorem sendable_value {value : FieldValue} (finite : value.isFinite = true) :
    sendable value.toDatum = value.toDatum := by
  cases value with
  | real number =>
    have notInfinite : number.isInfinite = false := by
      rw [FieldValue.isFinite, Binary64.isFinite, bne_iff_ne] at finite
      simp [Binary64.isInfinite, finite]
    rw [FieldValue.toDatum, sendable, notInfinite]
    rfl
  | _ => simp [FieldValue.toDatum, sendable]

/-- A document with finite reals is sent as it is. -/
theorem sendable_metadata {document : Metadata} (finite : document.isFinite = true) :
    sendable document.toDatum = document.toDatum := by
  have contentType : sendable (.ofOptionalText document.contentType) =
      .ofOptionalText document.contentType := by
    cases document.contentType <;> simp [Datum.ofOptionalText, sendable]
  have fields : sendableItems (document.fields.map fun field =>
      .record [("name", .text field.name), ("value", field.value.toDatum)]) =
      document.fields.map fun field =>
        .record [("name", .text field.name), ("value", field.value.toDatum)] := by
    apply sendableItems_of_forall
    intro item member
    obtain ⟨field, inFields, rfl⟩ := List.mem_map.mp member
    have value := sendable_value (List.all_eq_true.mp finite field inFields)
    simp only [sendable, sendableEntries, value]
  simp only [Metadata.toDatum, sendable, sendableEntries, contentType, fields]

/-- A page of documents with finite reals is sent as it is. -/
theorem success_page {page : Page Metadata}
    (finite : ∀ document ∈ page.content, document.isFinite = true) :
    success (page.toDatum Metadata.toDatum) = .json statusOk (page.toDatum Metadata.toDatum) := by
  have items : sendableItems (page.content.map Metadata.toDatum) =
      page.content.map Metadata.toDatum := by
    apply sendableItems_of_forall
    intro item member
    obtain ⟨document, inContent, rfl⟩ := List.mem_map.mp member
    exact sendable_metadata (finite document inContent)
  rw [success, Page.toDatum]
  simp only [sendable, sendableEntries, items]

end Http.Response

/-- A page that has documents with distinct field names, and pages if it has documents, is shown as
a table of the documents. -/
theorem Command.pageReport_eq {console : Console} {page : Page Metadata}
    (distinct : ∀ document ∈ page.content, (document.fields.map Field.name).Nodup)
    (counted : page.content ≠ [] → 0 < page.totalPages) :
    Command.pageReport console false (page.withContent (page.content.map fun metadata =>
      (metadata, none))) = .ofAnswer console (.ok page) := by
  by_cases noContent : page.content = []
  · simp [Command.pageReport, Report.ofAnswer, Page.withContent, noContent]
  · have rows : (page.content.map fun metadata => (metadata, (none : Option Nat))).map
        (fun item => Command.cells item.1 item.2) =
        page.content.map fun document => [document.documentId, document.contentHash,
          document.contentType.getD "",
          Json.write (.record (document.fields.map Field.toPair))] := by
      rw [List.map_map]
      apply List.map_congr_left
      intro document member
      have names : (document.fields.map Field.toPair).map Prod.fst =
          document.fields.map Field.name := by
        rw [List.map_map]
        rfl
      have entries : document.fieldEntries = document.fields.map Field.toPair :=
        collectEntries_of_nodup (names ▸ distinct document member)
      simp [Command.cells, entries]
    have atLeastOne : max (page.withContent (page.content.map fun metadata =>
        (metadata, (none : Option Nat)))).totalPages 1 = page.totalPages := by
      have positive := counted noContent
      rw [Page.withContent]
      exact max_eq_left positive
    rw [Command.pageReport, if_neg (by simpa [Page.withContent] using noContent), atLeastOne,
      Report.ofAnswer, if_neg noContent, Page.table, ← rows]
    rfl

/-- A slice of a listing has documents of the listing, and pages if it has documents. -/
theorem Page.of_slice (listing : List Metadata) (request : PageRequest) :
    (slice listing request).content ⊆ listing ∧
      ((slice listing request).content ≠ [] → 0 < (slice listing request).totalPages) := by
  refine ⟨fun document member => List.mem_of_mem_drop (List.mem_of_mem_take member), ?_⟩
  intro hasItems
  have started := (slice_ne_nil_iff listing request).mp hasItems
  refine (lt_totalPages_slice_iff listing request 0).mpr ?_
  rw [Nat.zero_mul]
  exact Nat.zero_lt_of_lt started

/-- The documents of a listing are documents of the catalogue. -/
theorem Catalogue.listing_subset (catalogue : Catalogue) (indexName : String)
    (query : Option Query) (sort : Option SortOrder) :
    catalogue.listing indexName query sort ⊆ catalogue.documents := fun _ member =>
  (catalogue.matching_sublist indexName query).subset
    ((catalogue.listing_perm indexName query sort).subset member)

namespace Inquiry

section

variable {inquiry : Inquiry} {coordinator : Coordinator} {catalogue : Catalogue}

/-- An inquiry has an answer for its caller: a complaint about its query, which cannot be read or
has no meaning with its order, or the page of a search that the index can run, if a statement has a
place for each row of the page. -/
inductive Answerable (inquiry : Inquiry) (catalogue : Catalogue) (request : PageRequest) : Prop
  | unread (error : QueryError) (refused : inquiry.query = .error (.query error))
  | unmeant (query : Option Query) (error : QueryError) (read : inquiry.query = .ok query)
      (refused : Selection.translate query request.sort = .error (.query error))
  | runs (query : Option Query) (selection : Selection) (read : inquiry.query = .ok query)
      (translated : Selection.translate query request.sort = .ok selection)
      (preparable : selection.isPreparable = true)
      (encodable : Selection.textsEncodable inquiry.indexName query request.sort = true)
      (rows : request.rows (catalogue.matching inquiry.indexName query).length ≤ parameterLimit)

/-- A failure of a search that is no complaint about the query: a text that cannot be encoded, a
limit of the database, a wording that cannot be made, or the end of the stack. -/
inductive Interrupts (indexName : Text) : Failure → Prop
  | text (fault : EncodingFault) : Interrupts indexName (.encoding fault)
  | limit (fault : DatabaseFault) (isLimit : fault.isLimit = true) :
      Interrupts indexName (.indexUnavailable (.cannotSearch indexName fault))
  | wording : Interrupts indexName .unwritable
  | stack : Interrupts indexName .exhausted

/-- What is done with a query level by level ends with a query error, or is interrupted. -/
theorem interrupts_of_stackFault (indexName : Text) (fault : StackFault QueryError) :
    (∃ error, fault.failure = .query error) ∨ Interrupts indexName fault.failure := by
  cases fault with
  | refused error =>
    rw [StackFault.failure, QueryError.raised]
    split
    · exact .inl ⟨error, rfl⟩
    · exact .inr .wording
  | exhausted => exact .inr .stack

/-- An inquiry whose query is not read ends with a query error, or is interrupted. -/
theorem interrupts_of_query (indexName : Text) {failure : Failure}
    (refused : inquiry.query = .error failure) :
    (∃ error, failure = .query error) ∨ Interrupts indexName failure := by
  rw [query] at refused
  split at refused
  · cases refused
  · rw [Query.read] at refused
    cases read : Query.ofDatumWithin Query.documentLevels (.record inquiry.entries) with
    | ok query => simp [read, Except.mapError, Except.map] at refused
    | error fault =>
      simp only [read, Except.mapError, Except.map, Except.error.injEq] at refused
      exact refused ▸ interrupts_of_stackFault indexName fault

/-- A search that is not translated ends with a query error, or is interrupted. -/
theorem interrupts_of_translate (indexName : Text) {query : Option Query}
    {sort : Option SortOrder} {failure : Failure}
    (refused : Selection.translate query sort = .error failure) :
    (∃ error, failure = .query error) ∨ Interrupts indexName failure := by
  have raised (error : QueryError) := interrupts_of_stackFault indexName (.refused error)
  cases fits : Selection.fitsStack translationLevels query with
  | true =>
    rw [Selection.translate, Selection.translateWithin_of_fitsStack fits] at refused
    cases judged : Selection.ofQuery query sort with
    | ok selection => simp [judged, Except.mapError] at refused
    | error error =>
      simp only [judged, Except.mapError, Except.error.injEq] at refused
      exact refused ▸ raised error
  | false =>
    rcases Selection.translateWithin_of_not_fitsStack fits sort with failed | ⟨error, -, failed⟩
    · cases failed.symm.trans refused
      exact .inr .stack
    · cases failed.symm.trans refused
      exact raised error

/-- An answerable inquiry is answered with a slice of a listing, or with a complaint about its
query. -/
theorem Answerable.answer (represents : coordinator.index.Represents catalogue)
    (calm : ∀ indexName, coordinator.outages.failure? .search (some indexName) = none)
    (allowed : inquiry.Allowed coordinator.defaultPageSize)
    (answerable : inquiry.Answerable catalogue (inquiry.request allowed)) :
    (∃ listing request, listing ⊆ catalogue.documents ∧
        inquiry.answer coordinator = .ok (Page.slice listing request)) ∨
      ∃ error, inquiry.answer coordinator = .error (.query error) := by
  rw [answer_eq allowed]
  cases answerable with
  | unread error refused =>
    rw [refused]
    exact .inr ⟨error, rfl⟩
  | unmeant query error read refused =>
    rw [read]
    simp only [Coordinator.search, Option.getD_some, refused]
    exact .inr ⟨error, rfl⟩
  | runs query selection read translated preparable encodable rows =>
    have accepted := (Selection.translateWithin_eq_ok_iff.mp translated).1
    have fits : (inquiry.request allowed).fits = true :=
      (PageRequest.fits_iff _).mpr ⟨allowed.size, allowed.offset⟩
    rw [read]
    simp only
    rw [Coordinator.search_of_calm translated (calm inquiry.indexName),
      represents.search_eq_ok accepted preparable encodable fits (by simpa using rows)]
    exact .inl ⟨_, _, catalogue.listing_subset _ _ _, rfl⟩

/-- An inquiry is answerable, or its search is interrupted. -/
theorem answerable_or_interrupts (represents : coordinator.index.Represents catalogue)
    (calm : ∀ indexName, coordinator.outages.failure? .search (some indexName) = none)
    (allowed : inquiry.Allowed coordinator.defaultPageSize) :
    inquiry.Answerable catalogue (inquiry.request allowed) ∨
      ∃ failure, inquiry.answer coordinator = .error failure ∧
        Interrupts inquiry.indexName failure := by
  rw [answer_eq allowed]
  cases read : inquiry.query with
  | error failure =>
    rcases interrupts_of_query inquiry.indexName read with ⟨error, rfl⟩ | interrupts
    · exact .inl (.unread error read)
    · exact .inr ⟨failure, rfl, interrupts⟩
  | ok query =>
    simp only
    cases translated : Selection.translate query (inquiry.request allowed).sort with
    | error failure =>
      rcases interrupts_of_translate inquiry.indexName translated with ⟨error, rfl⟩ | interrupts
      · exact .inl (.unmeant query error read translated)
      · refine .inr ⟨failure, ?_, interrupts⟩
        rw [Coordinator.search, Option.getD_some, translated]
    | ok selection =>
      have accepted := (Selection.translateWithin_eq_ok_iff.mp translated).1
      have fits : (inquiry.request allowed).fits = true :=
        (PageRequest.fits_iff _).mpr ⟨allowed.size, allowed.offset⟩
      rw [Coordinator.search_of_calm translated (calm inquiry.indexName)]
      by_cases runs : selection.isPreparable = true ∧
          Selection.textsEncodable inquiry.indexName query (inquiry.request allowed).sort = true
      · obtain ⟨preparable, encodable⟩ := runs
        by_cases rows : (inquiry.request allowed).rows
            (catalogue.matching inquiry.indexName query).length ≤ parameterLimit
        · exact .inl (.runs query selection read translated preparable encodable rows)
        · exact .inr ⟨_, represents.search_of_crowded accepted preparable encodable fits
            (by simpa using rows), .limit _ rfl⟩
      · cases represents.refused accepted runs with
        | text fault kept answer => exact .inr ⟨_, answer, .text fault⟩
        | limit fault isLimit prepared answer => exact .inr ⟨_, answer, .limit fault isLimit⟩

/-- What is sent of a failure that ends a search. -/
theorem ofFailure_of_error {failure : Failure} :
    Http.Response.ofFailure failure = .ofAnswer (.error failure) := by
  cases failure <;> rfl

end

/-- The service sends and the command shows what a caller on a depot is answered. The settings of
the command may differ from those of the service in the number of fetches at once. -/
structure ReportedAlike (inquiry : Inquiry) (console : Console) (world : World) (config : Config)
    (depot : Coordinator) : Prop where
  sent : ∀ request, inquiry.Posted request →
    (Http.respond world config request).1 = .ofAnswer (inquiry.answer depot)
  shown : ∀ words environment dataFolder document settings,
    CommandLine.read words = .run ⟨.search (inquiry.arguments document), dataFolder⟩ →
    inquiry.IsDocument document →
    Command.settings world environment dataFolder = .ok settings → config.SameDepot settings →
    (Command.runWords console world environment words).1 =
      .ofAnswer console (inquiry.answer depot)

/-- An inquiry is answered alike: all three tell of one page, or of one complaint about the query,
and the console shows all that there is to show of it. -/
structure AnsweredAlike (inquiry : Inquiry) (console : Console) (world : World) (config : Config)
    (depot : Coordinator) : Prop extends inquiry.ReportedAlike console world config depot where
  outcome : (∃ page, inquiry.answer depot = .ok page) ∨
    ∃ error, inquiry.answer depot = .error (.query error)
  told : Report.ofAnswer console (inquiry.answer depot) = .ofTold (inquiry.answer depot)

section

variable {inquiry : Inquiry} {console : Console} {world : World} {config : Config}
  {depot other : Coordinator} {catalogue : Catalogue}

/-- What is answered is up to the index, the outages and the page size. -/
theorem answer_congr (index : other.index = depot.index) (outages : other.outages = depot.outages)
    (pageSize : other.defaultPageSize = depot.defaultPageSize) :
    inquiry.answer other = inquiry.answer depot := by
  have search (query : Option Query) (request : PageRequest) :
      other.search inquiry.indexName query (some request) =
        depot.search inquiry.indexName query (some request) := by
    rw [Coordinator.search, Coordinator.search, index, outages]
    rfl
  rw [answer, answer, pageSize]
  simp only [search]

/-- Inquiries about a catalogue of fileable documents with finite reals are reported alike. -/
theorem reportedAlike_of_represents
    (opened : (Coordinator.openDepot world config none).1 = .ok depot)
    (represents : depot.index.Represents catalogue)
    (calm : ∀ indexName, depot.outages.failure? .search (some indexName) = none)
    (fileable : ∀ document ∈ catalogue.documents, Field.areFileable document.fields = true)
    (finite : ∀ document ∈ catalogue.documents, document.isFinite = true)
    (allowed : inquiry.Allowed depot.defaultPageSize) :
    inquiry.ReportedAlike console world config depot := by
  have toldAlike : Command.answerReport console (inquiry.answer depot) =
        .ofAnswer console (inquiry.answer depot) ∧
      Http.Response.ofResult (fun page => .success (page.toDatum Metadata.toDatum))
        (inquiry.answer depot) = .ofAnswer (inquiry.answer depot) := by
    cases answered : inquiry.answer depot with
    | error failure => exact ⟨rfl, ofFailure_of_error⟩
    | ok page =>
      obtain ⟨listing, request, listed, rfl⟩ : ∃ listing request,
          listing ⊆ catalogue.documents ∧ page = Page.slice listing request := by
        rcases answerable_or_interrupts represents calm allowed with answerable | ⟨_, failed, -⟩
        · rcases answerable.answer represents calm allowed with
            ⟨listing, request, listed, sliced⟩ | ⟨error, failed⟩
          · exact ⟨listing, request, listed, Except.ok.inj (answered.symm.trans sliced)⟩
          · cases answered.symm.trans failed
        · cases answered.symm.trans failed
      obtain ⟨inListing, counted⟩ := Page.of_slice listing request
      constructor
      · apply Command.pageReport_eq _ counted
        intro document member
        exact ((Field.areFileable_iff _).mp (fileable document (listed (inListing member)))).2.2
      · exact Http.Response.success_page fun document member =>
          finite document (listed (inListing member))
  constructor
  · intro request posted
    rw [posted.respond opened allowed]
    exact toldAlike.2
  · intro words environment dataFolder document settings read isDocument settled same
    obtain ⟨other, otherOpened, index, outages, pageSize⟩ := same.openDepot opened
    have otherAllowed : inquiry.Allowed other.defaultPageSize := by
      rw [pageSize]
      exact allowed
    rw [runWords_eq otherOpened otherAllowed isDocument read settled,
      answer_congr index outages pageSize]
    exact toldAlike.1

/-- Inquiries that are reported alike are answered alike exactly when they are answerable and the
console shows all that there is to show of the answer. Every other search is interrupted. -/
theorem ReportedAlike.answeredAlike_iff
    (reported : inquiry.ReportedAlike console world config depot)
    (represents : depot.index.Represents catalogue)
    (calm : ∀ indexName, depot.outages.failure? .search (some indexName) = none)
    (allowed : inquiry.Allowed depot.defaultPageSize) :
    (inquiry.AnsweredAlike console world config depot ↔
        inquiry.Answerable catalogue (inquiry.request allowed) ∧
          Report.ofAnswer console (inquiry.answer depot) = .ofTold (inquiry.answer depot)) ∧
      (¬ inquiry.Answerable catalogue (inquiry.request allowed) →
        ∃ failure, inquiry.answer depot = .error failure ∧
          Interrupts inquiry.indexName failure) := by
  have either := answerable_or_interrupts represents calm allowed
  refine ⟨⟨fun alike => ⟨?_, alike.told⟩, fun ⟨answerable, told⟩ => ⟨reported, ?_, told⟩⟩,
    either.resolve_left⟩
  · rcases either with answerable | ⟨failure, failed, interrupts⟩
    · exact answerable
    · rcases alike.outcome with ⟨page, answered⟩ | ⟨error, failedToo⟩
      · cases failed.symm.trans answered
      · cases failed.symm.trans failedToo
        cases interrupts
  · rcases answerable.answer represents calm allowed with ⟨_, _, -, answered⟩ | failed
    · exact .inl ⟨_, answered⟩
    · exact .inr failed

end
end Inquiry

/-! ## Documents that have been filed -/

/-- A document of a catalogue with distinct keys is found under its key. -/
theorem Catalogue.find?_of_mem {catalogue : Catalogue}
    (distinct : (catalogue.documents.map Metadata.key).Nodup) {document : Metadata}
    (member : document ∈ catalogue.documents) :
    catalogue.find? document.indexName document.documentId = some document := by
  rw [find?]
  cases found : catalogue.documents.find? fun other =>
      other.key = (document.indexName, document.documentId) with
  | none => exact absurd (decide_eq_true rfl) (List.find?_eq_none.mp found document member)
  | some other =>
    have sameKey := List.find?_some found
    rw [decide_eq_true_eq] at sameKey
    rw [List.inj_on_of_nodup_map distinct (List.mem_of_find?_eq_some found) member sameKey]

/-- What has a property whenever it was filed last has it in tables that record it. -/
theorem Tables.Records.forall_documents {tables : Tables} {writes : List Write}
    (records : tables.Records writes) (property : Metadata → Prop)
    (each : ∀ indexName documentId, ∀ write ∈ Write.last? writes indexName documentId,
      property write.document) :
    ∃ catalogue, tables.Represents catalogue ∧
      ∀ document ∈ catalogue.documents, property document := by
  obtain ⟨catalogue, represents, agree⟩ := records
  refine ⟨catalogue, represents, fun document member => ?_⟩
  have found := Catalogue.find?_of_mem represents.distinct member
  rw [agree, Option.map_eq_some_iff] at found
  obtain ⟨write, isLast, rfl⟩ := found
  exact each _ _ write isLast

namespace Chronicle

section

variable {chronicle : Chronicle} {config : Config} {base : Option Path} {home : Location}

/-- All documents that were filed have only fields that can be filed. -/
def IsFileable (chronicle : Chronicle) : Prop :=
  ∀ write ∈ chronicle.writes, Field.areFileable write.document.fields = true

/-- A document that is filed has only fields that can be filed. -/
theorem areFileable_of_write? {coordinator : Coordinator} {event : DepotEvent} {write : Write}
    (wrote : event.write? coordinator = some write) :
    Field.areFileable write.document.fields = true := by
  have ofFile {filing : Coordinator} {indexName contentHash : Text} {options : IndexOptions}
      (succeeded : (filing.file indexName contentHash options).1.isOk = true) :
      Field.areFileable options.fields = true := by
    generalize outcome : filing.file indexName contentHash options = filed at succeeded
    obtain ⟨_ | placement, after⟩ := filed
    · cases succeeded
    · obtain ⟨-, -, -, fileable, -⟩ := Coordinator.of_file_ok outcome
      exact fileable
  cases event with
  | call indexCall =>
    cases indexCall with
    | file indexName contentHash options =>
      rw [DepotEvent.write?] at wrote
      split at wrote
      · rename_i succeeded
        cases wrote
        exact ofFile succeeded
      · cases wrote
    | _ => cases wrote
  | storeAndFile payload indexName options =>
    cases payload with
    | bytes data =>
      rw [DepotEvent.write?] at wrote
      split at wrote
      · rename_i succeeded
        cases wrote
        rcases coordinator.storeAndFile_cases (.bytes data) indexName options with
          ⟨failure, -, outcome⟩ | ⟨hash, -, outcome⟩
        · rw [outcome] at succeeded
          cases succeeded
        · rw [outcome] at succeeded
          exact ofFile succeeded
      · cases wrote
    | _ => cases wrote
  | _ => cases wrote

/-- Events keep to fields that can be filed. -/
theorem IsFileable.run {last : Chronicle} (fileable : chronicle.IsFileable)
    {events : List DepotEvent} (done : chronicle.run config base events = .ok last) :
    last.IsFileable := by
  induction events generalizing chronicle with
  | nil =>
    cases done
    exact fileable
  | cons event rest inductionHypothesis =>
    obtain ⟨next, undergone, doneRest⟩ := of_run_cons done
    refine inductionHypothesis (fun write member => ?_) doneRest
    rw [(of_undergo undergone).2] at member
    rcases of_mem_writesAfter member with before | wrote
    · exact fileable write before
    · exact areFileable_of_write? wrote

/-- A sound chronicle whose documents are fileable opens again with an index that has only fileable
documents, and only finite ones if all that were filed last are. -/
theorem Sound.reopen (sound : chronicle.Sound config base home) (fileable : chronicle.IsFileable) :
    ∃ depot catalogue,
      (Coordinator.openDepot chronicle.coordinator.close config base).1 = .ok depot ∧
      depot.index.Represents catalogue ∧ depot.outages = chronicle.coordinator.outages ∧
      (∀ document ∈ catalogue.documents, Field.areFileable document.fields = true) ∧
      ((∀ indexName documentId,
          ∀ write ∈ Write.last? chronicle.writes indexName documentId,
            write.document.isFinite = true) →
        ∀ document ∈ catalogue.documents, document.isFinite = true) := by
  obtain ⟨depot, opened, tables⟩ := sound.stocked.settled.reopen
  obtain ⟨-, isOpen, outages⟩ := Coordinator.settled_of_openDepot opened
  obtain ⟨catalogue, represents, each⟩ := sound.records.forall_documents
    (fun document => Field.areFileable document.fields = true ∧
      ((∀ indexName documentId, ∀ write ∈ Write.last? chronicle.writes indexName documentId,
        write.document.isFinite = true) → document.isFinite = true))
    fun indexName documentId write isLast => ⟨fileable write (List.mem_of_find?_eq_some isLast),
      fun finite => finite indexName documentId write isLast⟩
  by_cases inMemory : (config.resolvedIndex base).text = Coordinator.memoryPath
  · rw [if_pos inMemory] at tables
    refine ⟨depot, .empty, opened, ⟨isOpen, ?_⟩, outages, nofun, nofun⟩
    rw [tables]
    exact Tables.represents_empty
  · rw [if_neg inMemory] at tables
    refine ⟨depot, catalogue, opened, ⟨isOpen, ?_⟩, outages,
      fun document member => (each document member).1,
      fun finite document member => (each document member).2 finite⟩
    rw [tables]
    exact represents

end

/-- After any events in a depot that opened with an empty index and nothing in the folder of its
payloads, it can be opened again. If no document was filed with an infinite real and searches are
not replaced, the command, the service and a caller report the same of every inquiry with allowed
numbers. They tell of one page or one complaint about the query exactly if the inquiry is
answerable and the console shows all that there is to show, which a console that reads markup does
if that is plain. The search of any other inquiry is interrupted. -/
theorem run_searchesAlike {world : World} {config : Config} {coordinator : Coordinator}
    {home : Location}
    (opened : (Coordinator.openDepot world config none).1 = .ok coordinator)
    (newIndex : coordinator.index.tables = .empty)
    (located : coordinator.blobs.tree.locate coordinator.blobs.working
      (config.resolvedBlobs none) = .ok home)
    (newStore : ∀ names, names ≠ [] → coordinator.blobs.tree.at? (home ++ names) = none)
    (events : List DepotEvent) :
    ∃ last depot catalogue,
      Chronicle.run config none ⟨coordinator, [], []⟩ events = .ok last ∧
      (Coordinator.openDepot last.coordinator.close config none).1 = .ok depot ∧
      depot.index.Represents catalogue ∧
      ((∀ indexName documentId, ∀ write ∈ Write.last? last.writes indexName documentId,
          write.document.isFinite = true) →
        (∀ indexName, last.coordinator.outages.failure? .search (some indexName) = none) →
        ∀ (console : Console) (inquiry : Inquiry)
          (allowed : inquiry.Allowed depot.defaultPageSize),
          inquiry.ReportedAlike console last.coordinator.close config depot ∧
            (inquiry.AnsweredAlike console last.coordinator.close config depot ↔
              inquiry.Answerable catalogue (inquiry.request allowed) ∧
                Report.ofAnswer console (inquiry.answer depot) =
                  .ofTold (inquiry.answer depot)) ∧
            (¬ inquiry.Answerable catalogue (inquiry.request allowed) →
              ∃ failure, inquiry.answer depot = .error failure ∧
                Inquiry.Interrupts inquiry.indexName failure) ∧
            (console.ReadsMarkup → Report.isPlain (inquiry.answer depot) = true →
              Report.ofAnswer console (inquiry.answer depot) =
                .ofTold (inquiry.answer depot))) := by
  obtain ⟨last, done, sound, -, -⟩ :=
    (sound_of_openDepot opened newIndex located newStore).run events
  have fileable : last.IsFileable :=
    IsFileable.run (fun _ member => absurd member List.not_mem_nil) done
  obtain ⟨depot, catalogue, reopened, represents, outages, keepsFileable, keepsFinite⟩ :=
    sound.reopen fileable
  refine ⟨last, depot, catalogue, done, reopened, represents, ?_⟩
  intro finite calm console inquiry allowed
  have calmDepot (indexName : Text) :
      depot.outages.failure? .search (some indexName) = none := by
    rw [outages]
    exact calm indexName
  have reported : inquiry.ReportedAlike console last.coordinator.close config depot :=
    Inquiry.reportedAlike_of_represents reopened represents calmDepot keepsFileable
      (keepsFinite finite) allowed
  obtain ⟨alike, interrupted⟩ := reported.answeredAlike_iff represents calmDepot allowed
  exact ⟨reported, alike, interrupted, fun reads plain => Report.ofAnswer_eq_ofTold reads plain⟩

/-- A field with a small number. -/
def light : Field := ⟨"weight", .integer 3, by decide, by decide⟩

/-- A field with a greater number. -/
def heavy : Field := ⟨"weight", .integer 40, by decide, by decide⟩

/-- A light document and a heavy one. -/
def lightAndHeavy : List DepotEvent :=
  [.call (.file "d" "h" ⟨some "x", none, [light]⟩),
    .call (.file "d" "k" ⟨some "y", none, [heavy]⟩)]

/-- The same on an index alone. -/
def lightAndHeavyFiled : List IndexCall :=
  [.upsert "d" "x" "h" none [light], .upsert "d" "y" "k" none [heavy]]

/-- The heavy documents, with an empty name to sort by. -/
def inquiryOfHeavy : Inquiry :=
  ⟨"d", [("equals", .record [("field", .text "weight"), ("value", .integer 40)])], 0, none, some "",
    .ascending⟩

/-- The query document. -/
def documentOfHeavy : String :=
  "\x7b\"equals\":\x7b\"field\":\"weight\",\"value\":40\x7d\x7d"

/-- The body of a request for the inquiry. -/
def bodyOfHeavy : Datum :=
  .record [("query", .record inquiryOfHeavy.entries), ("sort", .text "")]

/-- The request. -/
def requestOfHeavy : Http.Request :=
  ⟨"POST", "/search/d", [], ⟨Utf8.write
    "\x7b\"query\":\x7b\"equals\":\x7b\"field\":\"weight\",\"value\":40\x7d\x7d,\"sort\":\"\"\x7d",
    true⟩⟩

/-- The words of the command for the inquiry. -/
def wordsOfHeavy : List String := ["search", "d", "--query", documentOfHeavy, "--sort", ""]

/-- The environment of the command. -/
def fileEnvironment : List (String × String) :=
  [("BLOBSEARCH_DATA_DIR", "data"), ("BLOBSEARCH_DB", "data/index")]

/-- The request posts the inquiry. -/
theorem posted_requestOfHeavy : inquiryOfHeavy.Posted requestOfHeavy :=
  ⟨by cbv, some bodyOfHeavy, by cbv, .form (by cbv)⟩

/-- The command reads the entries of the inquiry. -/
theorem isDocument_documentOfHeavy : inquiryOfHeavy.IsDocument (some documentOfHeavy) :=
  ⟨by cbv, nofun⟩

/-- The page of the heavy document. -/
def pageOfHeavy : Page Metadata := ⟨[⟨"d", "y", "k", none, [heavy]⟩], 1, 0, 20⟩

/-- The inquiry is answerable by every depot with pages for which statements have places. -/
theorem answerable_inquiryOfHeavy {catalogue : Catalogue} {defaultSize : Nat}
    (allowed : inquiryOfHeavy.Allowed defaultSize) (small : defaultSize ≤ parameterLimit) :
    inquiryOfHeavy.Answerable catalogue (inquiryOfHeavy.request allowed) := by
  have encodable : Selection.textsEncodable "d"
      (some (.equals (.text "weight") (.integer 40))) none = true := by decide
  exact .runs _ _ rfl rfl rfl encodable (PageRequest.rows_le_of_size small _)

/-- A caller on a depot of the two documents finds the heavy one. -/
theorem answer_inquiryOfHeavy {depot : Coordinator}
    (represents : depot.index.Represents (.after lightAndHeavyFiled))
    (noOutages : depot.outages = [])
    (pageSize : depot.defaultPageSize = 20) :
    inquiryOfHeavy.answer depot = .ok pageOfHeavy := by
  have allowed : inquiryOfHeavy.Allowed depot.defaultPageSize := by
    rw [pageSize]
    exact ⟨by decide, by decide, by decide⟩
  have fits : (inquiryOfHeavy.request allowed).fits = true :=
    (PageRequest.fits_iff _).mpr ⟨allowed.size, allowed.offset⟩
  have small : depot.defaultPageSize ≤ parameterLimit := by
    rw [pageSize]
    decide
  have calm (name : Text) : depot.outages.failure? .search (some name) = none := by
    rw [noOutages, Outages.failure?_nil]
  rw [Inquiry.answer_eq allowed]
  refine (Coordinator.search_of_represents represents calm rfl rfl rfl (by decide) fits
    (PageRequest.rows_le_of_size small _)).trans ?_
  let heavyOnes := (Catalogue.after lightAndHeavyFiled).matching "d"
    (some (.equals (.text "weight") (.integer 40)))
  change Except.ok (Page.mk
    ((heavyOnes.drop (0 * depot.defaultPageSize)).take depot.defaultPageSize)
    heavyOnes.length 0 depot.defaultPageSize) = .ok pageOfHeavy
  rw [pageSize]
  rfl

/-- The command, the service and a caller all find the heavy document. -/
theorem run_searchesAlike_heavy :
    (Coordinator.openDepot Session.emptyWorld Session.fileSettings none).1 =
        .ok Session.newDepot ∧
      (∀ names, names ≠ [] →
        Session.newDepot.blobs.tree.at? (["data", "blobs"] ++ names) = none) ∧
      ∃ last depot,
        Chronicle.run Session.fileSettings none ⟨Session.newDepot, [], []⟩ lightAndHeavy =
          .ok last ∧
        (Coordinator.openDepot last.coordinator.close Session.fileSettings none).1 = .ok depot ∧
        inquiryOfHeavy.AnsweredAlike .plain last.coordinator.close Session.fileSettings depot ∧
        inquiryOfHeavy.answer depot = .ok pageOfHeavy ∧
        (Http.respond last.coordinator.close Session.fileSettings requestOfHeavy).1 =
          .ofAnswer (.ok pageOfHeavy) ∧
        (Command.runWords .plain last.coordinator.close fileEnvironment wordsOfHeavy).1 =
          .ofTold (.ok pageOfHeavy) := by
  have opened : (Coordinator.openDepot Session.emptyWorld Session.fileSettings none).1 =
      .ok Session.newDepot := rfl
  obtain ⟨last, depot, catalogue, done, reopened, -, alike⟩ :=
    run_searchesAlike opened rfl rfl Session.at?_newDepot lightAndHeavy
  obtain ⟨represents, noOutages, noneBefore, pageSize, finite⟩ :
      depot.index.Represents (.after lightAndHeavyFiled) ∧ depot.outages = [] ∧
        last.coordinator.outages = [] ∧ depot.defaultPageSize = 20 ∧
        last.writes.all (fun write => write.document.isFinite) = true := by
    cases done
    cases reopened
    exact ⟨Connection.represents_after lightAndHeavyFiled, rfl, rfl, rfl, rfl⟩
  have finiteLast (indexName documentId : String) (write : Write)
      (isLast : write ∈ Write.last? last.writes indexName documentId) :
      write.document.isFinite = true :=
    List.all_eq_true.mp finite write (List.mem_of_find?_eq_some isLast)
  have calm (name : Text) : last.coordinator.outages.failure? .search (some name) = none := by
    rw [noneBefore, Outages.failure?_nil]
  have allowed : inquiryOfHeavy.Allowed depot.defaultPageSize := by
    rw [pageSize]
    exact ⟨by decide, by decide, by decide⟩
  have answered := answer_inquiryOfHeavy represents noOutages pageSize
  have answerable : inquiryOfHeavy.Answerable catalogue (inquiryOfHeavy.request allowed) :=
    answerable_inquiryOfHeavy allowed (by rw [pageSize]; decide)
  obtain ⟨reported, iff, -, plainIsTold⟩ := alike finiteLast calm .plain inquiryOfHeavy allowed
  rw [answered] at iff plainIsTold
  have told := plainIsTold Console.readsMarkup_plain (by decide)
  have sent := reported.sent requestOfHeavy posted_requestOfHeavy
  have shown := reported.shown wordsOfHeavy fileEnvironment none (some documentOfHeavy)
    Session.fileSettings rfl isDocument_documentOfHeavy rfl ⟨rfl, rfl, rfl, by decide⟩
  rw [answered] at sent shown
  exact ⟨opened, Session.at?_newDepot, last, depot, done, reopened, iff.mpr ⟨answerable, told⟩,
    answered, sent, shown.trans told⟩

/-- The documents with half of a surrogate pair, which no document can hold. -/
def inquiryOfHalf : Inquiry :=
  ⟨"d", [("equals", .record [("field", .text "a"), ("value", .text ⟨[.ofCode 0xD800]⟩)])], 0, none,
    none, .ascending⟩

/-- A query that no document can satisfy is answered neither with a page nor with a complaint. -/
theorem not_searchesAlike_half :
    (Coordinator.openDepot Session.emptyWorld Session.fileSettings none).1 =
        .ok Session.newDepot ∧
      inquiryOfHalf.Allowed Session.newDepot.defaultPageSize ∧
      ∀ console, ¬ inquiryOfHalf.AnsweredAlike console Session.emptyWorld Session.fileSettings
        Session.newDepot := by
  refine ⟨rfl, ⟨by decide, by decide, by decide⟩, fun console alike => ?_⟩
  have failed : inquiryOfHalf.answer Session.newDepot = .error (.encoding _) := rfl
  rcases alike.outcome with ⟨page, answered⟩ | ⟨error, failedToo⟩
  · cases failed.symm.trans answered
  · cases failed.symm.trans failedToo

end Chronicle

end Depot
