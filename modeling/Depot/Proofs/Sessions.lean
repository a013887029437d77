import Depot.Proofs.Answering
import Depot.Proofs.FilingPromise
import Depot.Proofs.Reopening
import Depot.Proofs.Translating

/-!
# What a depot shows after calls

A session runs calls on a depot beside the catalogue that its callers expect: what succeeds is
entered into the catalogue, and what fails is not. Closing a depot and opening it again leaves the
catalogue, unless the index is kept in memory only. After any calls the depot shows its catalogue.
-/

namespace Depot

/-- A call on a depot that can change its index. -/
inductive DepotCall where
  | createIndex (indexName : Text)
  | file (indexName contentHash : Text) (options : IndexOptions)
  | closeIndex
  | reopen

/-- Whether a depot is open after a call. -/
def DepotCall.leavesOpen (isOpen : Bool) : DepotCall → Bool
  | .createIndex _ => isOpen
  | .file _ _ _ => isOpen
  | .closeIndex => false
  | .reopen => true

/-- A depot beside the catalogue that its callers expect. -/
structure Session where
  coordinator : Coordinator
  catalogue : Catalogue

namespace Coordinator

/-- The document that a call files. -/
def document (coordinator : Coordinator) (indexName contentHash : Text)
    (options : IndexOptions) : Metadata :=
  ⟨indexName.toStringLossy, (coordinator.targetId options).toStringLossy,
    contentHash.toStringLossy, options.contentType.map Text.toStringLossy, options.fields⟩

/-- A depot shows a catalogue: searches without a query and an order list the documents of an
index in the order of the catalogue, in pages that have no more rows than a statement has places,
a look-up finds the document of its key and no other, and the names of the indexes are those of the
catalogue, once each in ascending order. -/
structure Shows (coordinator : Coordinator) (catalogue : Catalogue) : Prop where
  listed : ∀ (indexName : String) (request : PageRequest), request.sort = none →
    request.fits = true → request.rows (catalogue.inIndex indexName).length ≤ parameterLimit →
    ∃ page, coordinator.search indexName none (some request) = .ok page ∧
      page.content =
        ((catalogue.inIndex indexName).drop (request.page * request.size)).take request.size ∧
      page.totalElements = (catalogue.inIndex indexName).length
  crowded : ∀ (indexName : String) (request : PageRequest), request.sort = none →
    request.fits = true → parameterLimit < request.rows (catalogue.inIndex indexName).length →
    coordinator.search indexName none (some request) =
      .error (.indexUnavailable (.cannotSearch indexName .tooManyParameters))
  found : ∀ indexName documentId : String,
    coordinator.metadata indexName (.text documentId) =
      .ok (catalogue.find? indexName documentId)
  named : ∃ names, coordinator.index.indexNames = .ok names ∧
    names.Perm catalogue.indexNames ∧ names.Pairwise (· < ·)

/-- A search that is translated and not replaced is up to the index. -/
theorem search_of_calm {coordinator : Coordinator} {indexName : Text} {query : Option Query}
    {request : PageRequest} {selection : Selection}
    (translated : Selection.translate query request.sort = .ok selection)
    (calm : coordinator.outages.failure? .search (some indexName) = none) :
    coordinator.search indexName query (some request) =
      coordinator.index.search indexName selection request := by
  rw [search, Option.getD_some, translated]
  simp only [calm]

section

variable {coordinator : Coordinator} {catalogue : Catalogue}

/-- An open index with the tables of a catalogue lists it. -/
theorem search_of_represents (represents : coordinator.index.Represents catalogue)
    (calm : ∀ indexName, coordinator.outages.failure? .search (some indexName) = none)
    {query : Option Query} {selection : Selection} {request : PageRequest} {indexName : String}
    (noSort : request.sort = none) (translated : Selection.translate query none = .ok selection)
    (preparable : selection.isPreparable = true)
    (encodable : Selection.textsEncodable indexName query none = true)
    (fits : request.fits = true)
    (rows : request.rows (catalogue.matching indexName query).length ≤ parameterLimit) :
    coordinator.search indexName query (some request) =
      .ok (Page.slice (catalogue.matching indexName query) request) := by
  rw [← noSort] at translated encodable
  have accepted := (Selection.translateWithin_eq_ok_iff.mp translated).1
  rw [search_of_calm translated (calm indexName),
    represents.search_eq_ok accepted preparable encodable fits (by simpa using rows), noSort,
    Catalogue.listing_of_no_sort, Text.toStringLossy_ofString]

/-- The query for an identifier is true of the document with that identifier. -/
theorem holds_identifier (document : Metadata) (documentId : String) :
    (Query.equals (.text FieldName.identifier) (.text documentId)).holds document =
      decide (document.documentId = documentId) := by
  change ((Text.ofString document.documentId == Text.ofString documentId) || false) = _
  rw [Bool.or_false, Bool.eq_iff_iff, beq_iff_eq, decide_eq_true_eq, Text.ofString_inj]

/-- An open index with the tables of a catalogue finds its documents. -/
theorem metadata_of_represents (represents : coordinator.index.Represents catalogue)
    (calm : ∀ indexName, coordinator.outages.failure? .search (some indexName) = none)
    (indexName documentId : String) :
    coordinator.metadata indexName (.text documentId) =
      .ok (catalogue.find? indexName documentId) := by
  have translated : Selection.translate
      (some (.equals (.text FieldName.identifier) (.text documentId))) none = .ok _ := rfl
  have encodable : Selection.textsEncodable indexName
      (some (.equals (.text FieldName.identifier) (.text documentId))) none = true := by
    simp [Selection.textsEncodable, Query.equals, Query.isEncodable, QueryKind.leafIsEncodable,
      QueryKind.tested, SortOrder.isEncodable, FieldName.identifier]
  rw [metadata, search_of_represents represents calm rfl translated rfl encodable rfl
    (PageRequest.rows_le_of_size (show 1 ≤ parameterLimit by decide) _)]
  change Except.ok (((catalogue.matching indexName _).take 1).head?) = _
  rw [List.head?_take, Catalogue.matching, Catalogue.inIndex, List.filter_filter,
    List.head?_filter, Catalogue.find?]
  simp [holds_identifier, Metadata.key, Bool.and_comm]

/-- An open index with the tables of a catalogue shows it. -/
theorem shows_of_represents (represents : coordinator.index.Represents catalogue)
    (calm : ∀ indexName, coordinator.outages.failure? .search (some indexName) = none) :
    coordinator.Shows catalogue where
  listed := by
    intro indexName request noSort fits rows
    have translated : Selection.translate none none = .ok _ := rfl
    have encodable : Selection.textsEncodable indexName none none = true := by
      simp [Selection.textsEncodable, SortOrder.isEncodable]
    rw [← catalogue.matching_none] at rows ⊢
    exact ⟨_, search_of_represents represents calm noSort translated rfl encodable fits rows, rfl,
      rfl⟩
  crowded := by
    intro indexName request noSort fits crowded
    have translated : Selection.translate none request.sort = .ok .everything := by
      rw [noSort]
      rfl
    have accepted := (Selection.translateWithin_eq_ok_iff.mp translated).1
    have encodable : Selection.textsEncodable indexName none request.sort = true := by
      simp [Selection.textsEncodable, SortOrder.isEncodable, noSort]
    rw [← catalogue.matching_none] at crowded
    rw [search_of_calm translated (calm indexName)]
    exact represents.search_of_crowded accepted rfl encodable fits (by simpa using crowded)
  found := metadata_of_represents represents calm
  named := by
    have names := represents.tables.indexNames
    refine ⟨_, if_pos represents.isOpen, ?_, ?_⟩
    · rw [names]
      exact List.mergeSort_perm _ _
    · have ascending : (coordinator.index.tables.indexNames.mergeSort fun left right =>
          decide (left ≤ right)).Pairwise fun left right => decide (left ≤ right) = true :=
        List.pairwise_mergeSort (by simpa using fun _ _ _ => String.le_trans)
          (by simpa using String.le_total) _
      have distinct := (List.mergeSort_perm coordinator.index.tables.indexNames
        fun left right => decide (left ≤ right)).nodup_iff.mpr
        (by rw [names]; exact represents.tables.distinctNames)
      refine (ascending.and distinct).imp ?_
      rintro left right ⟨ordered, different⟩
      rw [decide_eq_true_eq] at ordered
      exact String.not_le.mp fun reversed => different (String.le_antisymm ordered reversed)

/-- The index decides about a name that can be encoded. -/
theorem createIndex_of_encodable {indexName : Text}
    (calm : coordinator.outages.failure? .createIndex (some indexName) = none)
    (encodable : indexName.isEncodable = true) :
    coordinator.createIndex indexName =
      ((coordinator.index.createIndex indexName.toStringLossy).1,
        { coordinator with
          index := (coordinator.index.createIndex indexName.toStringLossy).2 }) := by
  rw [createIndex, calm, Text.encode_of_isEncodable encodable]

/-- Making an index either succeeds and leaves the tables with the name, or fails and changes
nothing. -/
theorem createIndex_cases (coordinator : Coordinator) (indexName : Text) :
    ((coordinator.createIndex indexName).1.isOk = true ∧
        (coordinator.createIndex indexName).2 = { coordinator with
          index := { coordinator.index with
            tables := coordinator.index.tables.addIndexName indexName.toStringLossy } }) ∨
      ((coordinator.createIndex indexName).1.isOk = false ∧
        (coordinator.createIndex indexName).2 = coordinator) := by
  cases outage : coordinator.outages.failure? .createIndex (some indexName) with
  | some failure =>
    rw [createIndex, outage]
    exact .inr ⟨rfl, rfl⟩
  | none =>
    cases encodable : indexName.isEncodable with
    | false =>
      obtain ⟨fault, failed⟩ := Text.encode_of_not_isEncodable encodable
      rw [createIndex, outage, failed]
      exact .inr ⟨rfl, rfl⟩
    | true =>
      rw [createIndex_of_encodable outage encodable]
      cases isOpen : coordinator.index.isOpen with
      | true =>
        rw [Connection.createIndex_of_open isOpen]
        exact .inl ⟨rfl, rfl⟩
      | false =>
        rw [Connection.createIndex, Connection.transact, isOpen]
        exact .inr ⟨rfl, rfl⟩

/-- Filing either succeeds and leaves the tables with the document, or fails and changes nothing
but the number of identifiers that have been issued. -/
theorem file_cases (coordinator : Coordinator) (indexName contentHash : Text)
    (options : IndexOptions) :
    ∃ issued, ((coordinator.file indexName contentHash options).1.isOk = true ∧
        (∀ field ∈ options.fields, field.isEncodable = true) ∧
        (coordinator.file indexName contentHash options).2 = { coordinator with
          issued := issued
          index := { coordinator.index with
            tables := Work.filed coordinator.index.tables indexName.toStringLossy
              (coordinator.targetId options).toStringLossy contentHash.toStringLossy
              (options.contentType.map Text.toStringLossy) options.fields } }) ∨
      ((coordinator.file indexName contentHash options).1.isOk = false ∧
        (coordinator.file indexName contentHash options).2 =
          { coordinator with issued := issued }) := by
  cases outage : coordinator.outages.failure? .upsert (some indexName) with
  | some failure =>
    refine ⟨coordinator.issued, .inr ?_⟩
    rw [file, outage]
    exact ⟨rfl, rfl⟩
  | none =>
    refine ⟨(coordinator.chosen options).issued, ?_⟩
    cases encodable : coordinator.partsEncodable indexName contentHash options with
    | false =>
      obtain ⟨fault, failed⟩ := file_of_not_partsEncodable outage encodable
      rw [failed]
      exact .inr ⟨rfl, rfl⟩
    | true =>
      rw [file_of_partsEncodable outage encodable]
      rcases coordinator.index.upsert_cases indexName.toStringLossy
        (coordinator.targetId options).toStringLossy contentHash.toStringLossy
        (options.contentType.map Text.toStringLossy) options.fields with
        ⟨isOpen, fileable, filed⟩ | ⟨-, failure, failed⟩
      · rw [filed]
        exact .inl ⟨rfl, ((Field.areFileable_iff options.fields).mp fileable).2.1, rfl⟩
      · rw [failed]
        exact .inr ⟨rfl, rfl⟩

end
end Coordinator

/-- The depot after a call, or the failure to open it again. -/
def Coordinator.perform (config : Config) (base : Option Path) (coordinator : Coordinator) :
    DepotCall → Except Failure Coordinator
  | .createIndex indexName => .ok (coordinator.createIndex indexName).2
  | .file indexName contentHash options => .ok (coordinator.file indexName contentHash options).2
  | .closeIndex => .ok coordinator.closeIndex
  | .reopen => (Coordinator.openDepot coordinator.close config base).1

/-- The catalogue that is expected after a call on a depot: what succeeds is entered, and only an
index in memory is lost when the depot is opened again. -/
def Catalogue.expect (config : Config) (base : Option Path) (coordinator : Coordinator)
    (catalogue : Catalogue) : DepotCall → Catalogue
  | .createIndex indexName =>
    if (coordinator.createIndex indexName).1.isOk then
      catalogue.addIndex indexName.toStringLossy
    else catalogue
  | .file indexName contentHash options =>
    if (coordinator.file indexName contentHash options).1.isOk then
      catalogue.file (coordinator.document indexName contentHash options)
    else catalogue
  | .closeIndex => catalogue
  | .reopen =>
    if (config.resolvedIndex base).text = Coordinator.memoryPath then .empty else catalogue

namespace Session

/-- The session after a call, or the failure to open the depot again. -/
def perform (config : Config) (base : Option Path) (session : Session) (call : DepotCall) :
    Except Failure Session := do
  let coordinator ← session.coordinator.perform config base call
  .ok ⟨coordinator, session.catalogue.expect config base session.coordinator call⟩

/-- The session after calls. -/
def run (config : Config) (base : Option Path) (session : Session) (calls : List DepotCall) :
    Except Failure Session :=
  calls.foldlM (perform config base) session

/-- A session whose depot can be opened again and has the tables of the catalogue. -/
structure Sound (session : Session) (config : Config) (base : Option Path) : Prop where
  settled : session.coordinator.Settled config base
  tables : session.coordinator.index.tables.Represents session.catalogue

section

variable {config : Config} {base : Option Path} {session : Session}

/-- Every call leaves a sound session. -/
theorem Sound.perform (sound : session.Sound config base) (call : DepotCall) :
    ∃ coordinator, session.coordinator.perform config base call = .ok coordinator ∧
      (Session.mk coordinator
        (session.catalogue.expect config base session.coordinator call)).Sound config base ∧
      coordinator.index.isOpen = call.leavesOpen session.coordinator.index.isOpen ∧
      coordinator.outages = session.coordinator.outages := by
  obtain ⟨settled, tables⟩ := sound
  cases call with
  | createIndex indexName =>
    refine ⟨_, rfl, ?_⟩
    rw [Catalogue.expect]
    rcases session.coordinator.createIndex_cases indexName with
      ⟨succeeded, after⟩ | ⟨failed, after⟩
    · rw [after, succeeded]
      exact ⟨⟨settled.of_eq rfl rfl, tables.addIndexName indexName.toStringLossy⟩, rfl, rfl⟩
    · rw [after, failed]
      exact ⟨⟨settled, tables⟩, rfl, rfl⟩
  | file indexName contentHash options =>
    refine ⟨_, rfl, ?_⟩
    rw [Catalogue.expect]
    obtain ⟨issued, ⟨succeeded, encodable, after⟩ | ⟨failed, after⟩⟩ :=
      session.coordinator.file_cases indexName contentHash options
    · rw [after, succeeded]
      let document := session.coordinator.document indexName contentHash options
      have kept : ∀ field ∈ document.fields, field.isEncodable = true := encodable
      exact ⟨⟨settled.of_eq rfl rfl, tables.filed kept⟩, rfl, rfl⟩
    · rw [after, failed]
      exact ⟨⟨settled.of_eq rfl rfl, tables⟩, rfl, rfl⟩
  | closeIndex => exact ⟨_, rfl, ⟨settled.of_eq rfl rfl, tables⟩, rfl, rfl⟩
  | reopen =>
    obtain ⟨reopened, opened, found⟩ := settled.reopen
    obtain ⟨settledAgain, isOpen, outages⟩ := Coordinator.settled_of_openDepot opened
    refine ⟨reopened, opened, ⟨settledAgain, ?_⟩, isOpen, outages⟩
    rw [Catalogue.expect, found]
    split
    · exact Tables.represents_empty
    · exact tables

/-- Calls leave a sound session. -/
theorem Sound.run (sound : session.Sound config base) (calls : List DepotCall) :
    ∃ last, session.run config base calls = .ok last ∧ last.Sound config base ∧
      last.coordinator.index.isOpen =
        calls.foldl DepotCall.leavesOpen session.coordinator.index.isOpen ∧
      last.coordinator.outages = session.coordinator.outages := by
  induction calls generalizing session with
  | nil => exact ⟨session, rfl, sound, rfl, rfl⟩
  | cons call rest inductionHypothesis =>
    obtain ⟨coordinator, performed, soundNext, nextOpen, sameOutages⟩ := sound.perform call
    obtain ⟨last, done, soundLast, lastOpen, outages⟩ := inductionHypothesis soundNext
    refine ⟨last, ?_, soundLast, ?_, outages.trans sameOutages⟩
    · rw [Session.run, List.foldlM_cons, Session.perform, performed]
      exact done
    · rw [lastOpen, nextOpen, List.foldl_cons]

/-- Calls on a depot that opened with an empty index leave a sound session with the outages that
there were. Its index represents the catalogue unless the depot has been closed since. -/
theorem exists_sound_run {world : World} {coordinator : Coordinator}
    (opened : (Coordinator.openDepot world config base).1 = .ok coordinator)
    (new : coordinator.index.tables = .empty) (calls : List DepotCall) :
    ∃ last, Session.run config base ⟨coordinator, .empty⟩ calls = .ok last ∧
      last.Sound config base ∧ last.coordinator.outages = world.outages ∧
      (calls.foldl DepotCall.leavesOpen true = true →
        last.coordinator.index.Represents last.catalogue) := by
  obtain ⟨settled, openFirst, outages⟩ := Coordinator.settled_of_openDepot opened
  have represents : coordinator.index.tables.Represents .empty := by
    rw [new]
    exact Tables.represents_empty
  have sound : (Session.mk coordinator .empty).Sound config base := ⟨settled, represents⟩
  obtain ⟨last, done, soundLast, lastOpen, sameOutages⟩ := sound.run calls
  refine ⟨last, done, soundLast, sameOutages.trans outages, fun openLast => ⟨?_, soundLast.tables⟩⟩
  rw [lastOpen, openFirst]
  exact openLast

/-- A depot that opens with an empty index shows, after any calls, what succeeded: making an index
adds its name, filing puts the document at the end or in the place of the one with its key, and
calls that fail, closing and opening again change nothing, apart from an index in memory, which
is empty after it has been opened again. The depot can always be opened again, and shows its
catalogue unless it has been closed since. -/
theorem run_shows {world : World} {coordinator : Coordinator}
    (opened : (Coordinator.openDepot world config base).1 = .ok coordinator)
    (new : coordinator.index.tables = .empty)
    (calm : ∀ indexName, world.outages.failure? .search (some indexName) = none)
    (calls : List DepotCall) :
    ∃ session, Session.run config base ⟨coordinator, .empty⟩ calls = .ok session ∧
      (calls.foldl DepotCall.leavesOpen true = true →
        session.coordinator.Shows session.catalogue) := by
  obtain ⟨session, done, -, outages, represents⟩ := exists_sound_run opened new calls
  refine ⟨session, done, fun openLast => ?_⟩
  apply Coordinator.shows_of_represents (represents openLast)
  rw [outages]
  exact calm

/-- An empty tree. -/
def emptyWorld : World := ⟨.empty, [], 0, []⟩

/-- Settings with the index in a file of the data folder. -/
def fileSettings : Config :=
  ⟨⟨.relative, ["data"]⟩, ⟨.relative, ["data", "index"]⟩, ⟨.relative, ["data", "blobs"]⟩, 20, 8⟩

/-- The depot that opens in an empty tree. -/
def newDepot : Coordinator :=
  .opened emptyWorld fileSettings none ⟨[(["data"], .folder), (["data", "blobs"], .folder)]⟩ .empty
    (by decide) (by decide)

/-- A document is filed twice with other fields, one that is no number is refused, and the depot
is opened again. -/
def filedTwice : List DepotCall :=
  [.file "d" "h" ⟨some "x", none, [⟨"first", .text "one", by decide, rfl⟩]⟩,
    .file "d" "k" ⟨some "x", none, [⟨"second", .text "two", by decide, rfl⟩]⟩,
    .file "d" "h" ⟨some "y", none, [⟨"first", .real .nan, by decide, rfl⟩]⟩,
    .reopen]

/-- The second document is shown in the place of the first, without its field. -/
theorem run_shows_filedTwice :
    (Coordinator.openDepot emptyWorld fileSettings none).1 = .ok newDepot ∧
      ∃ session, Session.run fileSettings none ⟨newDepot, .empty⟩ filedTwice = .ok session ∧
        session.catalogue.documents =
          [⟨"d", "x", "k", none, [⟨"second", .text "two", by decide, rfl⟩]⟩] ∧
        session.coordinator.Shows session.catalogue := by
  have opened : (Coordinator.openDepot emptyWorld fileSettings none).1 = .ok newDepot := rfl
  obtain ⟨session, done, shows⟩ := run_shows opened rfl (fun _ => rfl) filedTwice
  have computed : Session.run fileSettings none ⟨newDepot, .empty⟩ filedTwice = .ok _ := rfl
  rw [computed] at done
  cases done
  exact ⟨opened, _, computed, rfl, shows rfl⟩

/-- Settings with the index in memory only. -/
def memorySettings : Config := { fileSettings with indexPath := ⟨.relative, [":memory:"]⟩ }

/-- Opening a depot again that has its index in memory takes the documents away: a document that
has been filed is not shown. -/
theorem not_shows_reopened :
    ∃ coordinator filed reopened placement,
      (Coordinator.openDepot emptyWorld memorySettings none).1 = .ok coordinator ∧
      coordinator.file "d" "h" ⟨some "x", none, []⟩ = (.ok placement, filed) ∧
      (Coordinator.openDepot filed.close memorySettings none).1 = .ok reopened ∧
      ¬ reopened.Shows (Catalogue.empty.file ⟨"d", "x", "h", none, []⟩) := by
  refine ⟨_, _, _, _, rfl, rfl, rfl, ?_⟩
  intro shows
  obtain ⟨names, listed, same, -⟩ := shows.named
  cases listed
  have lengths := same.length_eq
  rw [List.length_mergeSort] at lengths
  exact Nat.zero_ne_one lengths

end
end Session
end Depot
