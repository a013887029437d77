import Depot.Proofs.Chronicle
import Depot.Proofs.Gathering

/-!
# Documents with their payloads

A document is looked up in the index and its payload in the store, and the two know nothing of each
other. Still, after any events without damage, a document comes back with the payload that was
stored for it, and one that points at a digest of which nothing was stored is never taken for one
that was not filed. Searching for the identifier agrees with retrieving the document.
-/

namespace Depot

namespace Catalogue

/-- Among documents with distinct keys at most one has a key. -/
theorem filter_key_eq_find? {documents : List Metadata}
    (distinct : (documents.map Metadata.key).Nodup) (key : String × String) :
    documents.filter (fun document => decide (document.key = key)) =
      (documents.find? fun document => decide (document.key = key)).toList := by
  induction documents with
  | nil => rfl
  | cons document rest inductionHypothesis =>
    rw [List.map_cons, List.nodup_cons] at distinct
    by_cases isKey : document.key = key
    · have noOther : rest.filter (fun other => decide (other.key = key)) = [] := by
        rw [List.filter_eq_nil_iff]
        intro other member sameKey
        rw [decide_eq_true_eq, ← isKey] at sameKey
        exact distinct.1 (sameKey ▸ List.mem_map_of_mem member)
      simp [isKey, noOther]
    · simp [isKey, inductionHypothesis distinct.2]

/-- The documents that the query for an identifier is true of. -/
theorem matching_identifier {catalogue : Catalogue}
    (distinct : (catalogue.documents.map Metadata.key).Nodup) (indexName documentId : String) :
    catalogue.matching indexName
        (some (.equals (.text FieldName.identifier) (.text documentId))) =
      (catalogue.find? indexName documentId).toList := by
  rw [find?, ← filter_key_eq_find? distinct, matching, inIndex, List.filter_filter]
  congr 1
  funext document
  simp [Coordinator.holds_identifier, Metadata.key, Bool.and_comm]

end Catalogue

namespace Coordinator

/-- The query for an identifier. -/
def identifierQuery (documentId : String) : Query :=
  .equals (.text FieldName.identifier) (.text documentId)

/-- How a depot that keeps payloads answers for a key, given the last write under it. Without one
there is neither a document nor a payload, and nothing is fetched. A document comes back with the
payload that was stored for it, or with the one that is kept under the digest that it points at; if
none is, that is reported, as a missing payload unless the path of the digest is too long. A first
page of a search for the identifier has what retrieving gives. -/
structure Retrieves (coordinator : Coordinator) (kept : List (List UInt8))
    (indexName documentId : String) (write : Option Write) : Prop where
  absent : write = none → ∀ fetching : Fetching,
    coordinator.retrieveBy fetching indexName (.text documentId) = .ok ⟨none, []⟩
  stored : ∀ document payload, write = some ⟨document, some payload⟩ →
    coordinator.retrieve indexName (.text documentId) = .ok ⟨some document, payload⟩
  pointed : ∀ document payload, write = some ⟨document, none⟩ → payload ∈ kept →
    document.contentHash = Sha256.hexDigest payload →
    coordinator.retrieve indexName (.text documentId) = .ok ⟨some document, payload⟩
  missing : ∀ document, write = some ⟨document, none⟩ →
    (∀ payload ∈ kept, document.contentHash ≠ Sha256.hexDigest payload) →
    coordinator.retrieve indexName (.text documentId) =
        .error (.notFound (.payload (.text document.contentHash))) ∨
      ¬ (coordinator.blobs.pathOf document.contentHash).IsShort ∧
        ∃ fault, coordinator.retrieve indexName (.text documentId) =
          .error (.storeUnavailable fault)
  searched : ∀ (completion : Nat → List Nat) (request : Option PageRequest) (wanted : Option Int),
    (∀ count, (completion count).Perm (List.range count)) →
    (request.getD coordinator.firstPage).page = 0 →
    (request.getD coordinator.firstPage).sort = none →
    fitsInteger (request.getD coordinator.firstPage).size = true →
    ∃ page, coordinator.searchAndFetchBy coordinator.fetching completion indexName
        (some (identifierQuery documentId)) request wanted = .ok page ∧
      page.totalElements = (if write.isSome then 1 else 0) ∧
      (∀ found, coordinator.retrieve indexName (.text documentId) = .ok found →
        page.content = if found.found then [found] else []) ∧
      ∀ failure, coordinator.retrieve indexName (.text documentId) = .error failure →
        page.content = []

section

variable {coordinator : Coordinator} {catalogue : Catalogue} {home : Location}
  {kept : List (List UInt8)} {indexName documentId : String}

/-- A look-up that finds no document ends there. -/
theorem retrieveBy_of_none
    (unknown : coordinator.metadata indexName (.text documentId) = .ok none)
    (fetching : Fetching) :
    coordinator.retrieveBy fetching indexName (.text documentId) = .ok ⟨none, []⟩ := by
  rw [retrieveBy, unknown]
  rfl

/-- A look-up that finds a document gives it with what is fetched for it. -/
theorem retrieveBy_of_some {document : Metadata}
    (known : coordinator.metadata indexName (.text documentId) = .ok (some document))
    (fetching : Fetching) :
    coordinator.retrieveBy fetching indexName (.text documentId) =
      (fetching document.contentHash).map fun payload => ⟨some document, payload⟩ := by
  rw [retrieveBy, known]
  simp only [bind, Except.bind]
  cases fetching document.contentHash <;> rfl

/-- Without an outage, payloads are fetched from the store. -/
theorem fetching_of_calm
    (calm : ∀ hash : String, coordinator.outages.failure? .fetch (some hash) = none)
    (hash : String) : coordinator.fetching hash = coordinator.blobs.fetch (.text hash) := by
  have noOutage : coordinator.outages.failure? .fetch (Datum.text hash).text? = none := calm hash
  rw [fetching, fetch, noOutage]

/-- Whatever comes of a fetch from a store that keeps payloads, a search can go on. -/
theorem passes_of_keeps (keeps : coordinator.blobs.Keeps home kept)
    (calm : ∀ hash : String, coordinator.outages.failure? .fetch (some hash) = none)
    (document : Metadata) : Passes coordinator.fetching document := by
  intro failure failed
  rw [fetching_of_calm calm] at failed
  cases keeps.fetched document.contentHash with
  | found payload member isHash fetched held =>
    rw [fetched] at failed
    cases failed
  | missing absent fetched held =>
    rw [fetched] at failed
    cases failed
    rfl
  | outOfReach digest isHash hexadecimal long absent fetched held =>
    rw [fetched] at failed
    cases failed
    rfl

/-- A first page of a search for an identifier has the document of the key, if its payload can be
had. -/
theorem searchAndFetchBy_identifier (represents : coordinator.index.Represents catalogue)
    (keeps : coordinator.blobs.Keeps home kept)
    (searchable : ∀ name, coordinator.outages.failure? .search (some name) = none)
    (fetchable : ∀ hash : String, coordinator.outages.failure? .fetch (some hash) = none)
    {completion : Nat → List Nat} {request : Option PageRequest}
    (whole : ∀ count, (completion count).Perm (List.range count))
    (first : (request.getD coordinator.firstPage).page = 0)
    (noSort : (request.getD coordinator.firstPage).sort = none)
    (fits : fitsInteger (request.getD coordinator.firstPage).size = true) (wanted : Option Int) :
    ∃ page, coordinator.searchAndFetchBy coordinator.fetching completion indexName
        (some (identifierQuery documentId)) request wanted = .ok page ∧
      page.content = (catalogue.find? indexName documentId).toList.filterMap
        (joined? coordinator.fetching) ∧
      page.totalElements = (catalogue.find? indexName documentId).toList.length := by
  have translated : Selection.translate (some (identifierQuery documentId)) none = .ok _ := rfl
  have encodable : Selection.textsEncodable indexName (some (identifierQuery documentId)) none =
      true := by
    simp [Selection.textsEncodable, identifierQuery, Query.equals, Query.isEncodable,
      QueryKind.leafIsEncodable, QueryKind.tested, SortOrder.isEncodable, FieldName.identifier]
  have start : (request.getD coordinator.firstPage).offset = 0 := by
    rw [PageRequest.offset, first, Nat.zero_mul]
  have bothFit : (request.getD coordinator.firstPage).fits = true := by
    rw [PageRequest.fits, fits, start]
    rfl
  have answered : coordinator.search indexName (some (identifierQuery documentId)) request =
      .ok (Page.slice (catalogue.find? indexName documentId).toList
        (request.getD coordinator.firstPage)) := by
    have few := ((request.getD coordinator.firstPage).rows_le_total _).trans
      (Option.length_toList_le (o := catalogue.find? indexName documentId))
    rw [← Catalogue.matching_identifier represents.tables.distinct] at few ⊢
    exact search_of_represents represents searchable noSort translated rfl encodable bothFit
      (few.trans (show 1 ≤ parameterLimit by decide))
  -- A listing of at most one document is whole on its first page.
  have onePage : (Page.slice (catalogue.find? indexName documentId).toList
      (request.getD coordinator.firstPage)).content =
        (catalogue.find? indexName documentId).toList := by
    rw [Page.slice, start, List.drop_zero, List.take_of_length_le]
    exact Nat.le_trans Option.length_toList_le (request.getD coordinator.firstPage).size_pos
  have promise := coordinator.joinsPayloads_searchInTurn coordinator.fetching indexName
    (some (identifierQuery documentId)) request
  have joined := promise.joined _ answered fun document _ =>
    passes_of_keeps keeps fetchable document
  rw [onePage] at joined
  rw [searchAndFetchBy_eq_searchInTurn _ _ _ _ _ whole]
  exact ⟨_, joined, rfl, rfl⟩

/-- A first page of a search for an identifier has what retrieving its document gives. -/
theorem searchAndFetchBy_agrees (represents : coordinator.index.Represents catalogue)
    (keeps : coordinator.blobs.Keeps home kept)
    (searchable : ∀ name, coordinator.outages.failure? .search (some name) = none)
    (fetchable : ∀ hash : String, coordinator.outages.failure? .fetch (some hash) = none)
    {completion : Nat → List Nat} {request : Option PageRequest}
    (whole : ∀ count, (completion count).Perm (List.range count))
    (first : (request.getD coordinator.firstPage).page = 0)
    (noSort : (request.getD coordinator.firstPage).sort = none)
    (fits : fitsInteger (request.getD coordinator.firstPage).size = true) (wanted : Option Int) :
    ∃ page, coordinator.searchAndFetchBy coordinator.fetching completion indexName
        (some (identifierQuery documentId)) request wanted = .ok page ∧
      page.totalElements = (if (catalogue.find? indexName documentId).isSome then 1 else 0) ∧
      (∀ found, coordinator.retrieve indexName (.text documentId) = .ok found →
        page.content = if found.found then [found] else []) ∧
      ∀ failure, coordinator.retrieve indexName (.text documentId) = .error failure →
        page.content = [] := by
  obtain ⟨page, answered, content, total⟩ := searchAndFetchBy_identifier represents keeps
    searchable fetchable whole first noSort fits wanted
  have known := metadata_of_represents represents searchable indexName documentId
  refine ⟨page, answered, ?_⟩
  rw [content, total]
  cases found : catalogue.find? indexName documentId with
  | none =>
    rw [found] at known
    rw [retrieve, retrieveBy_of_none known]
    refine ⟨rfl, ?_, ?_⟩
    · rintro found ⟨⟩
      rfl
    · rintro failure ⟨⟩
  | some document =>
    rw [found] at known
    rw [retrieve, retrieveBy_of_some known]
    simp only [Option.toList_some, List.filterMap_cons, joined?]
    cases coordinator.fetching document.contentHash with
    | error failure =>
      refine ⟨rfl, ?_, fun _ _ => rfl⟩
      rintro found ⟨⟩
    | ok payload =>
      refine ⟨rfl, ?_, ?_⟩
      · rintro found ⟨⟩
        rfl
      · rintro failure ⟨⟩

/-- A depot that keeps payloads, and whose index has the last write of a key, retrieves it. -/
theorem retrieves_of_represents (represents : coordinator.index.Represents catalogue)
    (keeps : coordinator.blobs.Keeps home kept)
    (searchable : ∀ name, coordinator.outages.failure? .search (some name) = none)
    (fetchable : ∀ hash : String, coordinator.outages.failure? .fetch (some hash) = none)
    (distinct : ∀ left ∈ kept, ∀ right ∈ kept,
      Sha256.hexDigest left = Sha256.hexDigest right → left = right)
    {write : Option Write}
    (agree : catalogue.find? indexName documentId = write.map Write.document)
    (backed : ∀ document payload, write = some ⟨document, some payload⟩ →
      document.contentHash = Sha256.hexDigest payload ∧ payload ∈ kept) :
    coordinator.Retrieves kept indexName documentId write := by
  have known := metadata_of_represents represents searchable indexName documentId
  rw [agree] at known
  have retrieved {document : Metadata} {noted : Option (List UInt8)}
      (isWrite : write = some ⟨document, noted⟩) :
      coordinator.retrieve indexName (.text documentId) =
        (coordinator.blobs.fetch (.text document.contentHash)).map fun payload =>
          ⟨some document, payload⟩ := by
    rw [isWrite] at known
    rw [retrieve, retrieveBy_of_some known, fetching_of_calm fetchable]
  have ofKept {document : Metadata} {noted : Option (List UInt8)} {payload : List UInt8}
      (isWrite : write = some ⟨document, noted⟩) (member : payload ∈ kept)
      (isHash : document.contentHash = Sha256.hexDigest payload) :
      coordinator.retrieve indexName (.text documentId) = .ok ⟨some document, payload⟩ := by
    rw [retrieved isWrite, isHash, keeps.fetch_of_mem distinct member]
    rfl
  constructor
  case absent =>
    intro noWrite fetching
    rw [noWrite] at known
    exact retrieveBy_of_none known fetching
  case stored =>
    intro document payload isWrite
    obtain ⟨isHash, member⟩ := backed document payload isWrite
    exact ofKept isWrite member isHash
  case pointed =>
    intro document payload isWrite member isHash
    exact ofKept isWrite member isHash
  case missing =>
    intro document isWrite nothing
    rw [retrieved isWrite]
    rcases keeps.fetch_of_absent nothing with missing | ⟨long, fault, outOfReach⟩
    · rw [missing]
      exact .inl rfl
    · rw [outOfReach]
      exact .inr ⟨long, fault, rfl⟩
  case searched =>
    intro completion request wanted whole first noSort fits
    have isKnown : write.isSome = (catalogue.find? indexName documentId).isSome := by
      rw [agree, Option.isSome_map]
    rw [isKnown]
    exact searchAndFetchBy_agrees represents keeps searchable fetchable whole first noSort fits
      wanted

end
end Coordinator

namespace Chronicle

/-- After events without damage, a depot that opened with an empty index and nothing in the folder
of its payloads retrieves the last write of every key, if no two of its payloads have the same
digest, its index is open and neither searches nor fetches are out of order. -/
theorem run_retrieves {world : World} {config : Config} {base : Option Path}
    {coordinator : Coordinator} {home : Location}
    (opened : (Coordinator.openDepot world config base).1 = .ok coordinator)
    (newIndex : coordinator.index.tables = .empty)
    (located : coordinator.blobs.tree.locate coordinator.blobs.working
      (config.resolvedBlobs base) = .ok home)
    (newStore : ∀ names, names ≠ [] → coordinator.blobs.tree.at? (home ++ names) = none)
    {events : List DepotEvent} (undamaged : ∀ payload, .lose payload ∉ events)
    (openLast : events.foldl DepotEvent.leavesOpen true = true)
    (searchable : ∀ indexName, (events.foldl DepotEvent.leavesOutages world.outages).failure?
      .search (some indexName) = none)
    (fetchable : ∀ hash : String, (events.foldl DepotEvent.leavesOutages world.outages).failure?
      .fetch (some hash) = none) :
    ∃ last, Chronicle.run config base ⟨coordinator, [], []⟩ events = .ok last ∧
      ((∀ left ∈ last.kept, ∀ right ∈ last.kept,
          Sha256.hexDigest left = Sha256.hexDigest right → left = right) →
        ∀ indexName documentId : String, last.coordinator.Retrieves last.kept indexName
          documentId (Write.last? last.writes indexName documentId)) := by
  obtain ⟨-, openFirst, outagesFirst⟩ := Coordinator.settled_of_openDepot opened
  obtain ⟨last, done, sound, lastOpen, lastOutages⟩ :=
    (sound_of_openDepot opened newIndex located newStore).run events
  have backedFirst : (Chronicle.mk coordinator [] []).Backed := nofun
  have backed := backedFirst.run undamaged done
  rw [openFirst, openLast] at lastOpen
  rw [outagesFirst] at lastOutages
  rw [← lastOutages] at searchable fetchable
  obtain ⟨catalogue, represents, agree⟩ := sound.records
  refine ⟨last, done, fun distinct indexName documentId => ?_⟩
  refine Coordinator.retrieves_of_represents ⟨lastOpen, represents⟩ sound.stocked.keeps searchable
    fetchable distinct (agree indexName documentId) ?_
  intro document payload isWrite
  exact backed document payload (List.mem_of_find?_eq_some isWrite)

/-- A document is filed with its payload, filing it once more is refused, and the depot is opened
again. -/
def refusedAndReopened : List DepotEvent :=
  [.storeAndFile (.bytes [1]) "d" ⟨some "x", none, []⟩,
    .outages [(.upsert, ⟨none, .indexUnavailable (.reported "down")⟩)],
    .call (.file "d" "h" ⟨some "x", none, []⟩), .outages [], .call .reopen]

/-- The document is retrieved with its payload. -/
theorem run_retrieves_refusedAndReopened :
    (Coordinator.openDepot Session.emptyWorld Session.fileSettings none).1 =
        .ok Session.newDepot ∧
      (∀ payload, .lose payload ∉ refusedAndReopened) ∧
      ∃ last, Chronicle.run Session.fileSettings none ⟨Session.newDepot, [], []⟩
          refusedAndReopened = .ok last ∧
        last.coordinator.retrieve "d" (.text "x") =
          .ok ⟨some ⟨"d", "x", Session.digestOfOne, none, []⟩, [1]⟩ := by
  have opened : (Coordinator.openDepot Session.emptyWorld Session.fileSettings none).1 =
      .ok Session.newDepot := rfl
  have undamaged : ∀ payload, .lose payload ∉ refusedAndReopened := by
    intro payload
    simp [refusedAndReopened]
  obtain ⟨last, done, retrieves⟩ := run_retrieves opened rfl rfl Session.at?_newDepot undamaged
    rfl (fun _ => rfl) (fun _ => rfl)
  have single (payload : List UInt8) (member : payload ∈ last.kept) : payload = [1] := by
    rcases of_mem_kept done member with before | given
    · cases before
    · simpa [refusedAndReopened, DepotEvent.given?] using given
  have written : ((Chronicle.run Session.fileSettings none ⟨Session.newDepot, [], []⟩
      refusedAndReopened).toOption.map Chronicle.writes) =
        some [⟨⟨"d", "x", Session.digestOfOne, none, []⟩, some [1]⟩] := by decide +kernel
  rw [done] at written
  have isLast : Write.last? last.writes "d" "x" =
      some ⟨⟨"d", "x", Session.digestOfOne, none, []⟩, some [1]⟩ := by
    rw [Option.some.inj written]
    decide
  have distinct : ∀ left ∈ last.kept, ∀ right ∈ last.kept,
      Sha256.hexDigest left = Sha256.hexDigest right → left = right := by
    intro left leftMember right rightMember _
    rw [single left leftMember, single right rightMember]
  exact ⟨opened, undamaged, last, done, (retrieves distinct "d" "x").stored _ _ isLast⟩

/-- A depot with an empty index has no documents. -/
theorem retrieve_of_vacant {coordinator : Coordinator} (empty : coordinator.index = .vacant)
    (calm : coordinator.outages = []) {indexName documentId : String} :
    coordinator.retrieve indexName (.text documentId) = .ok ⟨none, []⟩ := by
  have represents : coordinator.index.Represents .empty := by
    rw [empty]
    exact ⟨rfl, Tables.represents_empty⟩
  have searchable (name : Text) : coordinator.outages.failure? .search (some name) = none := by
    rw [calm, Outages.failure?_nil]
  exact Coordinator.retrieveBy_of_none
    (Coordinator.metadata_of_represents represents searchable indexName documentId) _

/-- Settings with the index in memory and the payloads in a folder whose path is almost too
long. -/
def deepSettings : Config :=
  { Session.memorySettings with blobFolder := BlobStore.manySteps }

/-- The depot that opens with these settings. -/
def deepDepot : Coordinator :=
  .opened Session.emptyWorld deepSettings none .empty .empty (by decide) (by decide)

/-- A payload that such a depot does not have is out of reach. -/
theorem retrieve_deepDepot :
    ∃ fault, (deepDepot.file "d" Session.digestOfOne ⟨some "x", none, []⟩).2.retrieve "d"
        (.text "x") =
      .error (.storeUnavailable fault) := by
  have isDigest : Session.digestOfOne = Sha256.hexDigest [1] := by decide +kernel
  have represents : (deepDepot.file "d" Session.digestOfOne ⟨some "x", none, []⟩).2.index.Represents
      (.after [.upsert "d" "x" Session.digestOfOne none []]) :=
    Connection.represents_after [.upsert "d" "x" Session.digestOfOne none []]
  have known := Coordinator.metadata_of_represents represents (fun _ => rfl) "d" "x"
  have found : (Catalogue.after [.upsert "d" "x" Session.digestOfOne none []]).find? "d" "x" =
      some ⟨"d", "x", Session.digestOfOne, none, []⟩ := by decide
  rw [found] at known
  have store : (deepDepot.file "d" Session.digestOfOne ⟨some "x", none, []⟩).2.blobs =
      ⟨.empty, [], BlobStore.manySteps⟩ := rfl
  obtain ⟨fault, unreachable⟩ := BlobStore.fetch_manySteps .empty [1]
  refine ⟨fault, ?_⟩
  rw [Coordinator.retrieve, Coordinator.retrieveBy_of_some known,
    Coordinator.fetching_of_calm fun _ => rfl, store, isDigest, unreachable]
  rfl

/-- There are four ways in which a depot does not answer for a key as for the last write under it:
a document in memory is gone when the depot has been opened again, the absence of a payload is not
reported as such if the path of its digest is too long, and searches do not answer at all for pages
of more documents than an integer can count or for identifiers that cannot be encoded. -/
theorem not_retrieved :
    (∃ coordinator filed placement reopened,
      (Coordinator.openDepot Session.emptyWorld Session.memorySettings none).1 =
          .ok coordinator ∧
        coordinator.file "d" "h" ⟨some "x", none, []⟩ = (.ok placement, filed) ∧
        (Coordinator.openDepot filed.close Session.memorySettings none).1 = .ok reopened ∧
        reopened.retrieve "d" (.text "x") = .ok ⟨none, []⟩) ∧
      ((Coordinator.openDepot Session.emptyWorld deepSettings none).1 = .ok deepDepot ∧
        (deepDepot.file "d" Session.digestOfOne ⟨some "x", none, []⟩).1 =
          .ok ⟨"d", "x", Session.digestOfOne⟩ ∧
        (deepDepot.file "d" Session.digestOfOne ⟨some "x", none, []⟩).2.retrieve "d" (.text "x") ≠
          .error (.notFound (.payload (.text Session.digestOfOne)))) ∧
      (∃ coordinator,
        (Coordinator.openDepot Session.emptyWorld
            { Session.fileSettings with defaultPageSize := 9223372036854775808 } none).1 =
          .ok coordinator ∧
          coordinator.searchAndFetch "d" (some (Coordinator.identifierQuery "x")) none none =
            .error .integerTooLarge) ∧
      Session.newDepot.retrieve "d" (.text ⟨[.half 0]⟩) = .error (.encoding ⟨0, 0, 1⟩) := by
  refine ⟨⟨_, _, _, _, rfl, rfl, rfl, ?_⟩, ⟨?_, rfl, ?_⟩, ⟨_, rfl, rfl⟩, rfl⟩
  · exact retrieve_of_vacant rfl rfl
  · have folders : Session.emptyWorld.tree.makeFolders Session.emptyWorld.working
        (deepSettings.resolvedIndex none).parent = (.empty, none) := rfl
    have blobFolders : FileTree.empty.makeFolders Session.emptyWorld.working
        (deepSettings.resolvedBlobs none) = (.empty, none) :=
      BlobStore.makeFolders_manySteps .empty
    have read : Coordinator.openIndex .empty Session.emptyWorld.working
        (deepSettings.resolvedIndex none) = .ok .empty := rfl
    exact Coordinator.openDepot_of_ok folders blobFolders read (by decide) (by decide)
  · obtain ⟨fault, unreachable⟩ := retrieve_deepDepot
    rw [unreachable]
    rintro ⟨⟩

end Chronicle
end Depot
