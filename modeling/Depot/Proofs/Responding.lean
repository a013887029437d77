import Depot.Proofs.FieldForms
import Depot.Proofs.Gathering
import Depot.Proofs.Inquiries
import Depot.Proofs.Sparing
import Depot.Proofs.TwoPhases

/-!
# How the service answers failures

A request meets a failure while its depot is opened or at work on the open depot. One that is meant
for callers is told with the status of its family, whichever route and whichever moment it comes
from; only a search with payloads goes on without the payloads that are missing or out of reach. A
request that fails files nothing and takes nothing away, and all that it can add to the payloads is
the one that it has stored before filing failed.
-/

namespace Depot.Http

/-! ## Failures of requests -/

/-- The statuses that are promised for the families of failures. -/
inductive Promised : Failure → Nat → Prop where
  | missing (missing : Missing) : Promised (.notFound missing) 404
  | query (error : QueryError) : Promised (.query error) 400
  | store (fault : StoreFault) : Promised (.storeUnavailable fault) 503
  | index (fault : IndexFault) : Promised (.indexUnavailable fault) 503

/-- What the body of a search asks for: one of its form for a query and a page, and no body or null
for the first page of everything. -/
inductive AsksFor (defaultSize : Nat) :
    Option Datum → Option Query → Option PageRequest → Prop where
  | everything {body : Option Datum} (absent : body = none ∨ body = some .null) :
      AsksFor defaultSize body none none
  | form {given : Datum} {form : SearchBody} {query : Option Query} {page : Option PageRequest}
      (inForm : SearchBody.read given = .ok form)
      (asked : searchOf form defaultSize = .ok (query, page)) :
      AsksFor defaultSize (some given) query page

namespace Route

/-- A request to a route opens a depot: the route needs one, and if it takes a JSON value, the body
can be read. -/
inductive Opens (request : Request) : Route → Prop where
  | store : Opens request .store
  | file {body : Option Datum} (read : request.body.read = .ok body) : Opens request .file
  | storeAndFile (indexName : String) : Opens request (.storeAndFile indexName)
  | fetch (indexName contentHash : String) : Opens request (.fetch indexName contentHash)
  | metadata (indexName documentId : String) : Opens request (.metadata indexName documentId)
  | document (indexName documentId : String) : Opens request (.document indexName documentId)
  | search (indexName : String) {body : Option Datum} (read : request.body.read = .ok body) :
      Opens request (.search indexName)
  | searchAndFetch (indexName : String) {body : Option Datum}
      (read : request.body.read = .ok body) : Opens request (.searchAndFetch indexName)
  | createIndex (indexName : String) : Opens request (.createIndex indexName)

/-- A call that a request to a route makes on an open depot fails. Of the payloads that a search
fetches, the first counts that cannot be had for any other reason than that it is missing or out of
reach. -/
inductive Fails (request : Request) (coordinator : Coordinator) : Route → Failure → Prop where
  | store {failure : Failure}
      (failed : (coordinator.store (.bytes request.body.bytes)).1 = .error failure) :
      Fails request coordinator .store failure
  | file {body : Option Datum} {form : FilingBody} {options : IndexOptions} {failure : Failure}
      (read : request.body.read = .ok body) (inForm : FilingBody.read (body.getD .null) = .ok form)
      (accepted : bodyOptions form.documentId form.contentType form.fields = .ok options)
      (failed : (coordinator.file form.indexName form.contentHash options).1 = .error failure) :
      Fails request coordinator .file failure
  | storeFirst {indexName : String} {options : IndexOptions} {failure : Failure}
      (accepted : textOptions (request.parameter? "id") (request.parameter? "content_type")
        (request.parameter? "fields") = .ok options)
      (failed : (coordinator.store (.bytes request.body.bytes)).1 = .error failure) :
      Fails request coordinator (.storeAndFile indexName) failure
  | fileStored {indexName hash : String} {options : IndexOptions} {stored : Coordinator}
      {failure : Failure}
      (accepted : textOptions (request.parameter? "id") (request.parameter? "content_type")
        (request.parameter? "fields") = .ok options)
      (isStored : coordinator.store (.bytes request.body.bytes) = (.ok hash, stored))
      (failed : (stored.file indexName hash options).1 = .error failure) :
      Fails request coordinator (.storeAndFile indexName) failure
  | fetch {indexName contentHash : String} {failure : Failure}
      (failed : coordinator.fetch (.text contentHash) = .error failure) :
      Fails request coordinator (.fetch indexName contentHash) failure
  | metadata {indexName documentId : String} {failure : Failure}
      (failed : coordinator.metadata indexName (.text documentId) = .error failure) :
      Fails request coordinator (.metadata indexName documentId) failure
  | document {indexName documentId : String} {failure : Failure}
      (failed : coordinator.metadata indexName (.text documentId) = .error failure) :
      Fails request coordinator (.document indexName documentId) failure
  | payload {indexName documentId : String} {metadata : Metadata} {failure : Failure}
      (found : coordinator.metadata indexName (.text documentId) = .ok (some metadata))
      (failed : coordinator.fetch (.text metadata.contentHash) = .error failure) :
      Fails request coordinator (.document indexName documentId) failure
  | query {route : Route} {indexName : String} {given : Datum} {form : SearchBody}
      {failure : Failure} (isSearch : route = .search indexName ∨ route = .searchAndFetch indexName)
      (read : request.body.read = .ok (some given)) (inForm : SearchBody.read given = .ok form)
      (refused : searchOf form coordinator.defaultPageSize = .error failure) :
      Fails request coordinator route failure
  | search {indexName : String} {body : Option Datum} {query : Option Query}
      {page : Option PageRequest} {failure : Failure} (read : request.body.read = .ok body)
      (asks : AsksFor coordinator.defaultPageSize body query page)
      (failed : coordinator.search indexName query page = .error failure) :
      Fails request coordinator (.search indexName) failure
  | searchToFetch {indexName : String} {body : Option Datum} {query : Option Query}
      {page : Option PageRequest} {failure : Failure} (read : request.body.read = .ok body)
      (asks : AsksFor coordinator.defaultPageSize body query page)
      (failed : coordinator.search indexName query page = .error failure) :
      Fails request coordinator (.searchAndFetch indexName) failure
  | payloads {indexName : String} {body : Option Datum} {query : Option Query}
      {page : Option PageRequest} {found : Page Metadata} {front rest : List Metadata}
      {document : Metadata} {failure : Failure} (read : request.body.read = .ok body)
      (asks : AsksFor coordinator.defaultPageSize body query page)
      (searched : coordinator.search indexName query page = .ok found)
      (split : found.content = front ++ document :: rest)
      (passed : ∀ earlier ∈ front, Coordinator.Passes coordinator.fetching earlier)
      (failed : coordinator.fetch (.text document.contentHash) = .error failure)
      (serious : failure.isSkippable = false) :
      Fails request coordinator (.searchAndFetch indexName) failure
  | createIndex {indexName : String} {failure : Failure}
      (failed : (coordinator.createIndex indexName).1 = .error failure) :
      Fails request coordinator (.createIndex indexName) failure

end Route

/-- A request that is led to a route meets a failure, while its depot is opened or at work. -/
inductive Meets (world : World) (config : Config) (request : Request) : Route → Failure → Prop where
  | opening {route : Route} {failure : Failure} (opens : route.Opens request)
      (failed : (Coordinator.openDepot world config none).1 = .error failure) :
      Meets world config request route failure
  | working {route : Route} {coordinator : Coordinator} {failure : Failure}
      (opened : (Coordinator.openDepot world config none).1 = .ok coordinator)
      (fails : route.Fails request coordinator failure) :
      Meets world config request route failure

/-- A request to store and file at once has stored its body under a digest. -/
inductive StoresFirst (world : World) (config : Config) (request : Request) :
    Route → Coordinator → String → Prop where
  | storeAndFile {indexName hash : String} {options : IndexOptions} {coordinator : Coordinator}
      (opened : (Coordinator.openDepot world config none).1 = .ok coordinator)
      (accepted : textOptions (request.parameter? "id") (request.parameter? "content_type")
        (request.parameter? "fields") = .ok options)
      (stored : (coordinator.store (.bytes request.body.bytes)).1 = .ok hash) :
      StoresFirst world config request (.storeAndFile indexName) coordinator hash

/-- Whether a response tells of success. -/
def Response.isSuccess : Response → Bool
  | .json status _ => status == 200
  | .bytes _ _ => true
  | .bare _ => false
  | .redirect _ => false

/-- What the service promises of failures. One that is meant for callers is told with its status and
its message. A search with payloads that meets only missing payloads and payloads out of reach is
answered with the page of the documents that have theirs. A request that fails spares everything,
but that one that has stored its body before leaves it behind. -/
structure AnswersFailures (world : World) (config : Config) (request : Request) (route : Route) :
    Prop where
  told : ∀ failure status, Meets world config request route failure → Promised failure status →
    (respond world config request).1 = .detail status failure.message
  drops : ∀ indexName coordinator body query page found, route = .searchAndFetch indexName →
    (Coordinator.openDepot world config none).1 = .ok coordinator →
    request.body.read = .ok body → AsksFor coordinator.defaultPageSize body query page →
    coordinator.search indexName query page = .ok found →
    (∀ document ∈ found.content, Coordinator.Passes coordinator.fetching document) →
      (respond world config request).1 = .json 200 (Response.sendable
        (Page.toDatum Retrieved.toDatum ⟨
          found.content.filterMap (Coordinator.joined? coordinator.fetching),
          found.totalElements, found.pageNumber, found.pageSize⟩))
  spares : (respond world config request).1.isSuccess = false →
    (∀ coordinator hash, ¬ StoresFirst world config request route coordinator hash) →
      Coordinator.Spares config none world (respond world config request).2 none
  keepsPayload : (respond world config request).1.isSuccess = false →
    ∀ coordinator hash, StoresFirst world config request route coordinator hash →
      Coordinator.Spares config none world (respond world config request).2
        (some (coordinator.blobs.pathOf hash)) ∧
      Coordinator.LeavesPayload config none coordinator (respond world config request).2
        (coordinator.blobs.pathOf hash) request.body.bytes

section

variable {world : World} {config : Config} {request : Request} {route : Route}
  {coordinator : Coordinator} {failure : Failure} {status : Nat}

/-- Failures are told with the statuses that are promised. -/
theorem ofFailure_of_promised (promised : Promised failure status) :
    Response.ofFailure failure = .detail status failure.message := by
  cases promised <;> rfl

/-- A failure to open the depot is the answer to any work. -/
theorem withDepot_of_opening (failed : (Coordinator.openDepot world config none).1 = .error failure)
    (work : Coordinator → Response × Coordinator) :
    withDepot world config work =
      (.ofFailure failure, (Coordinator.openDepot world config none).2) := by
  have outcome : Coordinator.openDepot world config none =
      (.error failure, (Coordinator.openDepot world config none).2) := Prod.ext failed rfl
  rw [withDepot, outcome]

/-- A request that opens a depot is answered with the failure to open it. -/
theorem fst_follow_of_opening (opens : route.Opens request)
    (failed : (Coordinator.openDepot world config none).1 = .error failure) :
    (follow world config request route).1 = .ofFailure failure := by
  cases opens with
  | file read =>
    simp only [follow, withBody, read, withDepot_of_opening failed]
  | search indexName read =>
    simp only [follow, withBody, read, withDepot_of_opening failed]
  | searchAndFetch indexName read =>
    simp only [follow, withBody, read, withDepot_of_opening failed]
  | _ => simp only [follow, withDepot_of_opening failed]

/-- A search is answered as what its body asks for. -/
theorem searchBody_of_asksFor {α : Type} {body : Option Datum} {query : Option Query}
    {page : Option PageRequest} (asks : AsksFor coordinator.defaultPageSize body query page)
    (run : Option Query → Option PageRequest → Except Failure (Page α)) (item : α → Datum) :
    searchBody coordinator body run item =
      .ofResult (fun found => .success (found.toDatum item)) (run query page) := by
  cases asks with
  | everything absent => rcases absent with rfl | rfl <;> rfl
  | @form given form _ _ inForm asked =>
    cases given with
    | record entries => simp only [searchBody, inForm, asked]
    | _ => cases inForm

/-- A query that is refused is the answer to a search. -/
theorem searchBody_of_refused {α : Type} {given : Datum} {form : SearchBody}
    (inForm : SearchBody.read given = .ok form)
    (refused : searchOf form coordinator.defaultPageSize = .error failure)
    (run : Option Query → Option PageRequest → Except Failure (Page α)) (item : α → Datum) :
    searchBody coordinator (some given) run item = .ofFailure failure := by
  cases given with
  | record entries => simp only [searchBody, inForm, refused]
  | _ => cases inForm

/-- Filing that fails is told. -/
theorem fst_fileBody_of_error {body : Option Datum} {form : FilingBody} {options : IndexOptions}
    (inForm : FilingBody.read (body.getD .null) = .ok form)
    (accepted : bodyOptions form.documentId form.contentType form.fields = .ok options)
    (failed : (coordinator.file form.indexName form.contentHash options).1 = .error failure) :
    (fileBody coordinator body).1 = .ofFailure failure := by
  simp only [fileBody, inForm, accepted, failed]
  rfl

/-- Storing and filing at once that fails is told, whichever of the two it is. -/
theorem fst_storeAndFileBody_of_error {indexName : String} {options : IndexOptions}
    (accepted : textOptions (request.parameter? "id") (request.parameter? "content_type")
      (request.parameter? "fields") = .ok options)
    (failed : (coordinator.storeAndFile (.bytes request.body.bytes) indexName options).1 =
      .error failure) :
    (storeAndFileBody coordinator indexName request).1 = .ofFailure failure := by
  simp only [storeAndFileBody, accepted, failed]
  rfl

/-- A document whose look-up fails is not retrieved. -/
theorem retrieve_of_error {indexName documentId : String}
    (failed : coordinator.metadata indexName (.text documentId) = .error failure) :
    coordinator.retrieve indexName (.text documentId) = .error failure := by
  rw [Coordinator.retrieve, Coordinator.retrieveBy, failed]
  rfl

/-- A document whose payload cannot be had is not retrieved. -/
theorem retrieve_of_fetch_error {indexName documentId : String} {metadata : Metadata}
    (found : coordinator.metadata indexName (.text documentId) = .ok (some metadata))
    (failed : coordinator.fetch (.text metadata.contentHash) = .error failure) :
    coordinator.retrieve indexName (.text documentId) = .error failure := by
  rw [Coordinator.retrieve, Coordinator.retrieveBy, found]
  simp only [bind, Except.bind, Coordinator.fetching, failed]

/-- What is promised of a search with payloads. -/
theorem searchAndFetch_joinsPayloads (coordinator : Coordinator) (indexName : Text)
    (query : Option Query) (page : Option PageRequest) :
    coordinator.JoinsPayloads coordinator.fetching indexName query page
      (coordinator.searchAndFetch indexName query page none) :=
  (coordinator.searchAndFetchBy_joinsPayloads coordinator.fetching indexName query page
    (fun _ => .refl _) none).1

/-- A request whose work fails is answered with the failure. -/
theorem fst_follow_of_fails (opened : (Coordinator.openDepot world config none).1 = .ok coordinator)
    (fails : route.Fails request coordinator failure) :
    (follow world config request route).1 = .ofFailure failure := by
  cases fails with
  | store failed =>
    simp only [follow, withDepot_of_ok opened, failed]
    rfl
  | file read inForm accepted failed =>
    simp only [follow, withBody, read, withDepot_of_ok opened]
    exact fst_fileBody_of_error inForm accepted failed
  | storeFirst accepted failed =>
    simp only [follow, withDepot_of_ok opened]
    refine fst_storeAndFileBody_of_error accepted ?_
    rw [Coordinator.storeAndFile, Coordinator.storeAndFileBy_of_error failed]
  | fileStored accepted isStored failed =>
    simp only [follow, withDepot_of_ok opened]
    refine fst_storeAndFileBody_of_error accepted ?_
    rw [Coordinator.storeAndFile, Coordinator.storeAndFileBy, isStored]
    exact failed
  | fetch failed =>
    simp only [follow, withDepot_of_ok opened, failed]
    rfl
  | metadata failed =>
    simp only [follow, withDepot_of_ok opened, failed]
    rfl
  | document failed =>
    simp only [follow, withDepot_of_ok opened, retrieve_of_error failed]
    rfl
  | payload found failed =>
    simp only [follow, withDepot_of_ok opened, retrieve_of_fetch_error found failed]
    rfl
  | query isSearch read inForm refused =>
    rcases isSearch with rfl | rfl <;>
    · simp only [follow, withBody, read, withDepot_of_ok opened]
      exact searchBody_of_refused inForm refused _ _
  | search read asks failed =>
    simp only [follow, withBody, read, withDepot_of_ok opened, searchBody_of_asksFor asks, failed]
    rfl
  | searchToFetch read asks failed =>
    have refused := (searchAndFetch_joinsPayloads coordinator _ _ _).refused failure failed
    simp only [follow, withBody, read, withDepot_of_ok opened, searchBody_of_asksFor asks, refused]
    rfl
  | payloads read asks searched split passed failed serious =>
    have stopped := (searchAndFetch_joinsPayloads coordinator _ _ _).stopped _ _ _ _ failure
      searched split passed failed serious
    simp only [follow, withBody, read, withDepot_of_ok opened, searchBody_of_asksFor asks, stopped]
    rfl
  | createIndex failed =>
    simp only [follow, withDepot_of_ok opened, failed]
    rfl

/-- A search that meets only missing payloads and payloads out of reach is answered with the other
documents. -/
theorem fst_follow_of_passes {indexName : String} {body : Option Datum} {query : Option Query}
    {page : Option PageRequest} {found : Page Metadata}
    (opened : (Coordinator.openDepot world config none).1 = .ok coordinator)
    (read : request.body.read = .ok body)
    (asks : AsksFor coordinator.defaultPageSize body query page)
    (searched : coordinator.search indexName query page = .ok found)
    (passed : ∀ document ∈ found.content, Coordinator.Passes coordinator.fetching document) :
    (follow world config request (.searchAndFetch indexName)).1 =
      .success (Page.toDatum Retrieved.toDatum ⟨
        found.content.filterMap (Coordinator.joined? coordinator.fetching),
        found.totalElements, found.pageNumber, found.pageSize⟩) := by
  have joined := (searchAndFetch_joinsPayloads coordinator _ _ _).joined found searched passed
  simp only [follow, withBody, read, withDepot_of_ok opened, searchBody_of_asksFor asks, joined]
  rfl

/-! ## What failing requests leave -/

/-- What is left as it is, is spared. -/
theorem spares_self (world : World) (config : Config) (exempted : Option Path) :
    Coordinator.Spares config none world world exempted where
  index := fun opened opens => ⟨opened, opens, rfl⟩
  locations := fun _ _ => .same rfl

/-- A piece of work spares everything, if it does so on the depot that is opened. -/
theorem spares_withDepot {work : Coordinator → Response × Coordinator}
    (failed : (withDepot world config work).1.isSuccess = false)
    (working : ∀ coordinator, (Coordinator.openDepot world config none).1 = .ok coordinator →
      (work coordinator).1.isSuccess = false →
        Coordinator.Spares config none world (work coordinator).2.close none) :
    Coordinator.Spares config none world (withDepot world config work).2 none := by
  cases opened : (Coordinator.openDepot world config none).1 with
  | error failure =>
    rw [withDepot_of_opening opened]
    refine ⟨fun coordinator opens => ?_, fun location _ =>
      Coordinator.spared_openDepot world config none location⟩
    rw [opened] at opens
    cases opens
  | ok coordinator =>
    rw [withDepot_of_ok opened] at failed ⊢
    exact working coordinator opened failed

/-- So does a piece of work that needs a body. -/
theorem spares_withBody {work : Option Datum → Coordinator → Response × Coordinator}
    (failed : (withBody world config request work).1.isSuccess = false)
    (working : ∀ body coordinator,
      (Coordinator.openDepot world config none).1 = .ok coordinator →
      (work body coordinator).1.isSuccess = false →
        Coordinator.Spares config none world (work body coordinator).2.close none) :
    Coordinator.Spares config none world (withBody world config request work).2 none := by
  rw [withBody] at failed ⊢
  cases read : request.body.read with
  | error fault => exact spares_self world config none
  | ok body =>
    rw [read] at failed
    exact spares_withDepot failed (working body)

section

variable (opened : (Coordinator.openDepot world config none).1 = .ok coordinator)

include opened

/-- A request that files a document and fails spares everything. -/
theorem spares_fileBody {body : Option Datum}
    (failed : (fileBody coordinator body).1.isSuccess = false) :
    Coordinator.Spares config none world (fileBody coordinator body).2.close none := by
  rw [fileBody] at failed ⊢
  split
  · exact Coordinator.spares_close_self opened
  · rename_i form inForm
    rw [inForm] at failed
    dsimp only at failed ⊢
    split
    · exact Coordinator.spares_close_self opened
    · rename_i options accepted
      rw [accepted] at failed
      cases result : (coordinator.file form.indexName form.contentHash options).1 with
      | error failure => exact Coordinator.spares_file opened result
      | ok placement =>
        simp only [result] at failed
        cases failed

/-- A request that is to store and file at once and does not store its body spares everything. -/
theorem spares_storeAndFileBody {indexName : String} (notStored : ∀ hash,
      ¬ StoresFirst world config request (.storeAndFile indexName) coordinator hash) :
    Coordinator.Spares config none world
      (storeAndFileBody coordinator indexName request).2.close none := by
  rw [storeAndFileBody]
  split
  · exact Coordinator.spares_close_self opened
  · rename_i options accepted
    cases stored : (coordinator.store (.bytes request.body.bytes)).1 with
    | ok hash => exact absurd (.storeAndFile opened accepted stored) (notStored hash)
    | error failure =>
      rw [Coordinator.storeAndFile, Coordinator.storeAndFileBy_of_error stored]
      exact Coordinator.spares_store opened stored

/-- A request that has stored its body and fails to file it leaves it behind. -/
theorem spares_storeAndFileBody_of_stored {indexName hash : String} {options : IndexOptions}
    (accepted : textOptions (request.parameter? "id") (request.parameter? "content_type")
      (request.parameter? "fields") = .ok options)
    (stored : (coordinator.store (.bytes request.body.bytes)).1 = .ok hash)
    (failed : (storeAndFileBody coordinator indexName request).1.isSuccess = false) :
    Coordinator.Spares config none world
        (storeAndFileBody coordinator indexName request).2.close
        (some (coordinator.blobs.pathOf hash)) ∧
      Coordinator.LeavesPayload config none coordinator
        (storeAndFileBody coordinator indexName request).2.close
        (coordinator.blobs.pathOf hash) request.body.bytes := by
  simp only [storeAndFileBody, accepted, Coordinator.storeAndFile,
    Coordinator.storeAndFileBy_of_ok stored] at failed ⊢
  cases result : ((coordinator.store (.bytes request.body.bytes)).2.file indexName hash
      options).1 with
  | error failure => exact Coordinator.spares_file_stored opened stored result
  | ok placement =>
    rw [result] at failed
    cases failed

end

/-- A request that fails spares everything, unless it has stored its body before. -/
theorem spares_follow (failed : (follow world config request route).1.isSuccess = false)
    (notStored : ∀ coordinator hash,
      ¬ StoresFirst world config request route coordinator hash) :
    Coordinator.Spares config none world (follow world config request route).2 none := by
  cases route with
  | health => exact spares_self world config none
  | description => exact spares_self world config none
  | store =>
    refine spares_withDepot failed fun coordinator opened failed => ?_
    cases stored : (coordinator.store (.bytes request.body.bytes)).1 with
    | error failure => exact Coordinator.spares_store opened stored
    | ok hash =>
      simp only [stored] at failed
      cases failed
  | file =>
    exact spares_withBody failed fun _ _ opened failed => spares_fileBody opened failed
  | storeAndFile indexName =>
    exact spares_withDepot failed fun coordinator opened _ =>
      spares_storeAndFileBody opened (notStored coordinator)
  | fetch indexName contentHash =>
    exact spares_withDepot failed fun _ opened _ => Coordinator.spares_close_self opened
  | metadata indexName documentId =>
    exact spares_withDepot failed fun _ opened _ => Coordinator.spares_close_self opened
  | document indexName documentId =>
    exact spares_withDepot failed fun _ opened _ => Coordinator.spares_close_self opened
  | search indexName =>
    exact spares_withBody failed fun _ _ opened _ => Coordinator.spares_close_self opened
  | searchAndFetch indexName =>
    exact spares_withBody failed fun _ _ opened _ => Coordinator.spares_close_self opened
  | createIndex indexName =>
    refine spares_withDepot failed fun coordinator opened failed => ?_
    cases made : (coordinator.createIndex indexName).1 with
    | error failure => exact Coordinator.spares_createIndex opened made
    | ok _ =>
      simp only [made] at failed
      cases failed

/-- The service answers failures as it promises, on every route, in every state and whatever is out
of order. -/
theorem respond_answersFailures (world : World) (config : Config)
    (led : destination request.method (unescape request.path.toList) = .route route) :
    AnswersFailures world config request route := by
  have followed : respond world config request = follow world config request route := by
    rw [respond, led]
  constructor
  case told =>
    intro failure status meets promised
    rw [followed, ← ofFailure_of_promised promised]
    cases meets with
    | opening opens failed => exact fst_follow_of_opening opens failed
    | working opened fails => exact fst_follow_of_fails opened fails
  case drops =>
    intro indexName coordinator body query page found isSearch opened read asks searched passed
    subst isSearch
    rw [followed]
    exact fst_follow_of_passes opened read asks searched passed
  case spares =>
    intro failed notStored
    rw [followed] at failed ⊢
    exact spares_follow failed notStored
  case keepsPayload =>
    intro failed coordinator hash stores
    rw [followed] at failed ⊢
    cases stores with
    | storeAndFile opened accepted stored =>
      simp only [follow, withDepot_of_ok opened] at failed ⊢
      exact spares_storeAndFileBody_of_stored opened accepted stored failed

end

/-- A request to store a payload and file a document that points at it. -/
def storeAndFileRequest : Request := ⟨"POST", "/store_index/d", [], ⟨[1], false⟩⟩

/-- An empty tree in which nothing can be filed. -/
def filingOutWorld : World := { Session.emptyWorld with outages := Chronicle.filingOut }

/-- The depot that opens there. -/
def filingOutDepot : Coordinator := { Session.newDepot with outages := Chronicle.filingOut }

/-- When filing is out of order, the request is told so, and its payload stays behind. -/
theorem respond_answersFailures_filingOut :
    destination storeAndFileRequest.method (unescape storeAndFileRequest.path.toList) =
        .route (.storeAndFile "d") ∧
      (respond filingOutWorld Session.fileSettings storeAndFileRequest).1 = .detail 503 "down" ∧
      ∃ hash, StoresFirst filingOutWorld Session.fileSettings storeAndFileRequest
          (.storeAndFile "d") filingOutDepot hash ∧
        Coordinator.LeavesPayload Session.fileSettings none filingOutDepot
          (respond filingOutWorld Session.fileSettings storeAndFileRequest).2
          (filingOutDepot.blobs.pathOf hash) [1] := by
  have led : destination storeAndFileRequest.method
      (unescape storeAndFileRequest.path.toList) = .route (.storeAndFile "d") := by cbv
  have opened : (Coordinator.openDepot filingOutWorld Session.fileSettings none).1 =
      .ok filingOutDepot := rfl
  have succeeded : (filingOutDepot.store (.bytes [1])).1.isOk = true := by decide +kernel
  obtain ⟨told, -, -, keepsPayload⟩ :=
    respond_answersFailures filingOutWorld Session.fileSettings led
  cases stored : (filingOutDepot.store (.bytes [1])).1 with
  | error failure =>
    rw [stored] at succeeded
    cases succeeded
  | ok hash =>
    obtain ⟨_, -, -, after⟩ := Coordinator.of_store_ok stored
    have refused : ((filingOutDepot.store (.bytes [1])).2.file "d" hash ⟨none, none, []⟩).1 =
        .error (.indexUnavailable (.reported "down")) := by
      rw [after]
      rfl
    have answer : (respond filingOutWorld Session.fileSettings storeAndFileRequest).1 =
        .detail 503 "down" :=
      told _ 503 (.working opened (.fileStored rfl (Prod.ext stored rfl) refused)) (.index _)
    have first : StoresFirst filingOutWorld Session.fileSettings storeAndFileRequest
        (.storeAndFile "d") filingOutDepot hash := .storeAndFile opened rfl stored
    exact ⟨led, answer, hash, first,
      (keepsPayload (by rw [answer]; rfl) filingOutDepot hash first).2⟩

end Depot.Http
