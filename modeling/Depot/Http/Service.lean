import Depot.Coordinator
import Depot.Http.Reply
import Depot.Http.Route
import Depot.Http.Target
import Depot.Query.Document

/-!
# The service

A request that is led to a route opens the depot of the settings, does its work and closes
the depot. A body that is no JSON value is refused before the depot is opened, a body of the
wrong form after that.

A client sends a request to a target and follows redirections. It reads the escapes of the
target's path, and the service reads those that are left.
-/

namespace Depot.Http

/-! ## Options and searches -/

/-- The options of a document; fields that are refused are a bad request. -/
def buildOptions (documentId contentType : Option Text) (fields : Option Field.Source) :
    Except Response IndexOptions :=
  match IndexOptions.build documentId contentType fields with
  | .ok options => .ok options
  | .error error => .error (.detail statusBadRequest error.message)

/-- The options of a document from a body. Every field of a list is made before the list is
checked, and one that cannot be made is a failure that was not foreseen. -/
def bodyOptions (documentId contentType : Option Text) (fields : Option FieldsBody) :
    Except Response IndexOptions :=
  match fields with
  | none => buildOptions documentId contentType none
  | some (.named entries) =>
    buildOptions documentId contentType
      (some (.mapping (entries.map fun entry => (.text entry.1, entry.2.toDatum))))
  | some (.listed items) =>
    match items.mapM fun item => Field.make (.text item.1) item.2.toDatum with
    | .error _ => .error (.bare statusFailed)
    | .ok accepted =>
      buildOptions documentId contentType (some (.items (accepted.map .accepted)))

/-- The options of a document whose fields are the text of a JSON record; an empty text
stands for none. -/
def textOptions (documentId contentType fields : Option String) :
    Except Response IndexOptions :=
  let build := buildOptions (documentId.map .ofString) (contentType.map .ofString)
  match fields.filter (· != "") with
  | none => build none
  | some text =>
    match Json.read text with
    | .error (.tooManyDigits _) => .error (.bare statusFailed)
    | .error error =>
      .error (.detail statusBadRequest ("Invalid fields JSON: " ++ error.message text))
    | .ok (.record entries) =>
      build (some (.mapping (entries.map fun entry => (.text entry.1, entry.2))))
    | .ok _ => .error (.detail statusBadRequest "fields must be a JSON object")

/-- What a body searches for: the query, if its document is not empty, and the page, if the
body says anything about it. -/
def searchOf (body : SearchBody) (defaultSize : Nat) :
    Except Failure (Option Query × Option PageRequest) := do
  let query ←
    if body.query.isEmpty then .ok none
    else
      match Query.read (.record body.query) with
      | .error failure => .error failure
      | .ok query => .ok (some query)
  if body.size = none ∧ body.page = 0 ∧ body.sort = none then .ok (query, none)
  else
    let order : Option SortOrder := (body.sort.filter (!·.isEmpty)).map fun name =>
      ⟨.text name, .text body.direction.label⟩
    match PageRequest.make body.page (body.size.getD defaultSize : Nat) order with
    | .error error => .error (.page error)
    | .ok request => .ok (query, some request)

/-! ## Routes at work -/

/-- Opens the depot of settings for a piece of work and closes it afterwards. -/
def withDepot (world : World) (config : Config)
    (work : Coordinator → Response × Coordinator) : Response × World :=
  match Coordinator.openDepot world config none with
  | (.error failure, after) => (.ofFailure failure, after)
  | (.ok opened, _) =>
    let (response, coordinator) := work opened
    (response, coordinator.close)

/-- Files a document that a body describes. -/
def fileBody (coordinator : Coordinator) (body : Option Datum) : Response × Coordinator :=
  match FilingBody.read (body.getD .null) with
  | .error refused => (.ofRefused refused, coordinator)
  | .ok body =>
    match bodyOptions body.documentId body.contentType body.fields with
    | .error response => (response, coordinator)
    | .ok options =>
      let (result, after) := coordinator.file body.indexName body.contentHash options
      (.ofPlacement result, after)

/-- Stores the body of a request and files a document that points at it. -/
def storeAndFileBody (coordinator : Coordinator) (indexName : String) (request : Request) :
    Response × Coordinator :=
  match textOptions (request.parameter? "id") (request.parameter? "content_type")
      (request.parameter? "fields") with
  | .error response => (response, coordinator)
  | .ok options =>
    let (result, after) := coordinator.storeAndFile (.bytes request.body.bytes) indexName options
    (.ofPlacement result, after)

/-- A search that a body asks for; no body and null ask for everything. -/
def searchBody {α : Type} (coordinator : Coordinator) (body : Option Datum)
    (run : Option Query → Option PageRequest → Except Failure (Page α)) (item : α → Datum) :
    Response :=
  let answer (query : Option Query) (request : Option PageRequest) : Response :=
    .ofResult (fun page => .success (page.toDatum item)) (run query request)
  match body with
  | none | some .null => answer none none
  | some given =>
    match SearchBody.read given with
    | .error refused => .ofRefused refused
    | .ok form =>
      match searchOf form coordinator.defaultPageSize with
      | .error failure => .ofFailure failure
      | .ok (query, request) => answer query request

/-- Reads the body before the depot is opened. -/
def withBody (world : World) (config : Config) (request : Request)
    (work : Option Datum → Coordinator → Response × Coordinator) : Response × World :=
  match request.body.read with
  | .error fault => (.ofBodyFault fault, world)
  | .ok body => withDepot world config (work body)

/-- Answers a request that is led to a route. -/
def follow (world : World) (config : Config) (request : Request) :
    Route → Response × World
  | .health => (.success (.record [("status", .text "ok")]), world)
  | .description => (.notFound, world)
  | .store =>
    withDepot world config fun coordinator =>
      let (result, after) := coordinator.store (.bytes request.body.bytes)
      (.ofResult (fun hash => .success (.record [("hash", .text hash)])) result, after)
  | .file => withBody world config request fun body coordinator => fileBody coordinator body
  | .storeAndFile indexName =>
    withDepot world config fun coordinator => storeAndFileBody coordinator indexName request
  | .fetch _ contentHash =>
    withDepot world config fun coordinator =>
      (.ofResult (.ofBytes Response.anyContentType) (coordinator.fetch (.text contentHash)),
        coordinator)
  | .metadata indexName documentId =>
    withDepot world config fun coordinator =>
      (.ofResult (fun found =>
        match found with
        | none => .documentMissing indexName documentId
        | some metadata => .success metadata.toDatum)
        (coordinator.metadata indexName (.text documentId)), coordinator)
  | .document indexName documentId =>
    withDepot world config fun coordinator =>
      (.ofResult (.ofRetrieved indexName documentId)
        (coordinator.retrieve indexName (.text documentId)), coordinator)
  | .search indexName =>
    withBody world config request fun body coordinator =>
      (searchBody coordinator body (coordinator.search indexName) Metadata.toDatum, coordinator)
  | .searchAndFetch indexName =>
    withBody world config request fun body coordinator =>
      (searchBody coordinator body
        (fun query page => coordinator.searchAndFetch indexName query page none)
        Retrieved.toDatum, coordinator)
  | .createIndex indexName =>
    withDepot world config fun coordinator =>
      let (result, after) := coordinator.createIndex indexName
      (.ofResult (fun _ => .success (.record [("status", .text "ok"), ("index", .text indexName)]))
        result, after)

/-- Answers a request. Escapes that are left in the path are read first. -/
def respond (world : World) (config : Config) (request : Request) : Response × World :=
  match destination request.method (unescape request.path.toList) with
  | .response response => (response, world)
  | .route route => follow world config request route

/-! ## Clients -/

/-- The greatest number of redirections that a client follows. -/
def redirectionLimit : Nat := 20

/-- Sends a request and follows redirections, at most as many as are left. -/
def sendFollowing (world : World) (config : Config) (method : String) (body : Body) :
    (left : Nat) → Target → Response × World
  | 0, _ => (.bare statusFailed, world)
  | left + 1, target =>
    match respond world config ⟨method, target.path, target.parameters, body⟩ with
    | (.redirect path, after) =>
      sendFollowing after config method body left (target.withPath path)
    | answer => answer

/-- Sends a request to a target and gives the response at the end of all redirections. -/
def send (world : World) (config : Config) (method : String) (target : Target)
    (body : Body) : Response × World :=
  sendFollowing world config method body (redirectionLimit + 1) target

end Depot.Http
