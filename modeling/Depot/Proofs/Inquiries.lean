import Depot.Command.Run
import Depot.Http.Service
import Depot.Proofs.FieldForms
import Depot.Proofs.Locating
import Depot.Proofs.Reopening

/-!
# Inquiries

A search can be asked for by a command, by a request and by a call on an open depot. The three give
the page, its size and the order in forms of their own, some of which may be left out. An inquiry is
what is asked for in any of them. A command and the service both do with it what a caller would do
on the depot that they open, and tell the result in their own way.
-/

namespace Depot

/-! ## What is asked for -/

/-- A search as its callers think of it. -/
structure Inquiry where
  indexName : String
  /-- The entries of the query document; without a query there are none. -/
  entries : List (Text × Datum)
  page : Nat
  /-- The size of a page, if one is asked for. -/
  size : Option Nat
  /-- The field to sort by, if one is asked for; the empty name asks for none. -/
  sort : Option String
  direction : SortDirection

namespace Inquiry

/-- The query of an inquiry, if its document can be read. -/
def query (inquiry : Inquiry) : Except Failure (Option Query) :=
  if inquiry.entries.isEmpty then .ok none
  else (Query.read (.record inquiry.entries)).map some

/-- The order of an inquiry. -/
def order (inquiry : Inquiry) : Option SortOrder :=
  (inquiry.sort.filter (· ≠ "")).map fun name : String =>
    ⟨.text name, .text inquiry.direction.label⟩

/-- What a caller on an open depot is answered who reads the query document and asks for the page
by its number, its size and its order. -/
def answer (inquiry : Inquiry) (coordinator : Coordinator) : Except Failure (Page Metadata) := do
  let query ← inquiry.query
  let request ← (PageRequest.make inquiry.page
    (inquiry.size.getD coordinator.defaultPageSize : Nat) inquiry.order).mapError .page
  coordinator.search inquiry.indexName query (some request)

/-- The arguments of the command for an inquiry. -/
def arguments (inquiry : Inquiry) (document : Option Text) : SearchArguments where
  indexName := inquiry.indexName
  equalities := []
  present := []
  document := document
  page := inquiry.page
  size := inquiry.size
  sort := inquiry.sort
  descending := inquiry.direction = .descending
  fetch := false

/-- A query document as a command is given it: a JSON text of the entries, or nothing for none. -/
def IsDocument (inquiry : Inquiry) : Option Text → Prop
  | none => inquiry.entries = []
  | some text => Json.read text = .ok (.record inquiry.entries) ∧ inquiry.entries ≠ []

/-- The form of a body that asks for an inquiry. -/
def form (inquiry : Inquiry) : Http.SearchBody :=
  ⟨inquiry.entries, inquiry.page, inquiry.size, inquiry.sort.map .ofString, inquiry.direction⟩

/-- A body that asks for an inquiry: one of its form, or no body and null for the first page of
everything. -/
inductive InBody (inquiry : Inquiry) : Option Datum → Prop where
  | form {given : Datum} (read : Http.SearchBody.read given = .ok inquiry.form) :
      InBody inquiry (some given)
  | nothing {body : Option Datum} (absent : body = none ∨ body = some .null)
      (noQuery : inquiry.entries = []) (first : inquiry.page = 0) (noSize : inquiry.size = none)
      (noSort : inquiry.sort = none) : InBody inquiry body

/-- A request that posts an inquiry. -/
structure Posted (inquiry : Inquiry) (request : Http.Request) : Prop where
  target : Http.destination request.method (Http.unescape request.path.toList) =
    .route (.search inquiry.indexName)
  body : ∃ body, request.body.read = .ok body ∧ inquiry.InBody body

/-- The numbers of an inquiry are those of a page, and the index can take them. -/
structure Allowed (inquiry : Inquiry) (defaultSize : Nat) : Prop where
  positive : 0 < inquiry.size.getD defaultSize
  size : inquiry.size.getD defaultSize < 2 ^ 63
  offset : inquiry.page * inquiry.size.getD defaultSize < 2 ^ 63

end Inquiry

/-! ## Depots, commands and the service -/

section

variable {world : World} {config : Config} {coordinator : Coordinator}

namespace Coordinator

/-- The page size of a depot is that of its settings. -/
theorem defaultPageSize_of_openDepot
    (opened : (openDepot world config none).1 = .ok coordinator) :
    (coordinator.defaultPageSize : Int) = config.defaultPageSize := by
  obtain ⟨-, -, tables, pageSize, concurrency, -, -, -, rfl⟩ := of_openDepot_ok opened
  exact Int.toNat_of_nonneg (by omega)

/-- A search for no page in particular is one for the first page. -/
theorem search_getD (indexName : Text) (query : Option Query) (request : Option PageRequest) :
    coordinator.search indexName query request =
      coordinator.search indexName query (some (request.getD coordinator.firstPage)) := by
  rw [search, search, Option.getD_some]

end Coordinator

namespace Command

/-- What a command that looks for documents alone reports of an answer. -/
def answerReport (console : Console) : Except Failure (Page Metadata) → Report
  | .error failure => .failed console failure
  | .ok page =>
    pageReport console false (page.withContent (page.content.map fun metadata => (metadata, none)))

/-- A command does its work on the depot that it opens. -/
theorem fst_withDepot (opened : (Coordinator.openDepot world config none).1 = .ok coordinator)
    (work : Coordinator → Report × Coordinator) :
    (withDepot world (.ok config) work).1 = (work coordinator).1 := by
  rw [withDepot]
  cases both : Coordinator.openDepot world config none with
  | mk result after =>
    rw [both] at opened
    simp only at opened
    subst opened
    rfl

/-- A data folder of settings has no null character in its name when the path of the index has
none. -/
theorem noNull_of_settings {environment : List (String × String)} {folder : String}
    (settled : settings world environment (some folder) = .ok config)
    (noNull : config.indexPath.holdsNull = false) : (Path.ofText folder).holdsNull = false := by
  rw [settings] at settled
  split at settled
  · cases settled
  · cases settled
    change ((Path.ofText folder).child "blobsearch.db").holdsNull = false at noNull
    rw [Path.holdsNull_child, Bool.or_eq_false_iff] at noNull
    exact noNull.1

end Command

/-- The service searches as a body in form asks. -/
theorem Http.searchBody_of_read {given : Datum} {body : Http.SearchBody}
    (read : Http.SearchBody.read given = .ok body)
    (run : Option Query → Option PageRequest → Except Failure (Page Metadata)) :
    Http.searchBody coordinator (some given) run Metadata.toDatum =
      .ofResult (fun page => .success (page.toDatum Metadata.toDatum))
        (Http.searchOf body coordinator.defaultPageSize >>= fun asked => run asked.1 asked.2) := by
  cases given with
  | record entries =>
    simp only [Http.searchBody, read]
    cases Http.searchOf body coordinator.defaultPageSize <;> rfl
  | _ => cases read

end

/-! ## The page of an inquiry -/

namespace Inquiry

/-- The request for the page of an inquiry. -/
def request (inquiry : Inquiry) {defaultSize : Nat} (allowed : inquiry.Allowed defaultSize) :
    PageRequest :=
  ⟨inquiry.page, inquiry.size.getD defaultSize, inquiry.order, allowed.positive⟩

section

variable {inquiry : Inquiry} {coordinator : Coordinator}
  (allowed : inquiry.Allowed coordinator.defaultPageSize)

/-- The page of an inquiry can be asked for. -/
theorem make_request :
    PageRequest.make inquiry.page (inquiry.size.getD coordinator.defaultPageSize : Nat)
      inquiry.order = .ok (inquiry.request allowed) := by
  have positive := allowed.positive
  have notNegative : ¬ (inquiry.page : Int) < 0 := by omega
  have sizeBound : (1 : Int) ≤ (inquiry.size.getD coordinator.defaultPageSize : Nat) := by omega
  rw [PageRequest.make, if_neg notNegative, dif_pos sizeBound]
  rfl

/-- An inquiry is answered with why its query cannot be read or with what the search answers. -/
theorem answer_eq :
    inquiry.answer coordinator =
      match inquiry.query with
      | .error failure => .error failure
      | .ok query =>
        coordinator.search inquiry.indexName query (some (inquiry.request allowed)) := by
  rw [answer, make_request allowed]
  cases inquiry.query <;> rfl

end

/-! ## The command -/

/-- A command reads the query of an inquiry. -/
theorem IsDocument.readQuery {inquiry : Inquiry} {document : Option Text}
    (isDocument : inquiry.IsDocument document) :
    Command.readQuery [] [] document = inquiry.query.mapError .failure := by
  have pairs : Command.readPairs "--eq" [] = .ok [] := rfl
  cases document with
  | none =>
    have noEntries : inquiry.entries = [] := isDocument
    rw [query, noEntries]
    rfl
  | some text =>
    obtain ⟨isRead, notEmpty⟩ := isDocument
    have notBlank : ¬ text.isEmpty = true := by
      intro isEmpty
      rw [Text.isEmpty, List.isEmpty_iff] at isEmpty
      rw [Json.read, isEmpty] at isRead
      cases isRead
    rw [Command.readQuery, pairs, Command.readDocument, if_neg notBlank, isRead, query,
      if_neg (by simpa using notEmpty)]
    cases judged : Query.read (.record inquiry.entries) with
    | error error =>
      simp only [judged]
      rfl
    | ok query =>
      simp only [judged]
      rfl

section

variable {inquiry : Inquiry} {console : Console} {world : World} {config : Config}
  {coordinator : Coordinator}

/-- A command orders by the order of an inquiry. -/
theorem sortOrder_arguments (inquiry : Inquiry) (document : Option Text) :
    Command.sortOrder (inquiry.arguments document) = inquiry.order := by
  rw [Command.sortOrder, order, arguments]
  cases inquiry.sort with
  | none => rfl
  | some name =>
    by_cases isEmpty : name = "" <;> cases inquiry.direction <;>
      simp [Option.filter_some, isEmpty]

/-- A command that looks for documents alone shows what is answered. -/
theorem searchRows_eq (document : Option Text) (query : Option Query) (request : PageRequest) :
    Command.searchRows coordinator (inquiry.arguments document) query request =
      (coordinator.search inquiry.indexName query (some request)).map fun page =>
        page.withContent (page.content.map fun metadata => (metadata, none)) := by
  rw [Command.searchRows, arguments]
  cases coordinator.search inquiry.indexName query (some request) <;> rfl

/-- A command shows the report of what is answered on the depot that it opens. -/
theorem runSearch_eq (opened : (Coordinator.openDepot world config none).1 = .ok coordinator)
    (allowed : inquiry.Allowed coordinator.defaultPageSize) {document : Option Text}
    (isDocument : inquiry.IsDocument document) :
    (Command.runSearch console world (.ok config) (inquiry.arguments document)).1 =
      Command.answerReport console (inquiry.answer coordinator) := by
  have made {size : Int} (given : ∀ count : Nat, inquiry.size = some count → size = count)
      (absent : inquiry.size = none → size = config.defaultPageSize) :
      PageRequest.make inquiry.page size inquiry.order = .ok (inquiry.request allowed) := by
    rw [← make_request allowed]
    cases isSize : inquiry.size with
    | none =>
      rw [absent isSize, ← Coordinator.defaultPageSize_of_openDepot opened, Option.getD_none]
    | some count => rw [given count isSize, Option.getD_some]
  have asked := sortOrder_arguments inquiry document
  have rows := @searchRows_eq inquiry coordinator document
  rw [answer_eq allowed, Command.runSearch]
  simp only [arguments] at asked rows ⊢
  rw [isDocument.readQuery, asked]
  cases inquiry.query with
  | error error => rfl
  | ok query =>
    simp only [Except.mapError]
    split
    · rename_i error refused
      rw [made (fun count given => by rw [given]) (fun absent => by rw [absent])] at refused
      cases refused
    · rename_i request isMade
      rw [made (fun count given => by rw [given]) (fun absent => by rw [absent])] at isMade
      cases isMade
      rw [Command.fst_withDepot opened, rows]
      cases coordinator.search inquiry.indexName query (some (inquiry.request allowed)) <;> rfl

/-- Words that ask for an inquiry show the report of what is answered on the depot that their
settings open. -/
theorem runWords_eq (opened : (Coordinator.openDepot world config none).1 = .ok coordinator)
    (allowed : inquiry.Allowed coordinator.defaultPageSize) {document : Option Text}
    (isDocument : inquiry.IsDocument document) {words : List String} {dataFolder : Option String}
    {environment : List (String × String)}
    (read : CommandLine.read words = .run ⟨.search (inquiry.arguments document), dataFolder⟩)
    (settled : Command.settings world environment dataFolder = .ok config) :
    (Command.runWords console world environment words).1 =
      Command.answerReport console (inquiry.answer coordinator) := by
  have noNull : ((CommandLine.mk (.search (inquiry.arguments document)) dataFolder).namedPaths.any
      fun text => (Path.ofText text).holdsNull) = false := by
    cases dataFolder with
    | none => rfl
    | some folder =>
      have inIndex := (Coordinator.settled_of_openDepot opened).1.indexNoNull
      have inFolder := Command.noNull_of_settings settled inIndex
      change ((Path.ofText folder).holdsNull || false) = false
      rw [inFolder, Bool.or_self]
  rw [← runSearch_eq opened allowed isDocument, Command.runWords, read]
  simp only [Command.run, noNull, Command.work, settled]
  rfl

/-! ## The service -/

/-- The service orders by the order of an inquiry. -/
theorem order_form (inquiry : Inquiry) :
    ((inquiry.form.sort.filter (!·.isEmpty)).map fun name : Text =>
      SortOrder.mk (.text name) (.text inquiry.form.direction.label)) = inquiry.order := by
  rw [order, form]
  cases inquiry.sort with
  | none => rfl
  | some name => by_cases isEmpty : name = "" <;> simp [Option.filter_some, isEmpty]

/-- The first page of the size of the settings is what an inquiry for no page in particular asks
for. -/
theorem request_eq_firstPage (allowed : inquiry.Allowed coordinator.defaultPageSize)
    (first : inquiry.page = 0) (noSize : inquiry.size = none) (noSort : inquiry.sort = none) :
    inquiry.request allowed = coordinator.firstPage := by
  simp only [request, Coordinator.firstPage, order, first, noSize, noSort, Option.getD_none,
    Option.filter_none, Option.map_none]

/-- The service reads the query of an inquiry, and asks for its page unless it is the first one of
everything. -/
theorem searchOf_form (allowed : inquiry.Allowed coordinator.defaultPageSize) :
    ∃ request : Option PageRequest, request.getD coordinator.firstPage = inquiry.request allowed ∧
      Http.searchOf inquiry.form coordinator.defaultPageSize =
        inquiry.query.map fun query => (query, request) := by
  have made : PageRequest.make inquiry.form.page
      (inquiry.form.size.getD coordinator.defaultPageSize : Nat) inquiry.order =
      .ok (inquiry.request allowed) := make_request allowed
  by_cases first : inquiry.form.size = none ∧ inquiry.form.page = 0 ∧ inquiry.form.sort = none
  · have noSort : inquiry.sort = none := Option.map_eq_none_iff.mp first.2.2
    refine ⟨none, (request_eq_firstPage allowed first.2.1 first.1 noSort).symm, ?_⟩
    simp only [Http.searchOf, if_pos first]
    rw [query, show inquiry.form.query = inquiry.entries from rfl]
    split
    · rfl
    · cases Query.read (.record inquiry.entries) <;> rfl
  · refine ⟨some (inquiry.request allowed), rfl, ?_⟩
    simp only [Http.searchOf, if_neg first, order_form, made]
    rw [query, show inquiry.form.query = inquiry.entries from rfl]
    split
    · rfl
    · cases Query.read (.record inquiry.entries) <;> rfl

/-- The service answers a body that asks for an inquiry. -/
theorem InBody.searchBody {body : Option Datum} (inBody : inquiry.InBody body)
    (allowed : inquiry.Allowed coordinator.defaultPageSize) :
    Http.searchBody coordinator body (coordinator.search inquiry.indexName) Metadata.toDatum =
      .ofResult (fun page => .success (page.toDatum Metadata.toDatum))
        (inquiry.answer coordinator) := by
  rw [answer_eq allowed]
  cases inBody with
  | nothing absent noQuery first noSize noSort =>
    have noneAsked : inquiry.query = .ok none := by
      rw [query, noQuery]
      rfl
    rw [noneAsked, request_eq_firstPage allowed first noSize noSort]
    rcases absent with rfl | rfl <;> rfl
  | form read =>
    obtain ⟨request, asked, searched⟩ := searchOf_form allowed
    rw [Http.searchBody_of_read read, searched]
    cases inquiry.query with
    | error error => rfl
    | ok query =>
      simp only [Except.map, bind, Except.bind]
      rw [Coordinator.search_getD, asked]

/-- The service sends what is answered on the depot that it opens. -/
theorem Posted.respond {request : Http.Request} (posted : inquiry.Posted request)
    (opened : (Coordinator.openDepot world config none).1 = .ok coordinator)
    (allowed : inquiry.Allowed coordinator.defaultPageSize) :
    (Http.respond world config request).1 =
      .ofResult (fun page => .success (page.toDatum Metadata.toDatum))
        (inquiry.answer coordinator) := by
  obtain ⟨target, body, isRead, inBody⟩ := posted
  rw [Http.respond, target]
  simp only [Http.follow, Http.withBody, isRead]
  rw [Http.withDepot_of_ok opened]
  exact inBody.searchBody allowed

end
end Inquiry

end Depot
