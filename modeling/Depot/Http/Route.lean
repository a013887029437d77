import Depot.File.Path
import Depot.Http.Message

/-!
# Routes

The paths that the service knows, each with its method. A path with slashes at its end that
would lead somewhere without them is answered with a redirection.
-/

namespace Depot.Http

/-- What a path leads to. -/
inductive Route where
  | health
  | store
  | file
  | storeAndFile (indexName : String)
  | fetch (indexName contentHash : String)
  | metadata (indexName documentId : String)
  | document (indexName documentId : String)
  | search (indexName : String)
  | searchAndFetch (indexName : String)
  | createIndex (indexName : String)
  /-- A path that is kept free for a description of the service. -/
  | description
  deriving DecidableEq

namespace Route

/-- The method of a route. -/
def method : Route → String
  | health | fetch .. | metadata .. | document .. | description => "GET"
  | _ => "POST"

/-- The route of a path of a single word. -/
def ofWord? (word : String) : Option Route :=
  if word = "health" then some health
  else if word = "store" then some store
  else if word = "index" then some file
  else if word = "docs" ∨ word = "redoc" ∨ word = "openapi.json" then some description
  else none

/-- A word at the end of a path; a line feed after it does not count. -/
def lastWord (word : String) : String :=
  if word.endsWith "\n" then String.ofList word.toList.dropLast else word

/-- The route of the components of a path after its first slash. No component that stands
for a name may be empty. -/
def ofComponents? : List String → Option Route
  | [word] => ofWord? (lastWord word)
  | [word, name] =>
    if name = "" then none
    else if word = "docs" ∧ lastWord name = "oauth2-redirect" then some description
    else if word = "store_index" then some (storeAndFile name)
    else if word = "search" then some (search name)
    else if word = "search_fetch" then some (searchAndFetch name)
    else none
  | [word, first, second] =>
    if second = "" then none
    else if word = "config" ∧ first = "index" then some (createIndex second)
    else if first = "" then none
    else if word = "fetch" then some (fetch first second)
    else if word = "metadata" then some (metadata first second)
    else if word = "documents" then some (document first second)
    else none
  | _ => none

/-- The route of the characters of a path. -/
def ofPath? (path : List Char) : Option Route :=
  match path with
  | '/' :: rest => ofComponents? ((Path.splitSlashes rest).map String.ofList)
  | _ => none

end Route

/-- Where a request is led to. -/
inductive Destination where
  | route (route : Route)
  | response (response : Response)

/-- Finds the destination of a method and a path. -/
def destination (method path : String) : Destination :=
  match Route.ofPath? path.toList with
  | some route => if route.method = method then .route route else .response .wrongMethod
  | none =>
    let shorter := (path.toList.reverse.dropWhile (· = '/')).reverse
    if path ≠ "/" ∧ path.endsWith "/" ∧ (Route.ofPath? shorter).isSome then
      .response (.redirect (String.ofList shorter))
    else .response .notFound

end Depot.Http
