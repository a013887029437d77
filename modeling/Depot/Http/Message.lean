import Depot.Datum.Basic

/-!
# Requests and responses

What goes to the service and what comes back. Failures that are nobody's to read have a
status and nothing else.
-/

namespace Depot.Http

/-- The body of a request. -/
structure Body where
  bytes : List UInt8
  /-- Whether the body is said to be JSON. -/
  isJson : Bool

/-- A request. -/
structure Request where
  method : String
  path : String
  parameters : List (String × String)
  body : Body

namespace Request

/-- The value of a parameter; of several values the last one counts. -/
def parameter? (request : Request) (name : String) : Option String :=
  ((request.parameters.filter fun parameter => parameter.1 == name).map Prod.snd).getLast?

end Request

/-- A response. -/
inductive Response where
  /-- A JSON value. -/
  | json (status : Nat) (content : Datum)
  /-- Bytes of a content type. -/
  | bytes (contentType : String) (content : List UInt8)
  /-- A status alone. -/
  | bare (status : Nat)
  /-- The request is to be sent to another path. -/
  | redirect (path : String)

/-! ## Statuses -/

/-- The status of success. -/
def statusOk : Nat := 200

/-- The status of a request that has no meaning. -/
def statusBadRequest : Nat := 400

/-- The status of something that is not there. -/
def statusNotFound : Nat := 404

/-- The status of a path that does not know the method. -/
def statusWrongMethod : Nat := 405

/-- The status of a body that does not have the right form. -/
def statusUnprocessable : Nat := 422

/-- The status of a failure that was not foreseen. -/
def statusFailed : Nat := 500

/-- The status of a store that is out of reach. -/
def statusUnavailable : Nat := 503

namespace Response

/-- A response with a remark. -/
def detail (status : Nat) (text : String) : Response :=
  .json status (.record [("detail", .text text)])

/-- The response to a path that leads nowhere. -/
def notFound : Response := detail statusNotFound "Not Found"

/-- The response to a path that does not know the method. -/
def wrongMethod : Response := detail statusWrongMethod "Method Not Allowed"

end Response
end Depot.Http
