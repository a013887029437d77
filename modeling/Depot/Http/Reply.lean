import Depot.Failure
import Depot.Http.Body
import Depot.Http.Message
import Depot.Metadata

/-!
# Responses of results

How results and failures become responses: the status of each family of failures, the values
that JSON can carry, and the content type of payloads.
-/

namespace Depot.Http.Response

/-! ## Failures -/

/-- The status of a failure that is meant for callers. -/
def statusOf? : Failure → Option Nat
  | .query _ => some statusBadRequest
  | .notFound _ => some statusNotFound
  | .storeUnavailable _ => some statusUnavailable
  | .indexUnavailable _ => some statusUnavailable
  | _ => none

/-- The response to a failure. -/
def ofFailure (failure : Failure) : Response :=
  match statusOf? failure with
  | some status => .detail status failure.message
  | none => .bare statusFailed

/-- The response to a body that is no JSON value. -/
def ofBodyFault : BodyFault → Response
  | .malformed => .bare statusUnprocessable
  | .unreadable => .detail statusBadRequest "There was an error parsing the body"

/-! ## Content -/

mutual

/-- A value as it is sent: an infinite real becomes null. -/
def sendable : Datum → Datum
  | .real value => if value.isInfinite then .null else .real value
  | .sequence items => .sequence (sendableItems items)
  | .record entries => .record (sendableEntries entries)
  | other => other

/-- The items of a sequence as they are sent. -/
def sendableItems : List Datum → List Datum
  | [] => []
  | item :: rest => sendable item :: sendableItems rest

/-- The entries of a record as they are sent. -/
def sendableEntries : List (Text × Datum) → List (Text × Datum)
  | [] => []
  | (key, value) :: rest => (key, sendable value) :: sendableEntries rest

end

mutual

/-- Whether a datum can be quoted in a response: all its reals are finite, all its texts can be
encoded, and all its bytes are text. -/
def isQuotable : Datum → Bool
  | .real value => value.isFinite
  | .text value => value.encodingFault?.isNone
  | .bytes value => (Utf8.read? value).isSome
  | .sequence items => areQuotable items
  | .record entries => areEntriesQuotable entries
  | _ => true

/-- Whether all items of a sequence can be quoted. -/
def areQuotable : List Datum → Bool
  | [] => true
  | item :: rest => isQuotable item && areQuotable rest

/-- Whether all keys and values of a record can be quoted. -/
def areEntriesQuotable : List (Text × Datum) → Bool
  | [] => true
  | (key, value) :: rest =>
    key.encodingFault?.isNone && isQuotable value && areEntriesQuotable rest

end

/-- The response to a body that does not have the right form. It quotes what was refused, and
fails if that cannot be sent. -/
def ofRefused (data : List Datum) : Response :=
  .bare (if areQuotable data then statusUnprocessable else statusFailed)

/-- A response of success with a JSON value. -/
def success (content : Datum) : Response := .json statusOk (sendable content)

/-- The content type of bytes whose content type is not known. -/
def anyContentType : String := "application/octet-stream"

/-- The greatest code point that a header admits. -/
def greatestHeaderCode : Nat := 255

/-- Text in lower case, as far as it is ASCII. -/
def lowerCase (text : String) : String := String.ofList (text.toList.map Char.toLower)

/-- Whether one list of characters stands inside another. -/
def occursIn (part : List Char) : List Char → Bool
  | [] => part.isEmpty
  | char :: rest => part.isPrefixOf (char :: rest) || occursIn part rest

/-- The content type as it is sent: text says how its characters are encoded. -/
def contentTypeHeader (contentType : String) : String :=
  if contentType.startsWith "text/" && !occursIn "charset=".toList (lowerCase contentType).toList
  then contentType ++ "; charset=utf-8"
  else contentType

/-- The response of bytes; a content type with characters that no header admits fails. -/
def ofBytes (contentType : String) (content : List UInt8) : Response :=
  let header := contentTypeHeader contentType
  if header.toList.all fun char => char.toNat ≤ greatestHeaderCode then .bytes header content
  else .bare statusFailed

/-- The response to a document that is not there. -/
def documentMissing (indexName documentId : String) : Response :=
  .detail statusNotFound ("Document " ++ documentId ++ " not found in " ++ indexName)

/-! ## Results -/

/-- The response of a result. -/
def ofResult {α : Type} (encode : α → Response) : Except Failure α → Response
  | .ok value => encode value
  | .error failure => ofFailure failure

/-- The response of a document that was filed. -/
def ofPlacement : Except Failure Placement → Response :=
  ofResult fun placement => success placement.toDatum

/-- The response to a document. -/
def ofRetrieved (indexName documentId : String) (retrieved : Retrieved) : Response :=
  match retrieved.metadata with
  | none => documentMissing indexName documentId
  | some metadata =>
    ofBytes ((metadata.contentType.filter (· != "")).getD anyContentType) retrieved.payload

end Depot.Http.Response
