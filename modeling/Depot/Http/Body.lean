import Depot.Field.Value
import Depot.Http.Message
import Depot.Json.Encoding
import Depot.Json.Reader
import Depot.Paging
import Depot.Text.Numeral

/-!
# Forms of bodies

The bodies of requests that file documents and that search are JSON values of a fixed form.
Texts have to be texts and field values have to be of one of the four shapes, whereas the
numbers of a page may be given as integers, as booleans, as reals without a fraction, or as
numerals. Entries that are not known are ignored. A body of another form comes back as the
list of everything in it that was refused.
-/

namespace Depot.Http

/-- Why a body that is said to be JSON holds no value. -/
inductive BodyFault where
  /-- The text is no JSON document. -/
  | malformed
  /-- The bytes cannot be read at all. -/
  | unreadable
  deriving DecidableEq

/-- What a body holds: nothing if it is empty, a JSON value if it is said to be JSON, and its
bytes otherwise. -/
def Body.read (body : Body) : Except BodyFault (Option Datum) :=
  if body.bytes.isEmpty then .ok none
  else if !body.isJson then .ok (some (.bytes body.bytes))
  else
    match Json.decode? body.bytes with
    | none => .error .unreadable
    | some text =>
      match Json.read text with
      | .ok value => .ok (some value)
      | .error (.malformed _ _) => .error .malformed
      | .error (.tooManyDigits _) => .error .unreadable

/-! ## Numbers -/

/-- The integer that a real denotes, if it has no fraction and lies strictly between the
powers of two that bound the integers of 64 bits. -/
def realInteger? (value : Binary64) : Option Int :=
  if value.isFinite then
    let exact := value.toRat
    if exact.den = 1 ∧ leastInteger < exact.num ∧ exact.num ≤ greatestInteger then
      some exact.num
    else none
  else none

/-- The integer that a datum is given for. -/
def integerOf? : Datum → Option Int
  | .integer value => some value
  | .boolean value => some (if value then 1 else 0)
  | .real value => realInteger? value
  | .text value => value.toString?.bind Text.numeral?
  | _ => none

/-- The natural that a datum is given for, which must not be below `least`. -/
def naturalOf? (least : Nat) (given : Datum) : Option Nat :=
  (integerOf? given).bind fun value => if (least : Int) ≤ value then some value.toNat else none

/-! ## Forms -/

/-- A part of a form, or the data that were refused in its place. -/
abbrev Part (α : Type) := Except (List Datum) α

namespace Part

/-- The data that were refused in place of a part. -/
def refused {α : Type} : Part α → List Datum
  | .ok _ => []
  | .error data => data

/-- A datum that stands for a part, or is refused. -/
def ofOption {α : Type} (given : Datum) : Option α → Part α
  | some value => .ok value
  | none => .error [given]

/-- A text that has to be there; the whole body is refused if it is not. -/
def requiredText (whole : Datum) : Option Datum → Part Text
  | none => .error [whole]
  | some given => ofOption given given.text?

/-- A part that may be absent or null. -/
def optional {α : Type} (read? : Datum → Option α) : Option Datum → Part (Option α)
  | none | some .null => .ok none
  | some given => ofOption given ((read? given).map some)

/-- A part that may be absent but not null. -/
def withDefault {α : Type} (default : α) (read? : Datum → Option α) : Option Datum → Part α
  | none => .ok default
  | some given => ofOption given (read? given)

end Part

/-- The fields of a document in one of two forms, each value of an accepted shape. -/
inductive FieldsBody where
  | named (entries : List (Text × FieldValue))
  | listed (items : List (Text × FieldValue))

namespace FieldsBody

/-- An item of a list of fields. -/
def readItem? : Datum → Option (Text × FieldValue)
  | .record entries => do
    let name ← (← Datum.entry? "name" entries).text?
    let value ← FieldValue.ofDatum? (← Datum.entry? "value" entries)
    some (name, value)
  | _ => none

/-- The fields of a datum. -/
def read? : Datum → Option FieldsBody
  | .record entries =>
    (entries.mapM fun entry => (FieldValue.ofDatum? entry.2).map fun value =>
      (entry.1, value)).map named
  | .sequence items => (items.mapM readItem?).map listed
  | _ => none

end FieldsBody

/-- The body of a request that files a document. -/
structure FilingBody where
  indexName : Text
  contentHash : Text
  documentId : Option Text
  contentType : Option Text
  fields : Option FieldsBody

/-- The body that a datum has the form of. -/
def FilingBody.read : Datum → Part FilingBody
  | .record entries =>
    let whole : Datum := .record entries
    let indexName := Part.requiredText whole (Datum.entry? "index" entries)
    let contentHash := Part.requiredText whole (Datum.entry? "hash" entries)
    let documentId := Part.optional Datum.text? (Datum.entry? "id" entries)
    let contentType := Part.optional Datum.text? (Datum.entry? "content_type" entries)
    let fields := Part.optional FieldsBody.read? (Datum.entry? "fields" entries)
    match indexName, contentHash, documentId, contentType, fields with
    | .ok indexName, .ok contentHash, .ok documentId, .ok contentType, .ok fields =>
      .ok ⟨indexName, contentHash, documentId, contentType, fields⟩
    | _, _, _, _, _ =>
      .error (Part.refused indexName ++ Part.refused contentHash ++ Part.refused documentId ++
        Part.refused contentType ++ Part.refused fields)
  | other => .error [other]

/-- The body of a request that searches. -/
structure SearchBody where
  /-- The entries of the query document. -/
  query : List (Text × Datum)
  page : Nat
  size : Option Nat
  sort : Option Text
  direction : SortDirection

/-- The entries of a record. -/
def recordEntries? : Datum → Option (List (Text × Datum))
  | .record entries => some entries
  | _ => none

/-- The body that a datum has the form of. The page and the direction must not be null. -/
def SearchBody.read : Datum → Part SearchBody
  | .record entries =>
    let query := Part.optional recordEntries? (Datum.entry? "query" entries)
    let page := Part.withDefault 0 (naturalOf? 0) (Datum.entry? "page" entries)
    let size := Part.optional (naturalOf? 1) (Datum.entry? "size" entries)
    let sort := Part.optional Datum.text? (Datum.entry? "sort" entries)
    let direction :=
      Part.withDefault .ascending SortDirection.ofDatum? (Datum.entry? "direction" entries)
    match query, page, size, sort, direction with
    | .ok query, .ok page, .ok size, .ok sort, .ok direction =>
      .ok ⟨query.getD [], page, size, sort, direction⟩
    | _, _, _, _, _ =>
      .error (Part.refused query ++ Part.refused page ++ Part.refused size ++
        Part.refused sort ++ Part.refused direction)
  | other => .error [other]

end Depot.Http
