import Depot.Entries
import Depot.Real.Binary64
import Depot.Text.Encoding

/-!
# Data of unknown shape

Callers hand over field names, values, identifiers and whole query documents before
anything is known about them. A `Datum` is such a value; the validating functions of
the library take data apart and either build a typed value or name what is wrong.

A record keeps its entries in the order in which the keys were first given; see
`Depot.Entries`.
-/

namespace Depot

/-- A value of any of the shapes that callers can hand over. -/
inductive Datum where
  | null
  | boolean (value : Bool)
  | integer (value : Int)
  | real (value : Binary64)
  | text (value : Text)
  | bytes (value : List UInt8)
  | sequence (items : List Datum)
  | record (entries : List (Text × Datum))
  deriving Inhabited

namespace Datum

/-- The name that messages give to the shape of a datum. -/
def typeName : Datum → String
  | null => "NoneType"
  | boolean _ => "bool"
  | integer _ => "int"
  | real _ => "float"
  | text _ => "str"
  | bytes _ => "bytes"
  | sequence _ => "list"
  | record _ => "dict"

/-- Null, false, zero and everything empty count as false; all else counts as true. -/
def isTruthy : Datum → Bool
  | null => false
  | boolean value => value
  | integer value => value != 0
  | real value => !value.isZero
  | text value => !value.isEmpty
  | bytes value => !value.isEmpty
  | sequence items => !items.isEmpty
  | record entries => !entries.isEmpty

/-- The text of a text datum. -/
def text? : Datum → Option Text
  | text value => some value
  | _ => none

/-- The string of a text datum whose text can be encoded. -/
def string? (datum : Datum) : Option String := datum.text?.bind Text.toString?

/-- An absent text is null. -/
def ofOptionalText : Option String → Datum
  | none => null
  | some value => text value

/-- The value of a name in the entries of a record. -/
def entry? (name : String) (entries : List (Text × Datum)) : Option Datum :=
  valueOf? (name : Text) entries

/-- Whether a datum is present, that is, not null. -/
def isPresent : Datum → Bool
  | null => false
  | _ => true

end Datum

end Depot
