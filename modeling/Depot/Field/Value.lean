import Depot.Field.Name

/-!
# Field values

A field holds a boolean, an integer of 64 bits, a binary64 number or a text. The index
keeps booleans as the integers zero and one beside the kind of the value, so that a
value comes back with the type it was given.
-/

namespace Depot

/-- The least and the greatest integer that the index can keep. -/
def leastInteger : Int := -9223372036854775808

/-- The greatest integer that the index can keep. -/
def greatestInteger : Int := 9223372036854775807

/-- Whether the index can keep an integer. -/
def fitsInteger (value : Int) : Bool := leastInteger ≤ value && value ≤ greatestInteger

/-- The value of a stored field. -/
inductive FieldValue where
  | boolean (value : Bool)
  | integer (value : Int)
  | real (value : Binary64)
  | text (value : Text)
  deriving DecidableEq

namespace FieldValue

/-- The value as a datum. -/
def toDatum : FieldValue → Datum
  | boolean value => .boolean value
  | integer value => .integer value
  | real value => .real value
  | text value => .text value

/-- The field value that a datum is, if its shape is one of the four. -/
def ofDatum? : Datum → Option FieldValue
  | .boolean value => some (boolean value)
  | .integer value => some (integer value)
  | .real value => some (real value)
  | .text value => some (text value)
  | _ => none

/-- A value reads back from its datum. -/
@[simp] theorem ofDatum?_toDatum (value : FieldValue) : ofDatum? value.toDatum = some value := by
  cases value <;> rfl

/-- Reading a datum as a value keeps the datum. -/
theorem toDatum_of_ofDatum? {given : Datum} {value : FieldValue}
    (accepted : ofDatum? given = some value) : value.toDatum = given := by
  cases given <;> cases accepted <;> rfl

/-- Whether the index can keep the value; only integers can be out of range. -/
def fits : FieldValue → Bool
  | integer value => fitsInteger value
  | _ => true

/-- Whether the value is the not-a-number word. -/
def isNaN : FieldValue → Bool
  | real value => value.isNaN
  | _ => false

end FieldValue

/-- The three kinds of values that queries keep apart. -/
inductive ValueKind where
  | string
  | number
  | boolean
  deriving DecidableEq

namespace ValueKind

/-- The name under which the index keeps a kind. -/
def label : ValueKind → String
  | string => "string"
  | number => "number"
  | boolean => "boolean"

/-- Different kinds have different labels. -/
theorem label_injective {left right : ValueKind} (same : left.label = right.label) :
    left = right := by
  cases left <;> cases right <;> first | rfl | exact absurd same (by decide)

end ValueKind

/-- The kind of a field value. -/
def FieldValue.kind : FieldValue → ValueKind
  | .boolean _ => .boolean
  | .integer _ => .number
  | .real _ => .number
  | .text _ => .string

/-- Values as the index keeps them: booleans have become integers, texts are encoded. -/
inductive StoredValue where
  | integer (value : Int)
  | real (value : Binary64)
  | text (value : String)
  deriving DecidableEq

namespace StoredValue

/-- The stored value as a datum. -/
def toDatum : StoredValue → Datum
  | integer value => .integer value
  | real value => .real value
  | text value => .text value

end StoredValue

/-- Values as they are handed to the index beside a statement: booleans have become integers,
and texts are still to be encoded. -/
inductive Parameter where
  | integer (value : Int)
  | real (value : Binary64)
  | text (value : Text)
  deriving DecidableEq

namespace Parameter

/-- The parameter as a datum. -/
def toDatum : Parameter → Datum
  | integer value => .integer value
  | real value => .real value
  | text value => .text value

/-- The stored form of a parameter. -/
def encode : Parameter → Except EncodingFault StoredValue
  | integer value => .ok (.integer value)
  | real value => .ok (.real value)
  | text value => do .ok (.text (← value.encode))

/-- Encoding a parameter keeps it as a datum. -/
theorem toDatum_of_encode {parameter : Parameter} {stored : StoredValue}
    (done : parameter.encode = .ok stored) : stored.toDatum = parameter.toDatum := by
  cases parameter with
  | integer value => cases done; rfl
  | real value => cases done; rfl
  | text value =>
    cases encoded : value.encode with
    | error fault => simp [encode, encoded, bind, Except.bind] at done
    | ok text =>
      simp only [encode, encoded, bind, Except.bind, Except.ok.injEq] at done
      subst done
      simp only [StoredValue.toDatum, toDatum, Text.ofString_of_encode encoded]

end Parameter

/-- The form in which a value is handed to the index. -/
def FieldValue.parameter : FieldValue → Parameter
  | .boolean value => .integer (if value then 1 else 0)
  | .integer value => .integer value
  | .real value => .real value
  | .text value => .text value

/-- The form in which the index keeps any datum: booleans become integers. -/
def Datum.stored : Datum → Datum
  | .boolean value => .integer (if value then 1 else 0)
  | other => other

/-- Gives a stored datum the type that its kind names; an unknown kind changes nothing. -/
def Datum.restore (kind : String) (stored : Datum) : Datum :=
  if kind = ValueKind.boolean.label then .boolean stored.isTruthy
  else if kind = ValueKind.string.label then .text stored.display
  else stored

/-- A value that was handed over with its kind comes back unchanged. -/
theorem Datum.restore_parameter (value : FieldValue) :
    Datum.restore value.kind.label value.parameter.toDatum = value.toDatum := by
  rcases value with flag | number | real | text
  · cases flag <;> rfl
  · rfl
  · rfl
  · rfl

/-- A value that was stored with its kind comes back unchanged. -/
theorem Datum.restore_stored {value : FieldValue} {stored : StoredValue}
    (done : value.parameter.encode = .ok stored) :
    Datum.restore value.kind.label stored.toDatum = value.toDatum := by
  rw [Parameter.toDatum_of_encode done, Datum.restore_parameter]

end Depot
