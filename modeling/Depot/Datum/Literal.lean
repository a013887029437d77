import Depot.Datum.Basic
import Depot.Real.Decimal
import Depot.Text.Integer
import Depot.Text.Quoted

/-!
# Data in messages

`Datum.literal` writes a datum so that its shape can be told from its text: text is
quoted, sequences stand in brackets and records in braces. `Datum.display` differs on
text alone, which it shows as it is. Integers are written with no more than `digitLimit`
digits; a message that asks for a longer one cannot be made.
-/

namespace Depot.Datum

/-- The parts of an enumeration, separated by a comma and a space. -/
def enumerated (parts : List String) : String := ", ".intercalate parts

mutual

/-- The literal of a datum. -/
def literal : Datum → String
  | null => "None"
  | boolean value => if value then "True" else "False"
  | integer value => toString value
  | real value => DecimalStyle.message.text value
  | text value => Text.quoted value
  | bytes value => Text.quotedBytes value
  | sequence items => "[" ++ enumerated (literals items) ++ "]"
  | record entries => "\x7b" ++ enumerated (entryLiterals entries) ++ "\x7d"

/-- The literals of the items of a sequence. -/
def literals : List Datum → List String
  | [] => []
  | item :: rest => literal item :: literals rest

/-- The literals of the entries of a record, each key before its value. -/
def entryLiterals : List (Text × Datum) → List String
  | [] => []
  | (key, value) :: rest => (Text.quoted key ++ ": " ++ literal value) :: entryLiterals rest

end

/-- Whether an integer has no more digits than are written. -/
def isWritableInteger (value : Int) : Bool := value.natAbs < Nat.pow 10 Text.digitLimit

mutual

/-- Whether the literal of a datum can be made. -/
def isWritable : Datum → Bool
  | integer value => isWritableInteger value
  | sequence items => areWritable items
  | record entries => entriesWritable entries
  | _ => true

/-- Whether the literals of the items of a sequence can be made. -/
def areWritable : List Datum → Bool
  | [] => true
  | item :: rest => isWritable item && areWritable rest

/-- Whether the literals of the entries of a record can be made. -/
def entriesWritable : List (Text × Datum) → Bool
  | [] => true
  | (_, value) :: rest => isWritable value && entriesWritable rest

end

/-- Text can be written. -/
@[simp] theorem isWritable_text (value : Text) : isWritable (text value) = true := by
  simp only [isWritable]

/-- What is said of an integer with more digits than are written. -/
def unwritableText : String :=
  "Exceeds the limit (4300 digits) for integer string conversion; " ++
    "use sys.set_int_max_str_digits() to increase the limit"

/-- A datum as running text. -/
def display : Datum → Text
  | text value => value
  | other => literal other

/-- Text is displayed as it is. -/
@[simp] theorem display_text (value : Text) : display (text value) = value := rfl

end Depot.Datum
