import Depot.Datum.Basic
import Depot.Real.Decimal
import Depot.Text.Quoted

/-!
# Writing JSON

Values are written on one line with a blank after every comma and colon. Characters
outside ASCII stand for themselves; only the quote, the backslash, control characters and
halves of surrogate pairs are escaped.
-/

namespace Depot.Json

/-- A character inside a string. -/
def escapeChar (char : Char) : List Char :=
  if char = '"' then ['\\', '"']
  else if char = '\\' then ['\\', '\\']
  else if char = '\n' then ['\\', 'n']
  else if char = '\r' then ['\\', 'r']
  else if char = '\t' then ['\\', 't']
  else if char = '\x0c' then ['\\', 'f']
  else if char = '\x08' then ['\\', 'b']
  else if char.toNat < 32 then '\\' :: 'u' :: Text.hexDigits 4 char.toNat
  else [char]

/-- A symbol inside a string. -/
def escapeSymbol : Symbol → List Char
  | .char value => escapeChar value
  | .half offset => '\\' :: 'u' :: Text.hexDigits 4 (Symbol.half offset).code

/-- The text of a string. -/
def writeString (text : Text) : String :=
  String.ofList ('"' :: text.symbols.flatMap escapeSymbol ++ ['"'])

mutual

/-- The text of a value; bytes have no form of their own and are written as null. -/
def write : Datum → String
  | .null => "null"
  | .boolean value => if value then "true" else "false"
  | .integer value => toString value
  | .real value => DecimalStyle.json.text value
  | .text value => writeString value
  | .bytes _ => "null"
  | .sequence items => "[" ++ ", ".intercalate (writeItems items) ++ "]"
  | .record entries => "\x7b" ++ ", ".intercalate (writeEntries entries) ++ "\x7d"

/-- The texts of the items of a sequence. -/
def writeItems : List Datum → List String
  | [] => []
  | item :: rest => write item :: writeItems rest

/-- The texts of the entries of a record. -/
def writeEntries : List (Text × Datum) → List String
  | [] => []
  | (key, value) :: rest => (writeString key ++ ": " ++ write value) :: writeEntries rest

end

end Depot.Json
