import Depot.Text.Basic

/-!
# What can be wrong with JSON text

A document that cannot be read is either malformed at a position, which is reported with
its line and column, or holds an integer with more digits than are read.
-/

namespace Depot

/-- What was found at the position of a malformed document. -/
inductive JsonFault where
  | byteOrderMark
  | expectingValue
  | expectingName
  | expectingColon
  | expectingComma
  | extraData
  | unterminatedString
  | controlCharacter
  | invalidEscape
  | invalidUnicodeEscape
  deriving DecidableEq

/-- The wording of a fault. -/
def JsonFault.message : JsonFault → String
  | byteOrderMark => "Unexpected UTF-8 BOM (decode using utf-8-sig)"
  | expectingValue => "Expecting value"
  | expectingName => "Expecting property name enclosed in double quotes"
  | expectingColon => "Expecting ':' delimiter"
  | expectingComma => "Expecting ',' delimiter"
  | extraData => "Extra data"
  | unterminatedString => "Unterminated string starting at"
  | controlCharacter => "Invalid control character at"
  | invalidEscape => "Invalid \\escape"
  | invalidUnicodeEscape => "Invalid \\uXXXX escape"

/-- Why a document cannot be read. -/
inductive JsonError where
  | malformed (fault : JsonFault) (position : Nat)
  | tooManyDigits (count : Nat)
  deriving DecidableEq

namespace JsonError

/-- The line of a position, counted from one. -/
def line (document : Text) (position : Nat) : Nat :=
  (document.symbols.take position).count (.char '\n') + 1

/-- The column of a position, counted from one after the last line feed. -/
def column (document : Text) (position : Nat) : Nat :=
  ((document.symbols.take position).reverse.takeWhile (· ≠ .char '\n')).length + 1

/-- The wording of an error in a document. -/
def message (document : Text) : JsonError → String
  | malformed fault position =>
    fault.message ++ ": line " ++ toString (line document position) ++
      " column " ++ toString (column document position) ++
      " (char " ++ toString position ++ ")"
  | tooManyDigits count =>
    "Exceeds the limit (4300 digits) for integer string conversion: value has " ++
      toString count ++ " digits; use sys.set_int_max_str_digits() to increase the limit"

end JsonError
end Depot
