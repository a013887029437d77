import Depot.Text.Basic
import Depot.Text.Printable

/-!
# Quoted text in messages

A message shows text and bytes as quoted literals. Single quotes are used unless the
content has a single quote and no double quote; the backslash, the quote in use, line
feed, carriage return and tab are escaped, and symbols without a printed form are written
as hexadecimal escapes of two, four or eight digits.
-/

namespace Depot.Text

/-- The lower-case hexadecimal digit of a value below sixteen. -/
def hexDigit (value : Nat) : Char :=
  Char.ofNat (if value < 10 then 48 + value else 87 + value)

/-- The last `width` hexadecimal digits of a natural, most significant first. -/
def hexDigits : (width value : Nat) → List Char
  | 0, _ => []
  | width + 1, value => hexDigits width (value / 16) ++ [hexDigit (value % 16)]

/-- The hexadecimal digits of a fixed width have that width. -/
theorem length_hexDigits (width value : Nat) : (hexDigits width value).length = width := by
  induction width generalizing value with
  | zero => rfl
  | succ width inductionHypothesis => simp [hexDigits, inductionHypothesis]

/-- The quote that encloses a literal with the given content. -/
def quoteFor (content : List Symbol) : Char :=
  if content.contains (.char '\'') && !content.contains (.char '"') then '"' else '\''

/-- The escape of a symbol by its code point, in the narrowest form. -/
def codeEscape (code : Nat) : List Char :=
  if code < 0x100 then '\\' :: 'x' :: hexDigits 2 code
  else if code < 0x10000 then '\\' :: 'u' :: hexDigits 4 code
  else '\\' :: 'U' :: hexDigits 8 code

/-- A character inside a literal enclosed by `quote`; `plain` tells which characters
stand for themselves. -/
def escapeChar (plain : Char → Bool) (quote char : Char) : List Char :=
  if char = quote ∨ char = '\\' then ['\\', char]
  else if char = '\n' then ['\\', 'n']
  else if char = '\r' then ['\\', 'r']
  else if char = '\t' then ['\\', 't']
  else if plain char then [char]
  else codeEscape char.toNat

/-- A symbol inside a literal; half of a pair has no printed form. -/
def escapeSymbol (plain : Char → Bool) (quote : Char) : Symbol → List Char
  | .char value => escapeChar plain quote value
  | .half offset => codeEscape (Symbol.half offset).code

/-- The literal of a run of symbols. -/
def quoteSymbols (plain : Char → Bool) (content : List Symbol) : List Char :=
  let quote := quoteFor content
  quote :: content.flatMap (escapeSymbol plain quote) ++ [quote]

/-- The literal of a text. -/
def quoted (content : Text) : String :=
  String.ofList (quoteSymbols isPrintable content.symbols)

/-- The literal of a run of bytes, with a `b` in front. -/
def quotedBytes (content : List UInt8) : String :=
  let plain (char : Char) : Bool := 32 ≤ char.toNat && char.toNat < 127
  String.ofList
    ('b' :: quoteSymbols plain (content.map fun byte => .char (Char.ofNat byte.toNat)))

end Depot.Text
