import Depot.Real.Decimal
import Depot.Text.Integer

/-!
# Numerals

A numeral is an integer as requests and command lines give it. In its plain form it has an
optional minus sign and ASCII digits that start with no zero. Any other text is first put into
that form: spaces around it, a plus sign, zeros in front, a fraction of zeros and single
underscores inside it do not count. Numerals with more characters than `digitLimit` are
refused.
-/

namespace Depot.Text

/-- Whether digits are a natural in plain form: a single zero, or digits that start with no
zero. -/
def isPlainNatural (digits : List Char) : Bool :=
  digits == ['0'] || (digits.all isDigit && digits.head?.any (· != '0'))

/-- The sign and the digits of a text. -/
def splitSign : List Char → Bool × List Char
  | '-' :: digits => (true, digits)
  | digits => (false, digits)

/-- Whether a text is an integer in plain form. -/
def isPlain (text : List Char) : Bool := isPlainNatural (splitSign text).2

/-- The integer of a text in plain form, unless it is too long. -/
def plainValue? (text : List Char) : Option Int :=
  if digitLimit < text.length then none
  else
    let (negative, digits) := splitSign text
    let value : Int := naturalOfDigits digits
    some (if negative then -value else value)

/-- What is left of the characters after a zero once further zeros and underscores are passed
over: `last` is the one that was passed last. It stays if nothing follows, and before a
point. -/
def afterZeros? (last : Char) : List Char → Option (List Char)
  | [] => some [last]
  | '.' :: rest => some (last :: '.' :: rest)
  | char :: rest =>
    if char = '0' ∨ char = '_' then afterZeros? char rest
    else if char = '-' ∨ isDigit char then some (char :: rest)
    else none

/-- A text without the zeros that it starts with, if it starts with a digit. -/
def withoutLeadingZeros? : List Char → Option (List Char)
  | '0' :: rest => afterZeros? '0' rest
  | char :: rest => if isDigit char then some (char :: rest) else none
  | [] => none

/-- A text without a fraction of zeros; a point without zeros after it stays. -/
def withoutZeroFraction (text : List Char) : List Char :=
  match text.dropWhile (· ≠ '.') with
  | _ :: digit :: digits =>
    if (digit :: digits).all (· = '0') then text.takeWhile (· ≠ '.') else text
  | _ => text

/-- Whether two underscores stand side by side. -/
def hasDoubleUnderscore : List Char → Bool
  | '_' :: '_' :: _ => true
  | _ :: rest => hasDoubleUnderscore rest
  | [] => false

/-- A text without the single underscores inside it. -/
def withoutUnderscores (text : List Char) : List Char :=
  if text.head? = some '_' ∨ text.getLast? = some '_' ∨ hasDoubleUnderscore text then text
  else text.filter (· ≠ '_')

/-- A text without its sign: whether the sign is a minus, and the characters after it. -/
def unsigned? : List Char → Option (Bool × List Char)
  | '+' :: '-' :: _ => none
  | '+' :: rest => some (false, rest)
  | '-' :: rest => some (true, rest)
  | rest => some (false, rest)

/-- A text put into plain form, as far as that is possible. -/
def simplified? (text : List Char) : Option (List Char) := do
  let (negative, unsigned) ← unsigned? (trimSpaces text)
  let digits ← withoutLeadingZeros? unsigned
  let plain := withoutUnderscores (withoutZeroFraction digits)
  some (if negative then '-' :: plain else plain)

/-- The integer of a numeral. -/
def numeral? (text : String) : Option Int :=
  if isPlain text.toList then plainValue? text.toList
  else do
    let plain ← simplified? text.toList
    if isPlain plain then plainValue? plain else none

end Depot.Text
