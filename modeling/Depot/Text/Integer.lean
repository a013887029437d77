/-!
# Integers in text

The decimal digits of Unicode 14 (general category `Nd`) come in blocks of ten, so the
table holds the code point of each block's zero. `isSpace` is the property `White_Space`.

An integer is an optional sign and decimal digits of any script, with single underscores
allowed between digits and spaces allowed around the whole. Texts with more digits than
`digitLimit` are refused.
-/

namespace Depot.Text

/-- The code points of the digit zero in every script that has decimal digits. -/
def digitZeros : Array Nat := #[
  48, 1632, 1776, 1984, 2406, 2534, 2662, 2790, 2918, 3046, 3174,
  3302, 3430, 3558, 3664, 3792, 3872, 4160, 4240, 6112, 6160, 6470,
  6608, 6784, 6800, 6992, 7088, 7232, 7248, 42528, 43216, 43264, 43472,
  43504, 43600, 44016, 65296, 66720, 68912, 69734, 69872, 69942, 70096, 70384,
  70736, 70864, 71248, 71360, 71472, 71904, 72016, 72784, 73040, 73120, 92768,
  92864, 93008, 120782, 120792, 120802, 120812, 120822, 123200, 123632, 125264, 130032]

/-- The value of a decimal digit of any script. -/
def decimalDigit? (char : Char) : Option Nat :=
  (digitZeros.find? fun start => start ≤ char.toNat && char.toNat < start + 10).map fun start =>
    char.toNat - start

/-- A character of the Unicode property `White_Space`. -/
def isSpace (char : Char) : Bool :=
  let code := char.toNat
  (9 ≤ code && code ≤ 13) || code == 32 || code == 133 || code == 160 || code == 5760 ||
    (8192 ≤ code && code ≤ 8202) || code == 8232 || code == 8233 || code == 8239 ||
    code == 8287 || code == 12288

/-- The greatest number of digits that is read as an integer. -/
def digitLimit : Nat := 4300

/-- Removes spaces at both ends. -/
def trimSpaces (text : List Char) : List Char :=
  ((text.dropWhile isSpace).reverse.dropWhile isSpace).reverse

/-- The values of a run of digits in which single underscores may separate digits. -/
def separatedDigits? : List Char → Option (List Nat)
  | [] => none
  | [last] => (decimalDigit? last).map fun value => [value]
  | char :: '_' :: rest => do
    let value ← decimalDigit? char
    let others ← separatedDigits? rest
    some (value :: others)
  | char :: rest => do
    let value ← decimalDigit? char
    let others ← separatedDigits? rest
    some (value :: others)

/-- The natural with the given decimal digits, most significant first. -/
def ofDigitValues (digits : List Nat) : Nat :=
  digits.foldl (fun value digit => 10 * value + digit) 0

/-- The natural that a run of digits denotes. -/
def natural? (text : List Char) : Option Nat := do
  let digits ← separatedDigits? text
  if digits.length ≤ digitLimit then some (ofDigitValues digits) else none

/-- The integer that a text without surrounding spaces denotes. -/
def signedInteger? : List Char → Option Int
  | '-' :: digits => (natural? digits).map fun value => -(value : Int)
  | '+' :: digits => (natural? digits).map Int.ofNat
  | digits => (natural? digits).map Int.ofNat

/-- The integer that a text denotes. -/
def integer? (text : String) : Option Int := signedInteger? (trimSpaces text.toList)

end Depot.Text
