import Depot.Text.Basic

/-!
# UTF-16 and UTF-32

Text is written in one of two byte orders: in code units of two bytes, where a character
beyond the first 65536 takes a pair of units, a high and a low surrogate, or in code points
of four bytes. Half of a pair that stands alone is a symbol of its own.
-/

namespace Depot

/-- Which byte of a number comes first. -/
inductive ByteOrder where
  | bigEndian
  | littleEndian
  deriving DecidableEq

/-- The number of bytes that stand in a byte order. -/
def ByteOrder.value (order : ByteOrder) (bytes : List UInt8) : Nat :=
  let significantFirst := match order with
    | bigEndian => bytes
    | littleEndian => bytes.reverse
  significantFirst.foldl (fun value byte => 256 * value + byte.toNat) 0

namespace Utf16

/-- The first half of a pair of code units. -/
def isHighSurrogate (unit : Nat) : Bool := 0xD800 ≤ unit && unit ≤ 0xDBFF

/-- The second half of a pair of code units. -/
def isLowSurrogate (unit : Nat) : Bool := 0xDC00 ≤ unit && unit ≤ 0xDFFF

/-- The character of a pair of code units. -/
def ofSurrogates (high low : Nat) : Char :=
  Char.ofNat (0x10000 + 1024 * (high - 0xD800) + (low - 0xDC00))

/-- The code units of bytes, of which there has to be an even number. -/
def units? (order : ByteOrder) : List UInt8 → Option (List Nat)
  | [] => some []
  | [_] => none
  | first :: second :: rest => do
    let later ← units? order rest
    some (order.value [first, second] :: later)

/-- The symbols of code units. -/
def ofUnits : List Nat → List Symbol
  | [] => []
  | [unit] => [.ofCode unit]
  | first :: second :: rest =>
    if isHighSurrogate first && isLowSurrogate second then
      .char (ofSurrogates first second) :: ofUnits rest
    else .ofCode first :: ofUnits (second :: rest)

/-- The text of bytes in a byte order. -/
def read? (order : ByteOrder) (bytes : List UInt8) : Option Text :=
  (units? order bytes).map fun units => ⟨ofUnits units⟩

end Utf16

namespace Utf32

/-- The first number that is no code point. -/
def codePointLimit : Nat := 0x110000

/-- The symbols of bytes, whose number has to be a multiple of four. -/
def symbols? (order : ByteOrder) : List UInt8 → Option (List Symbol)
  | [] => some []
  | first :: second :: third :: fourth :: rest => do
    let code := order.value [first, second, third, fourth]
    let later ← symbols? order rest
    if code < codePointLimit then some (.ofCode code :: later) else none
  | _ => none

/-- The text of bytes in a byte order. -/
def read? (order : ByteOrder) (bytes : List UInt8) : Option Text :=
  (symbols? order bytes).map fun symbols => ⟨symbols⟩

end Utf32
end Depot
