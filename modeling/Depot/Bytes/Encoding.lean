import Depot.Text.Quoted

/-!
# Bytes as text

In hexadecimal text every byte is written as two lower-case digits; reading accepts both
cases. In Base64 text three bytes become four characters of six bits each; a last group of
one or two bytes is filled up with `=`.
-/

namespace Depot

namespace Hex

/-- The two digits of a byte. -/
def encodeByte (byte : UInt8) : List Char := Text.hexDigits 2 byte.toNat

/-- The hexadecimal text of a run of bytes. -/
def encode (bytes : List UInt8) : String := String.ofList (bytes.flatMap encodeByte)

/-- The value of a hexadecimal digit. -/
def digitValue? (char : Char) : Option Nat :=
  if '0' ≤ char ∧ char ≤ '9' then some (char.toNat - 48)
  else if 'a' ≤ char ∧ char ≤ 'f' then some (char.toNat - 87)
  else if 'A' ≤ char ∧ char ≤ 'F' then some (char.toNat - 55)
  else none

/-- Whether a character is a lower-case hexadecimal digit. -/
def isLowerDigit (char : Char) : Bool :=
  ('0' ≤ char && char ≤ '9') || ('a' ≤ char && char ≤ 'f')

/-- The bytes that pairs of digits denote. -/
def decodeChars? : List Char → Option (List UInt8)
  | [] => some []
  | [_] => none
  | high :: low :: rest => do
    let upper ← digitValue? high
    let lower ← digitValue? low
    let bytes ← decodeChars? rest
    some (UInt8.ofNat (16 * upper + lower) :: bytes)

/-- The bytes of a hexadecimal text. -/
def decode? (text : String) : Option (List UInt8) := decodeChars? text.toList

end Hex

namespace Base64

/-- The character of a value below sixty-four. -/
def digit (value : Nat) : Char :=
  if value < 26 then Char.ofNat (65 + value)
  else if value < 52 then Char.ofNat (71 + value)
  else if value < 62 then Char.ofNat (value - 4)
  else if value = 62 then '+'
  else '/'

/-- The characters of a run of bytes. -/
def encodeChars : List UInt8 → List Char
  | [] => []
  | [first] =>
    [digit (first.toNat / 4), digit (first.toNat % 4 * 16), '=', '=']
  | [first, second] =>
    [digit (first.toNat / 4), digit (first.toNat % 4 * 16 + second.toNat / 16),
      digit (second.toNat % 16 * 4), '=']
  | first :: second :: third :: rest =>
    digit (first.toNat / 4) :: digit (first.toNat % 4 * 16 + second.toNat / 16) ::
      digit (second.toNat % 16 * 4 + third.toNat / 64) :: digit (third.toNat % 64) ::
      encodeChars rest

/-- The Base64 text of a run of bytes. -/
def encode (bytes : List UInt8) : String := String.ofList (encodeChars bytes)

end Base64
end Depot
