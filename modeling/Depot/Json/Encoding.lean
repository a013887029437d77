import Depot.Text.Utf16
import Depot.Text.Utf8

/-!
# The encoding of JSON documents

A document that comes as bytes may start with a byte order mark, which tells its encoding and
does not count. Without one it starts with a character of ASCII, so the zeros among its first
bytes tell how wide its characters are and which byte of them comes first. A document without
such zeros is in UTF-8. Halves of surrogate pairs are let through.
-/

namespace Depot.Json

/-- The encodings of documents. -/
inductive Encoding where
  | utf8
  | utf16 (order : ByteOrder)
  | utf32 (order : ByteOrder)
  deriving DecidableEq

namespace Encoding

/-- The byte order marks with the encodings that they tell, the longer ones first. -/
def marks : List (List UInt8 × Encoding) := [
  ([0x00, 0x00, 0xFE, 0xFF], utf32 .bigEndian),
  ([0xFF, 0xFE, 0x00, 0x00], utf32 .littleEndian),
  ([0xFE, 0xFF], utf16 .bigEndian),
  ([0xFF, 0xFE], utf16 .littleEndian),
  ([0xEF, 0xBB, 0xBF], utf8)]

/-- The encoding that the first bytes of a document without a mark show. Fewer than four bytes
show it only when there are two of them. -/
def ofBytes : List UInt8 → Encoding
  | first :: second :: third :: fourth :: _ =>
    if first = 0 then (if second = 0 then utf32 .bigEndian else utf16 .bigEndian)
    else if second = 0 then
      if third = 0 ∧ fourth = 0 then utf32 .littleEndian else utf16 .littleEndian
    else utf8
  | [first, second] =>
    if first = 0 then utf16 .bigEndian
    else if second = 0 then utf16 .littleEndian
    else utf8
  | _ => utf8

/-- The text of a document in an encoding. -/
def read? (bytes : List UInt8) : Encoding → Option Text
  | utf8 => Utf8.readText? bytes
  | utf16 order => Utf16.read? order bytes
  | utf32 order => Utf32.read? order bytes

end Encoding

/-- The text of a document that comes as bytes. -/
def decode? (bytes : List UInt8) : Option Text :=
  match Encoding.marks.find? fun mark => mark.1.isPrefixOf bytes with
  | some (mark, encoding) => encoding.read? (bytes.drop mark.length)
  | none => (Encoding.ofBytes bytes).read? bytes

end Depot.Json
