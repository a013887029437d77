import Depot.Text.Encoding

/-!
# UTF-8

Bytes are read one at a time. A byte that starts a longer sequence leaves a `Pending`
symbol, which says between which bounds the next byte has to lie; the bounds rule out
overlong forms, code points beyond the last one and, unless they are let through, the halves
of surrogate pairs. A sequence that breaks off makes one ill-formed piece, and the byte that
broke it is read anew.
-/

namespace Depot.Utf8

/-- A symbol of which some bytes have been read. -/
structure Pending where
  /-- The bits so far. -/
  value : Nat
  /-- The number of bytes after the next one. -/
  later : Nat
  /-- The least value of the next byte. -/
  least : Nat
  /-- The greatest value of the next byte. -/
  greatest : Nat
  deriving DecidableEq

/-- What the bytes so far have come to: pieces that are complete, an ill-formed one being
nothing, and a symbol that is not complete. -/
structure Progress where
  pieces : List (Option Symbol)
  pending : Option Pending
  deriving DecidableEq

/-- Reads the first byte of a symbol. -/
def start (lettingHalves : Bool) (byte : UInt8) : Progress :=
  let code := byte.toNat
  if code < 0x80 then ⟨[some (.ofCode code)], none⟩
  else if code < 0xC2 then ⟨[none], none⟩
  else if code < 0xE0 then ⟨[], some ⟨code - 0xC0, 0, 0x80, 0xBF⟩⟩
  else if code = 0xE0 then ⟨[], some ⟨0, 1, 0xA0, 0xBF⟩⟩
  else if code = 0xED then ⟨[], some ⟨0xD, 1, 0x80, if lettingHalves then 0xBF else 0x9F⟩⟩
  else if code < 0xF0 then ⟨[], some ⟨code - 0xE0, 1, 0x80, 0xBF⟩⟩
  else if code = 0xF0 then ⟨[], some ⟨0, 2, 0x90, 0xBF⟩⟩
  else if code < 0xF4 then ⟨[], some ⟨code - 0xF0, 2, 0x80, 0xBF⟩⟩
  else if code = 0xF4 then ⟨[], some ⟨4, 2, 0x80, 0x8F⟩⟩
  else ⟨[none], none⟩

/-- Reads one byte. -/
def step (lettingHalves : Bool) (pending : Option Pending) (byte : UInt8) : Progress :=
  match pending with
  | none => start lettingHalves byte
  | some pending =>
    let code := byte.toNat
    if pending.least ≤ code ∧ code ≤ pending.greatest then
      let value := 64 * pending.value + (code - 0x80)
      match pending.later with
      | 0 => ⟨[some (.ofCode value)], none⟩
      | later + 1 => ⟨[], some ⟨value, later, 0x80, 0xBF⟩⟩
    else
      let anew := start lettingHalves byte
      { anew with pieces := none :: anew.pieces }

/-- The symbols of bytes after a symbol that is not complete; nothing stands for an ill-formed
piece. -/
def readPieces (lettingHalves : Bool) (pending : Option Pending) :
    List UInt8 → List (Option Symbol)
  | [] => if pending.isSome then [none] else []
  | byte :: rest =>
    let progress := step lettingHalves pending byte
    progress.pieces ++ readPieces lettingHalves progress.pending rest

/-- The text of well-formed bytes. -/
def read? (bytes : List UInt8) : Option String :=
  ((readPieces false none bytes).mapM id).map fun symbols => Text.toStringLossy ⟨symbols⟩

/-- The text of bytes that are well-formed but for halves of surrogate pairs. -/
def readText? (bytes : List UInt8) : Option Text :=
  ((readPieces true none bytes).mapM id).map fun symbols => ⟨symbols⟩

/-- The text of bytes, with the replacement character for every ill-formed piece. -/
def readLossy (bytes : List UInt8) : String :=
  String.ofList ((readPieces false none bytes).map fun piece =>
    (piece.map Symbol.toChar).getD '\uFFFD')

/-- The bytes of a text. -/
def write (text : String) : List UInt8 := text.toUTF8.toList

end Depot.Utf8
