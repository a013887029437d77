import Depot.Bytes.Encoding

/-!
# SHA-256

The digest of a run of bytes: the bytes are padded to blocks of sixteen big-endian words, and
each block changes a state of eight words in sixty-four rounds. The round keys of a block
come from a window of sixteen words that moves by one word a round.
-/

namespace Depot.Sha256

/-- One constant for each round: fractional bits of the cube roots of the primes. -/
def roundConstants : List UInt32 := [
  0x428a2f98, 0x71374491, 0xb5c0fbcf, 0xe9b5dba5, 0x3956c25b, 0x59f111f1,
  0x923f82a4, 0xab1c5ed5, 0xd807aa98, 0x12835b01, 0x243185be, 0x550c7dc3,
  0x72be5d74, 0x80deb1fe, 0x9bdc06a7, 0xc19bf174, 0xe49b69c1, 0xefbe4786,
  0x0fc19dc6, 0x240ca1cc, 0x2de92c6f, 0x4a7484aa, 0x5cb0a9dc, 0x76f988da,
  0x983e5152, 0xa831c66d, 0xb00327c8, 0xbf597fc7, 0xc6e00bf3, 0xd5a79147,
  0x06ca6351, 0x14292967, 0x27b70a85, 0x2e1b2138, 0x4d2c6dfc, 0x53380d13,
  0x650a7354, 0x766a0abb, 0x81c2c92e, 0x92722c85, 0xa2bfe8a1, 0xa81a664b,
  0xc24b8b70, 0xc76c51a3, 0xd192e819, 0xd6990624, 0xf40e3585, 0x106aa070,
  0x19a4c116, 0x1e376c08, 0x2748774c, 0x34b0bcb5, 0x391c0cb3, 0x4ed8aa4a,
  0x5b9cca4f, 0x682e6ff3, 0x748f82ee, 0x78a5636f, 0x84c87814, 0x8cc70208,
  0x90befffa, 0xa4506ceb, 0xbef9a3f7, 0xc67178f2]

/-- The eight working words. -/
structure State where
  a : UInt32
  b : UInt32
  c : UInt32
  d : UInt32
  e : UInt32
  f : UInt32
  g : UInt32
  h : UInt32

/-- The state before the first block: fractional bits of the square roots of the primes. -/
def State.initial : State :=
  ⟨0x6a09e667, 0xbb67ae85, 0x3c6ef372, 0xa54ff53a,
    0x510e527f, 0x9b05688c, 0x1f83d9ab, 0x5be0cd19⟩

/-- Rotation of a word to the right. -/
def rotateRight (word amount : UInt32) : UInt32 :=
  (word >>> amount) ||| (word <<< (32 - amount))

/-- One round with its key. -/
def State.round (state : State) (key : UInt32) : State :=
  let mixedE := rotateRight state.e 6 ^^^ rotateRight state.e 11 ^^^ rotateRight state.e 25
  let choice := (state.e &&& state.f) ^^^ (~~~state.e &&& state.g)
  let first := state.h + mixedE + choice + key
  let mixedA := rotateRight state.a 2 ^^^ rotateRight state.a 13 ^^^ rotateRight state.a 22
  let majority := (state.a &&& state.b) ^^^ (state.a &&& state.c) ^^^ (state.b &&& state.c)
  ⟨first + mixedA + majority, state.a, state.b, state.c, state.d + first, state.e, state.f,
    state.g⟩

/-- The word that enters a window of sixteen schedule words. -/
def nextWord (window : List UInt32) : UInt32 :=
  let word (index : Nat) : UInt32 := window.getD index 0
  let early := word 1
  let late := word 14
  word 0 + (rotateRight early 7 ^^^ rotateRight early 18 ^^^ (early >>> 3)) + word 9 +
    (rotateRight late 17 ^^^ rotateRight late 19 ^^^ (late >>> 10))

/-- Runs one round for each constant, moving the window along. -/
def runRounds : List UInt32 → List UInt32 → State → State
  | [], _, state => state
  | constant :: rest, window, state =>
    runRounds rest (window.drop 1 ++ [nextWord window])
      (state.round (constant + window.headD 0))

/-- The state after a block of sixteen words. -/
def State.absorb (state : State) (block : List UInt32) : State :=
  let mixed := runRounds roundConstants block state
  ⟨state.a + mixed.a, state.b + mixed.b, state.c + mixed.c, state.d + mixed.d,
    state.e + mixed.e, state.f + mixed.f, state.g + mixed.g, state.h + mixed.h⟩

/-- A natural as `count` big-endian bytes. -/
def bigEndian : (count value : Nat) → List UInt8
  | 0, _ => []
  | count + 1, value => bigEndian count (value / 256) ++ [UInt8.ofNat (value % 256)]

/-- What is appended to a message of `length` bytes: a one bit, zeros up to the end of a
block less eight bytes, and the length in bits. -/
def padding (length : Nat) : List UInt8 :=
  0x80 :: List.replicate ((119 - length % 64) % 64) 0 ++ bigEndian 8 (8 * length)

/-- Groups bytes into big-endian words; a last incomplete group is dropped. -/
def toWords : List UInt8 → List UInt32
  | first :: second :: third :: fourth :: rest =>
    ((first.toUInt32 <<< 24) ||| (second.toUInt32 <<< 16) ||| (third.toUInt32 <<< 8) |||
      fourth.toUInt32) :: toWords rest
  | _ => []

/-- Absorbs all complete blocks of sixteen words. -/
def absorbAll (state : State) (words : List UInt32) : State :=
  if _incomplete : words.drop 15 = [] then state
  else absorbAll (state.absorb (words.take 16)) (words.drop 16)
termination_by words.length
decreasing_by simp_all; omega

/-- The bytes of a state. -/
def State.toBytes (state : State) : List UInt8 :=
  [state.a, state.b, state.c, state.d, state.e, state.f, state.g, state.h].flatMap fun word =>
    bigEndian 4 word.toNat

/-- The digest of a message. -/
def digest (message : List UInt8) : List UInt8 :=
  (absorbAll .initial (toWords (message ++ padding message.length))).toBytes

/-- A digest has thirty-two bytes. -/
theorem length_digest (message : List UInt8) : (digest message).length = 32 := by
  simp [digest, State.toBytes, bigEndian]

/-- The digest of a message in hexadecimal. -/
def hexDigest (message : List UInt8) : String := Hex.encode (digest message)

/-- Whether a text has the form of a hexadecimal digest: sixty-four lower-case digits,
after which one line feed may follow. -/
def isHexDigest (text : String) : Bool :=
  let characters := text.toList
  let digits := if characters.length = 65 ∧ characters.getLast? = some '\n'
    then characters.dropLast else characters
  digits.length == 64 && digits.all Hex.isLowerDigit

end Depot.Sha256
