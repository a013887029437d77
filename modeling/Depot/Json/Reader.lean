import Depot.Bytes.Encoding
import Depot.Datum.Basic
import Depot.Json.Error
import Depot.Real.Decimal
import Depot.Text.Encoding
import Depot.Text.Integer
import Depot.Text.Utf16

/-!
# Reading JSON

A document is one value with blanks around it. Beyond the standard, `NaN`, `Infinity` and
`-Infinity` are numbers; of equal keys in a record the last value wins at the first one's
place. Integers are exact, numbers with a fraction or an exponent are rounded to the
nearest binary64 number.

The readers work on a `Cursor`, the text that is left and the position where it starts, so
that every error carries the position at which it was found. Half of a surrogate pair may
stand in a string; anywhere else it is no part of a document.
-/

namespace Depot.Json

/-- The text that is left to read and the position where it starts. -/
structure Cursor where
  position : Nat
  rest : List Symbol
  deriving DecidableEq

/-- A blank between the parts of a document. -/
def isBlank (symbol : Symbol) : Bool :=
  symbol == .char ' ' || symbol == .char '\t' || symbol == .char '\n' || symbol == .char '\r'

/-- The characters that are left to read. What stands for half of a pair is part of no word and of
no number. -/
def Cursor.chars (cursor : Cursor) : List Char := cursor.rest.map Symbol.toChar

/-- The cursor after a number of characters. -/
def Cursor.advance (cursor : Cursor) (count : Nat) : Cursor :=
  ⟨cursor.position + count, cursor.rest.drop count⟩

/-- The cursor after the blanks that it stands at. -/
def Cursor.skipBlanks (cursor : Cursor) : Cursor :=
  cursor.advance (cursor.rest.takeWhile isBlank).length

/-- Reports a fault at the cursor. -/
def Cursor.fail {α : Type} (cursor : Cursor) (fault : JsonFault) : Except JsonError α :=
  .error (.malformed fault cursor.position)

/-- The character that a backslash and a letter stand for. -/
def escaped? : Symbol → Option Char
  | .char '"' => some '"'
  | .char '\\' => some '\\'
  | .char '/' => some '/'
  | .char 'b' => some '\x08'
  | .char 'f' => some '\x0c'
  | .char 'n' => some '\n'
  | .char 'r' => some '\r'
  | .char 't' => some '\t'
  | _ => none

/-- The value of four hexadecimal digits. -/
def codeUnit? (first second third fourth : Symbol) : Option Nat := do
  let a ← Hex.digitValue? first.toChar
  let b ← Hex.digitValue? second.toChar
  let c ← Hex.digitValue? third.toChar
  let d ← Hex.digitValue? fourth.toChar
  some (4096 * a + 256 * b + 16 * c + d)

/-- The second half of a pair, if the text starts with an escape and does not end with it;
the escape may be ill-formed. -/
def followingEscape? : List Symbol → Option (Option Nat)
  | .char '\\' :: .char 'u' :: first :: second :: third :: fourth :: _ :: _ =>
    some (codeUnit? first second third fourth)
  | _ => none

/-- The symbol of an escape whose backslash and `u` have been read, and the number of
symbols that it takes after them; or the distance from the backslash to the `u` of an
ill-formed escape. An escape at the very end of a text is ill-formed. Half of a pair without
its other half stands alone. -/
def unicodeEscape : List Symbol → Except Nat (Symbol × Nat)
  | first :: second :: third :: fourth :: next :: rest =>
    match codeUnit? first second third fourth with
    | none => .error 1
    | some unit =>
      if Utf16.isHighSurrogate unit then
        match followingEscape? (next :: rest) with
        | some none => .error 7
        | some (some low) =>
          if Utf16.isLowSurrogate low then .ok (.char (Utf16.ofSurrogates unit low), 10)
          else .ok (.ofCode unit, 4)
        | none => .ok (.ofCode unit, 4)
      else .ok (.ofCode unit, 4)
  | _ => .error 1

/-- The symbols of a string up to its closing quote. `start` is the position of the opening
quote, `position` that of the text. -/
def readSymbols (start position : Nat) (text : List Symbol) :
    Except JsonError (List Symbol × Cursor) :=
  match text with
  | [] => .error (.malformed .unterminatedString start)
  | .char '"' :: rest => .ok ([], ⟨position + 1, rest⟩)
  | [.char '\\'] => .error (.malformed .unterminatedString start)
  | .char '\\' :: .char 'u' :: rest =>
    match unicodeEscape rest with
    | .error distance => .error (.malformed .invalidUnicodeEscape (position + distance))
    | .ok (symbol, length) => do
      let (symbols, cursor) ←
        readSymbols start (position + 2 + length) (rest.drop length)
      .ok (symbol :: symbols, cursor)
  | .char '\\' :: letter :: rest =>
    match escaped? letter with
    | none => .error (.malformed .invalidEscape position)
    | some char => do
      let (symbols, cursor) ← readSymbols start (position + 2) rest
      .ok (.char char :: symbols, cursor)
  | symbol :: rest =>
    if symbol.code < 32 then .error (.malformed .controlCharacter position)
    else do
      let (symbols, cursor) ← readSymbols start (position + 1) rest
      .ok (symbol :: symbols, cursor)
termination_by text.length
decreasing_by
  all_goals simp only [List.length_cons, List.length_drop]; omega

/-- A string whose opening quote has been read; `start` is the quote's position. -/
def readString (start : Nat) (cursor : Cursor) : Except JsonError (Text × Cursor) := do
  let (symbols, after) ← readSymbols start cursor.position cursor.rest
  .ok (⟨symbols⟩, after)

/-- The fraction at the front of a text: a point and at least one digit. -/
def fractionDigits : List Char → List Char
  | '.' :: rest => rest.takeWhile isDigit
  | _ => []

/-- The sign and the digits of an exponent at the front of a text, with its length. -/
def exponentPart? : List Char → Option (Bool × List Char × Nat)
  | mark :: rest =>
    if mark = 'e' ∨ mark = 'E' then
      let (negative, digits, length) : Bool × List Char × Nat := match rest with
        | '-' :: digits => (true, digits.takeWhile isDigit, 2)
        | '+' :: digits => (false, digits.takeWhile isDigit, 2)
        | digits => (false, digits.takeWhile isDigit, 1)
      if digits.isEmpty then none else some (negative, digits, length + digits.length)
    else none
  | [] => none

/-- The digits before the point: a single zero, or digits that start with no zero. -/
def wholeDigits : List Char → List Char
  | '0' :: _ => ['0']
  | text => text.takeWhile isDigit

/-- A number after its sign; `signLength` is one if there was one. -/
def readUnsigned (negative : Bool) (signLength : Nat) (cursor : Cursor) :
    Except JsonError (Datum × Cursor) :=
  let text := cursor.chars.drop signLength
  let whole := wholeDigits text
  if whole.isEmpty then cursor.fail .expectingValue
  else
    let afterWhole := text.drop whole.length
    let fraction := fractionDigits afterWhole
    let fractionLength := if fraction.isEmpty then 0 else fraction.length + 1
    let exponent := exponentPart? (afterWhole.drop fractionLength)
    let consumed := signLength + whole.length + fractionLength
    match exponent with
    | some (exponentNegative, digits, length) =>
      .ok (.real ((DecimalText.mk whole fraction exponentNegative digits).toBinary64 negative),
        cursor.advance (consumed + length))
    | none =>
      if fraction.isEmpty then
        if Text.digitLimit < whole.length then .error (.tooManyDigits whole.length)
        else
          let value : Int := naturalOfDigits whole
          .ok (.integer (if negative then -value else value), cursor.advance consumed)
      else
        .ok (.real ((DecimalText.mk whole fraction false []).toBinary64 negative),
          cursor.advance consumed)

/-- A number. -/
def readNumber (cursor : Cursor) : Except JsonError (Datum × Cursor) :=
  match cursor.chars with
  | '-' :: _ => readUnsigned true 1 cursor
  | _ => readUnsigned false 0 cursor

/-- The words that stand for values. -/
def words : List (List Char × Datum) := [
  ("null".toList, .null),
  ("true".toList, .boolean true),
  ("false".toList, .boolean false),
  ("NaN".toList, .real .nan),
  ("Infinity".toList, .real (.infinity false)),
  ("-Infinity".toList, .real (.infinity true))]

/-- A value that is a word, a string or a number. -/
def readScalar (cursor : Cursor) : Except JsonError (Datum × Cursor) :=
  match cursor.rest with
  | .char '"' :: rest => do
    let (text, after) ← readString cursor.position ⟨cursor.position + 1, rest⟩
    .ok (.text text, after)
  | _ =>
    match words.find? fun word => word.1.isPrefixOf cursor.chars with
    | some (word, value) => .ok (value, cursor.advance word.length)
    | none => readNumber cursor

mutual

/-- A value at the cursor. -/
def readValue : (fuel : Nat) → Cursor → Except JsonError (Datum × Cursor)
  | 0, cursor => cursor.fail .expectingValue
  | fuel + 1, cursor =>
    match cursor.rest with
    | .char '[' :: _ => do
      let inside := (cursor.advance 1).skipBlanks
      match inside.rest with
      | .char ']' :: _ => .ok (.sequence [], inside.advance 1)
      | _ => do
        let (items, after) ← readItems fuel inside
        .ok (.sequence items, after)
    | .char '\x7b' :: _ => do
      let inside := (cursor.advance 1).skipBlanks
      match inside.rest with
      | .char '\x7d' :: _ => .ok (.record [], inside.advance 1)
      | _ => do
        let (entries, after) ← readEntries fuel inside
        .ok (.record (collectEntries entries), after)
    | _ => readScalar cursor

/-- The items of a sequence, of which there is at least one, and the closing bracket. -/
def readItems : (fuel : Nat) → Cursor → Except JsonError (List Datum × Cursor)
  | 0, cursor => cursor.fail .expectingValue
  | fuel + 1, cursor => do
    let (item, afterItem) ← readValue fuel cursor
    let mark := afterItem.skipBlanks
    match mark.rest with
    | .char ']' :: _ => .ok ([item], mark.advance 1)
    | .char ',' :: _ => do
      let (items, after) ← readItems fuel (mark.advance 1).skipBlanks
      .ok (item :: items, after)
    | _ => mark.fail .expectingComma

/-- The entries of a record, of which there is at least one, and the closing brace. -/
def readEntries : (fuel : Nat) → Cursor →
    Except JsonError (List (Text × Datum) × Cursor)
  | 0, cursor => cursor.fail .expectingName
  | fuel + 1, cursor =>
    match cursor.rest with
    | .char '"' :: rest => do
      let (key, afterKey) ← readString cursor.position ⟨cursor.position + 1, rest⟩
      let colon := afterKey.skipBlanks
      match colon.rest with
      | .char ':' :: _ => do
        let (value, afterValue) ← readValue fuel (colon.advance 1).skipBlanks
        let mark := afterValue.skipBlanks
        match mark.rest with
        | .char '\x7d' :: _ => .ok ([(key, value)], mark.advance 1)
        | .char ',' :: _ => do
          let (entries, after) ← readEntries fuel (mark.advance 1).skipBlanks
          .ok ((key, value) :: entries, after)
        | _ => mark.fail .expectingComma
      | _ => colon.fail .expectingColon
    | _ => cursor.fail .expectingName

end

/-- The value of a document given as symbols. Two steps for each symbol are more than the readers
take. -/
def readDocument (document : List Symbol) : Except JsonError Datum :=
  match document with
  | .char '\uFEFF' :: _ => .error (.malformed .byteOrderMark 0)
  | _ => do
    let (value, after) ← readValue (2 * document.length + 2) (Cursor.mk 0 document).skipBlanks
    let last := after.skipBlanks
    if last.rest.isEmpty then .ok value else last.fail .extraData

/-- The value of a document. -/
def read (document : Text) : Except JsonError Datum := readDocument document.symbols

end Depot.Json
