import Depot.Text.Quoted

/-!
# Encoding of texts

Only texts of characters alone can leave the program as bytes, and those are the texts of
strings. `Text.encode` gives the string of such a text; any other text is refused with a fault
that says where its first halves of surrogate pairs stand.
-/

namespace Depot

/-- Why a text cannot be encoded: its first half of a pair, the position of it, and the
number of halves that stand side by side there. -/
structure EncodingFault where
  first : Fin 2048
  position : Nat
  count : Nat
  deriving DecidableEq

/-- The wording of an encoding fault. -/
def EncodingFault.message (fault : EncodingFault) : String :=
  let place :=
    if fault.count ≤ 1 then
      "character '" ++ String.ofList (Text.codeEscape (Symbol.half fault.first).code) ++
        "' in position " ++ toString fault.position
    else
      "characters in position " ++ toString fault.position ++ "-" ++
        toString (fault.position + fault.count - 1)
  "'utf-8' codec can't encode " ++ place ++ ": surrogates not allowed"

/-- The character of a symbol; half of a pair becomes the replacement character. -/
def Symbol.toChar : Symbol → Char
  | char value => value
  | half _ => '\uFFFD'

namespace Text

/-- The first fault of symbols that start at a position. -/
def encodingFaultFrom (position : Nat) : List Symbol → Option EncodingFault
  | [] => none
  | .char _ :: rest => encodingFaultFrom (position + 1) rest
  | .half offset :: rest =>
    some ⟨offset, position, (rest.takeWhile Symbol.isHalf).length + 1⟩

/-- What keeps a text from being encoded, if anything does. -/
def encodingFault? (text : Text) : Option EncodingFault := encodingFaultFrom 0 text.symbols

/-- The string of a text, with the replacement character for every half of a pair. -/
def toStringLossy (text : Text) : String := String.ofList (text.symbols.map Symbol.toChar)

/-- The string of a text of characters alone. -/
def encode (text : Text) : Except EncodingFault String :=
  match text.encodingFault? with
  | none => .ok text.toStringLossy
  | some fault => .error fault

/-- The string of a text, if the text can be encoded. -/
def toString? (text : Text) : Option String := text.encode.toOption

/-- Symbols without a fault are characters. -/
theorem map_char_toChar_of_encodingFaultFrom (position : Nat) (symbols : List Symbol)
    (faultless : encodingFaultFrom position symbols = none) :
    (symbols.map Symbol.toChar).map Symbol.char = symbols := by
  induction symbols generalizing position with
  | nil => rfl
  | cons symbol rest inductionHypothesis =>
    cases symbol with
    | char value =>
      rw [encodingFaultFrom] at faultless
      rw [List.map_cons, List.map_cons, inductionHypothesis (position + 1) faultless]
      rfl
    | half offset => simp [encodingFaultFrom] at faultless

/-- Characters have no fault. -/
theorem encodingFaultFrom_map_char (position : Nat) (chars : List Char) :
    encodingFaultFrom position (chars.map Symbol.char) = none := by
  induction chars generalizing position with
  | nil => rfl
  | cons value rest inductionHypothesis => exact inductionHypothesis (position + 1)

/-- The text of a string is encoded as that string. -/
@[simp] theorem encode_ofString (text : String) : (ofString text).encode = .ok text := by
  have restored : (ofString text).toStringLossy = text := by
    simp [toStringLossy, ofString, ofChars, Function.comp_def, Symbol.toChar]
  simp [encode, encodingFault?, ofString, ofChars, encodingFaultFrom_map_char]
  exact restored

/-- A text that can be encoded is the text of the string that it is encoded as. -/
theorem ofString_of_encode {text : Text} {encoded : String} (done : text.encode = .ok encoded) :
    ofString encoded = text := by
  unfold encode at done
  split at done
  · rename_i faultless
    cases done
    simp only [toStringLossy, ofString, ofChars, String.toList_ofList]
    rw [map_char_toChar_of_encodingFaultFrom 0 text.symbols faultless]
  · cases done

/-- A text is encoded as a string exactly when it is the text of that string. -/
theorem encode_eq_ok_iff (text : Text) (encoded : String) :
    text.encode = .ok encoded ↔ text = ofString encoded :=
  ⟨fun done => (ofString_of_encode done).symm, fun same => by rw [same, encode_ofString]⟩

end Text
end Depot
