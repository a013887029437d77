/-!
# Texts

Callers can write characters as escapes, and an escape may name half of a surrogate pair,
which is no character. A `Text` is therefore a list of symbols, each of them a character or
such a half. Everything that comes from a `String` is a text of characters alone; which texts
those are, and what becomes of the others, is in `Depot.Text.Encoding`.
-/

namespace Depot

/-- What stands at one position of a text: a character, or half of a surrogate pair, counted
from the first one. -/
inductive Symbol where
  | char (value : Char)
  | half (offset : Fin 2048)
  deriving DecidableEq

namespace Symbol

/-- The code point of the first half of a surrogate pair. -/
def firstHalf : Nat := 0xD800

/-- The code point of a symbol. -/
def code : Symbol → Nat
  | char value => value.toNat
  | half offset => firstHalf + offset.val

/-- The symbol of a code point; what is no code point becomes the null character. -/
def ofCode (code : Nat) : Symbol :=
  if bounds : firstHalf ≤ code ∧ code < firstHalf + 2048 then half ⟨code - firstHalf, by omega⟩
  else char (Char.ofNat code)

/-- Whether a symbol is half of a pair. -/
def isHalf : Symbol → Bool
  | char _ => false
  | half _ => true

end Symbol

/-- A run of symbols. -/
structure Text where
  symbols : List Symbol
  deriving DecidableEq, Inhabited

namespace Text

/-- The text of a run of characters. -/
def ofChars (chars : List Char) : Text := ⟨chars.map .char⟩

/-- The text of a string. -/
def ofString (text : String) : Text := ofChars text.toList

instance : Coe String Text := ⟨ofString⟩

/-- Whether a text has no symbols. -/
def isEmpty (text : Text) : Bool := text.symbols.isEmpty

/-- The number of symbols of a text. -/
def length (text : Text) : Nat := text.symbols.length

/-- Strings with the same text are the same. -/
theorem ofString_injective {left right : String} (same : ofString left = ofString right) :
    left = right := by
  have characters : left.toList = right.toList := by
    have mapped : left.toList.map Symbol.char = right.toList.map Symbol.char :=
      congrArg Text.symbols same
    exact (List.map_inj_right fun _ _ equal => Symbol.char.inj equal).mp mapped
  exact String.toList_injective characters

/-- Two strings have the same text exactly when they are the same. -/
@[simp] theorem ofString_inj {left right : String} :
    ofString left = ofString right ↔ left = right :=
  ⟨ofString_injective, congrArg ofString⟩

/-- A string has an empty text exactly when it is empty. -/
@[simp] theorem isEmpty_ofString (text : String) : (ofString text).isEmpty = (text == "") := by
  rw [Bool.eq_iff_iff]
  simp [isEmpty, ofString, ofChars]

end Text
end Depot
