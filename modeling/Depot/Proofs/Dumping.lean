import Depot.Field.Value
import Depot.Json.Writer
import Depot.Proofs.DecimalTexts

/-!
# Dumping field values

A field value is dumped as JSON text in ASCII, and the text stands for the value. Characters beyond
ASCII are dumped as escapes of their code units, so that the halves of a pair that stand side by
side in a text cannot be told from the character that they stand for.
-/

namespace Depot

namespace Symbol

/-- The halves of pairs are joined where the first half of a pair stands before the second. -/
def joinHalves : List Symbol → List Symbol
  | first :: second :: rest =>
    if Utf16.isHighSurrogate first.code ∧ Utf16.isLowSurrogate second.code then
      .char (Utf16.ofSurrogates first.code second.code) :: joinHalves rest
    else first :: joinHalves (second :: rest)
  | [last] => [last]
  | [] => []

/-- The first code unit of a character that takes two. -/
def highUnit (char : Char) : Nat := 0xD800 + (char.toNat - 0x10000) / 1024

/-- The second code unit of a character that takes two. -/
def lowUnit (char : Char) : Nat := 0xDC00 + (char.toNat - 0x10000) % 1024

/-- Every symbol is the symbol of its code. -/
theorem ofCode_code (symbol : Symbol) : ofCode symbol.code = symbol := by
  cases symbol with
  | char value =>
    have valid : value.toNat.isValidChar := value.valid
    have outside : ¬ (firstHalf ≤ value.toNat ∧ value.toNat < firstHalf + 2048) := by
      rw [Nat.isValidChar] at valid
      rw [firstHalf]
      omega
    rw [code, ofCode, dif_neg outside, Char.ofNat_toNat]
  | half offset =>
    have within : firstHalf ≤ firstHalf + offset.val ∧
        firstHalf + offset.val < firstHalf + 2048 := by omega
    rw [code, ofCode, dif_pos within]
    exact congrArg half (Fin.ext (Nat.add_sub_cancel_left ..))

/-- The code of a character is no half of a pair. -/
theorem code_char_not_half (char : Char) :
    Utf16.isHighSurrogate (Symbol.char char).code = false ∧
      Utf16.isLowSurrogate (Symbol.char char).code = false := by
  have valid : char.toNat.isValidChar := char.valid
  rw [Nat.isValidChar] at valid
  rw [Utf16.isHighSurrogate, Utf16.isLowSurrogate, code, Bool.and_eq_false_iff,
    Bool.and_eq_false_iff, decide_eq_false_iff_not, decide_eq_false_iff_not,
    decide_eq_false_iff_not, decide_eq_false_iff_not]
  omega

/-- A character that takes two code units is the character of these units. -/
theorem units_of_wide {char : Char} (wide : 0x10000 ≤ char.toNat) :
    Utf16.isHighSurrogate (highUnit char) = true ∧ Utf16.isLowSurrogate (lowUnit char) = true ∧
      Utf16.ofSurrogates (highUnit char) (lowUnit char) = char := by
  have valid : char.toNat.isValidChar := char.valid
  rw [Nat.isValidChar] at valid
  have whole : 0x10000 + 1024 * (highUnit char - 0xD800) + (lowUnit char - 0xDC00) =
      char.toNat := by
    rw [highUnit, lowUnit]
    omega
  refine ⟨?_, ?_, by rw [Utf16.ofSurrogates, whole, Char.ofNat_toNat]⟩
  · rw [Utf16.isHighSurrogate, Bool.and_eq_true, decide_eq_true_eq, decide_eq_true_eq, highUnit]
    omega
  · rw [Utf16.isLowSurrogate, Bool.and_eq_true, decide_eq_true_eq, decide_eq_true_eq, lowUnit]
    omega

/-- Symbols in which no first half of a pair stands before a second half stay as they are. -/
theorem joinHalves_of_isChain {symbols : List Symbol}
    (apart : symbols.IsChain fun first second =>
      ¬ (Utf16.isHighSurrogate first.code = true ∧ Utf16.isLowSurrogate second.code = true)) :
    joinHalves symbols = symbols := by
  fun_induction joinHalves symbols with
  | case1 first second rest pair inductionHypothesis =>
    exact absurd pair (List.isChain_cons_cons.mp apart).1
  | case2 first second rest noPair inductionHypothesis =>
    rw [inductionHypothesis (List.isChain_cons_cons.mp apart).2]
  | case3 | case4 => rfl

end Symbol

/-! ## Texts in ASCII -/

open Depot.Symbol

namespace Json

/-- The escape of a code unit. -/
def unitEscape (unit : Nat) : List Char := '\\' :: 'u' :: Text.hexDigits 4 unit

/-- The text of a symbol in ASCII. -/
def asciiSymbol : Symbol → List Char
  | .char value =>
    if value.toNat < 127 then escapeChar value
    else if value.toNat < 0x10000 then unitEscape value.toNat
    else unitEscape (highUnit value) ++ unitEscape (lowUnit value)
  | .half offset => unitEscape (Symbol.half offset).code

/-- The text of a string in ASCII. -/
def asciiString (text : Text) : String :=
  String.ofList ('"' :: (text.symbols.flatMap asciiSymbol ++ ['"']))

/-- The forms of a symbol in ASCII: the symbol itself, the escape of a letter, the escape of a code
unit, or those of two. -/
inductive AsciiForm : Symbol → List Char → Prop
  | plain {char : Char} (notControl : 32 ≤ char.toNat) (notQuote : char ≠ '"')
    (notBackslash : char ≠ '\\') : AsciiForm (.char char) [char]
  | escape {letter char : Char} (named : escaped? (.char letter) = some char) :
    AsciiForm (.char char) ['\\', letter]
  | unit {symbol : Symbol} (narrow : symbol.code < 0x10000) :
    AsciiForm symbol (unitEscape symbol.code)
  | wide {char : Char} (wide : 0x10000 ≤ char.toNat) :
    AsciiForm (.char char) (unitEscape (highUnit char) ++ unitEscape (lowUnit char))

/-- An escaped character has one of these forms. -/
theorem asciiForm_escapeChar (char : Char) : AsciiForm (.char char) (escapeChar char) := by
  rw [escapeChar]
  split_ifs with quote backslash lineFeed carriageReturn tab formFeed backspace control
  · rw [quote]
    exact .escape rfl
  · rw [backslash]
    exact .escape rfl
  · rw [lineFeed]
    exact .escape rfl
  · rw [carriageReturn]
    exact .escape rfl
  · rw [tab]
    exact .escape rfl
  · rw [formFeed]
    exact .escape rfl
  · rw [backspace]
    exact .escape rfl
  · exact .unit (Nat.lt_trans control (by decide))
  · exact .plain (Nat.not_lt.mp control) quote backslash

/-- The text of a symbol in ASCII has one of these forms. -/
theorem asciiForm_asciiSymbol (symbol : Symbol) : AsciiForm symbol (asciiSymbol symbol) := by
  cases symbol with
  | half offset =>
    refine .unit ?_
    rw [code, firstHalf]
    omega
  | char value =>
    rw [asciiSymbol]
    split_ifs with ascii narrow
    · exact asciiForm_escapeChar value
    · exact .unit narrow
    · exact .wide (Nat.not_lt.mp narrow)

/-- A hexadecimal digit stands for its value. -/
theorem digitValue?_hexDigit :
    ∀ value < 16, Hex.digitValue? (Text.hexDigit value) = some value := by
  decide

/-- The escape of a code unit has the digits of the unit. -/
theorem exists_unitText {unit : Nat} (small : unit < 0x10000) :
    ∃ first second third fourth, (unitEscape unit).map .char = unitText first second third fourth ∧
      codeUnit? first second third fourth = some unit := by
  have ofDigit (value : Nat) := digitValue?_hexDigit (value % 16) (Nat.mod_lt value (by decide))
  refine ⟨_, _, _, _, rfl, ?_⟩
  simp only [codeUnit?, Symbol.toChar]
  rw [ofDigit, ofDigit, ofDigit, ofDigit]
  refine congrArg some ?_
  omega

/-- The code units of a pair fit in two bytes. -/
theorem units_lt (char : Char) : highUnit char < 0x10000 ∧ lowUnit char < 0x10000 := by
  have valid : char.toNat.isValidChar := char.valid
  rw [Nat.isValidChar] at valid
  rw [highUnit, lowUnit]
  omega

section

variable {first symbol : Symbol} {tail symbols : List Symbol}

/-- The escape of a code unit, with a text after it, starts with the second unit of a pair only if
the unit is one. -/
theorem isLowSurrogate_of_startsLowUnit {unit : Nat} (small : unit < 0x10000)
    (starts : StartsLowUnit ((unitEscape unit).map .char ++ tail)) :
    Utf16.isLowSurrogate unit = true := by
  obtain ⟨a, b, c, d, isText, digits⟩ := exists_unitText small
  obtain ⟨e, f, g, h, other, rest, same, otherDigits, isLow⟩ := starts
  rw [isText] at same
  cases same
  rw [digits] at otherDigits
  cases otherDigits
  exact isLow

/-- The text of a symbol, with a text after it, starts with the second unit of a pair only if the
symbol is half of one. -/
theorem AsciiForm.isLowSurrogate {text : List Char} (form : AsciiForm symbol text)
    (starts : StartsLowUnit (text.map .char ++ tail)) :
    Utf16.isLowSurrogate symbol.code = true := by
  cases form with
  | plain notControl notQuote notBackslash =>
    obtain ⟨_, _, _, _, _, _, same, -⟩ := starts
    cases same
    exact absurd rfl notBackslash
  | escape named =>
    obtain ⟨_, _, _, _, _, _, same, -⟩ := starts
    cases same
    cases named
  | unit narrow => exact isLowSurrogate_of_startsLowUnit narrow starts
  | @wide char wide =>
    rw [List.map_append, List.append_assoc] at starts
    have isLow := isLowSurrogate_of_startsLowUnit (units_lt char).1 starts
    have isHigh := (units_of_wide wide).1
    rw [Utf16.isLowSurrogate, Bool.and_eq_true, decide_eq_true_eq] at isLow
    rw [Utf16.isHighSurrogate, Bool.and_eq_true, decide_eq_true_eq, decide_eq_true_eq] at isHigh
    omega

/-- The text of a symbol stands for it in front of a text that does not complete a pair. -/
theorem AsciiForm.symbolsText {text : List Char} (form : AsciiForm first text)
    (written : SymbolsText tail symbols)
    (alone : Utf16.isHighSurrogate first.code = true → ¬ StartsLowUnit tail) :
    SymbolsText (text.map .char ++ tail) (first :: symbols) := by
  cases form with
  | plain notControl notQuote notBackslash =>
    exact .plain notControl (fun same => notQuote (Symbol.char.inj same))
      (fun same => notBackslash (Symbol.char.inj same)) written
  | escape named => exact .escape named written
  | unit narrow =>
    obtain ⟨a, b, c, d, isText, digits⟩ := exists_unitText narrow
    rw [isText]
    conv in first :: symbols => rw [← ofCode_code first]
    exact .unit digits alone written
  | @wide char wide =>
    obtain ⟨isHigh, isLow, isChar⟩ := units_of_wide wide
    obtain ⟨a, b, c, d, isText, digits⟩ := exists_unitText (units_lt char).1
    obtain ⟨e, f, g, h, isTextToo, digitsToo⟩ := exists_unitText (units_lt char).2
    conv in Symbol.char char :: symbols => rw [← isChar]
    rw [List.map_append, List.append_assoc, isText, isTextToo]
    exact .pair digits digitsToo isHigh isLow written

/-- Half of a pair is written as the escape of its code. -/
theorem asciiSymbol_of_half (half : Utf16.isHighSurrogate symbol.code = true ∨
    Utf16.isLowSurrogate symbol.code = true) :
    symbol.code < 0x10000 ∧ asciiSymbol symbol = unitEscape symbol.code := by
  cases symbol with
  | char value =>
    rw [(code_char_not_half value).1, (code_char_not_half value).2] at half
    simp at half
  | half offset =>
    refine ⟨?_, rfl⟩
    rw [code, firstHalf]
    omega

end

/-- The text of symbols in ASCII stands for the symbols with the halves that meet joined. -/
theorem flatMap_asciiSymbol_text (symbols : List Symbol) :
    SymbolsText ((symbols.flatMap asciiSymbol).map .char) (joinHalves symbols) := by
  fun_induction joinHalves symbols with
  | case1 first second rest pair inductionHypothesis =>
    obtain ⟨firstSmall, isFirst⟩ := asciiSymbol_of_half (.inl pair.1)
    obtain ⟨secondSmall, isSecond⟩ := asciiSymbol_of_half (.inr pair.2)
    obtain ⟨a, b, c, d, isText, digits⟩ := exists_unitText firstSmall
    obtain ⟨e, f, g, h, isTextToo, digitsToo⟩ := exists_unitText secondSmall
    rw [List.flatMap_cons, List.flatMap_cons, List.map_append, List.map_append, isFirst, isSecond,
      isText, isTextToo]
    exact .pair digits digitsToo pair.1 pair.2 inductionHypothesis
  | case2 first second rest noPair inductionHypothesis =>
    rw [List.flatMap_cons, List.map_append]
    refine (asciiForm_asciiSymbol first).symbolsText inductionHypothesis fun high starts => ?_
    rw [List.flatMap_cons, List.map_append] at starts
    exact noPair ⟨high, (asciiForm_asciiSymbol second).isLowSurrogate starts⟩
  | case3 last =>
    rw [List.flatMap_singleton, ← List.append_nil ((asciiSymbol last).map _)]
    refine (asciiForm_asciiSymbol last).symbolsText .nil fun _ => ?_
    rintro ⟨_, _, _, _, _, _, same, -⟩
    cases same
  | case4 => exact .nil

/-- The text of a string in ASCII stands for the string with the halves that meet joined. -/
theorem asciiString_text (text : Text) :
    ScalarText (Text.ofString (asciiString text)).symbols (.text ⟨joinHalves text.symbols⟩) := by
  have written := ScalarText.string (flatMap_asciiSymbol_text text.symbols)
  rw [asciiString, Text.ofString, String.toList_ofList, Text.ofChars, List.map_cons,
    List.map_append]
  exact written

end Json

/-! ## Texts of field values -/

namespace FieldValue

/-- The JSON text of a value in ASCII. Integers with too many digits have none. -/
def dump? : FieldValue → Option String
  | .boolean value => some (Json.write (.boolean value))
  | .integer value =>
    if Text.digitLimit < (decimalDigits value.natAbs).length then none
    else some (Json.write (.integer value))
  | .real value => some (Json.write (.real value))
  | .text value => some (Json.asciiString value)

/-- The value with the halves that meet in a text joined. -/
def joined : FieldValue → FieldValue
  | .text value => .text ⟨Symbol.joinHalves value.symbols⟩
  | other => other

/-- In a text no first half of a pair stands before a second half. -/
def HasNoPair : FieldValue → Prop
  | .text value => value.symbols.IsChain fun first second =>
    ¬ (Utf16.isHighSurrogate first.code = true ∧ Utf16.isLowSurrogate second.code = true)
  | _ => True

/-- A number is no not-a-number, and its text in messages is read as the number. -/
def ReadsBack : FieldValue → Prop
  | .real value =>
    value.isNaN = false ∧ Binary64.ofText? (DecimalStyle.message.text value) = some value
  | _ => True

variable {value : FieldValue}

/-- A value without such halves stays as it is. -/
theorem joined_eq_self (apart : value.HasNoPair) : value.joined = value := by
  cases value with
  | text value => rw [joined, Symbol.joinHalves_of_isChain apart]
  | boolean | integer | real => rfl

/-- The text of an integer is the JSON text of the integer. -/
theorem numberText_integer {value : Int}
    (short : (decimalDigits value.natAbs).length ≤ Text.digitLimit) :
    Json.NumberText (toString value).toList (.integer value) := by
  have written := Json.NumberText.integer (decide (value < 0))
    (wholeText_decimalDigits value.natAbs) short
  rw [naturalOfDigits_decimalDigits] at written
  cases value with
  | ofNat magnitude =>
    have digits : (toString (Int.ofNat magnitude)).toList = decimalDigits magnitude :=
      String.toList_ofList
    rw [digits]
    exact written
  | negSucc rest =>
    have digits : (toString (Int.negSucc rest)).toList = ['-'] ++ decimalDigits (rest + 1) := by
      show ("-" ++ Nat.repr (rest + 1)).toList = _
      rw [String.toList_append]
      exact congrArg ('-' :: ·) String.toList_ofList
    rw [decide_eq_true (Int.negSucc_lt_zero rest), if_pos rfl] at written
    rw [digits]
    exact written

/-- The JSON text of a value in ASCII stands for the value with the halves that meet joined. -/
theorem scalarText_of_dump? {text : String} (dumped : value.dump? = some text)
    (readsBack : value.ReadsBack) :
    Json.ScalarText (Text.ofString text).symbols value.joined.toDatum := by
  cases value with
  | boolean value =>
    cases dumped
    have written := Json.ScalarText.boolean value
    cases value <;> exact written
  | integer value =>
    rw [dump?] at dumped
    split at dumped
    · cases dumped
    · rename_i short
      cases dumped
      exact .number (numberText_integer (Nat.not_lt.mp short))
  | real value =>
    cases dumped
    exact Binary64.scalarText_text readsBack.1 readsBack.2
  | text value =>
    cases dumped
    exact Json.asciiString_text value

end FieldValue
end Depot
