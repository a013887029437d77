import Depot.Proofs.NumberTexts
import Depot.Proofs.StringTexts
import Mathlib.Data.List.DropRight

/-!
# JSON texts of scalars

A document is read as a string, a number, true or false exactly when, without the blanks around it,
it is the JSON text of that value. A document is refused for too many digits only when it has a run
of that many.
-/

namespace Depot.Json

/-- The text of a string, a number or a word that stands for a value other than null. -/
inductive ScalarText : List Symbol → Datum → Prop
  | string {inside symbols : List Symbol} (written : SymbolsText inside symbols) :
    ScalarText (.char '"' :: (inside ++ [.char '"'])) (.text ⟨symbols⟩)
  | number {text : List Char} {value : Datum} (written : NumberText text value) :
    ScalarText (text.map .char) value
  | boolean (value : Bool) :
    ScalarText ((if value then ['t', 'r', 'u', 'e'] else ['f', 'a', 'l', 's', 'e']).map .char)
      (.boolean value)
  | notANumber : ScalarText (['N', 'a', 'N'].map .char) (.real .nan)
  | infinity (negative : Bool) :
    ScalarText ((signText negative ++ ['I', 'n', 'f', 'i', 'n', 'i', 't', 'y']).map .char)
      (.real (.infinity negative))

/-- A text without the blanks around it. -/
def stripBlanks (text : List Symbol) : List Symbol :=
  (text.dropWhile isBlank).rdropWhile isBlank

/-! ## Characters among symbols -/

section

variable {text : List Char} {tail : List Symbol} {cursor : Cursor}

/-- Where characters are left to read, they are seen. -/
theorem Cursor.chars_eq (here : cursor.rest = text.map .char ++ tail) :
    cursor.chars = text ++ tail.map Symbol.toChar := by
  rw [chars, here, List.map_append, List.map_map]
  exact congrArg (· ++ _) (List.map_id text)

/-- The cursor passes over characters. -/
theorem Cursor.rest_advance (here : cursor.rest = text.map .char ++ tail) :
    (cursor.advance text.length).rest = tail := by
  rw [advance, here, ← List.length_map Symbol.char, List.drop_left]

/-- What looks like a character is one, unless it looks like what stands for half of a pair. -/
theorem eq_char_of_toChar {symbol : Symbol} (proper : symbol.toChar ≠ '\uFFFD') :
    symbol = .char symbol.toChar := by
  cases symbol with
  | char value => rfl
  | half offset => exact absurd rfl proper

/-- What looks like characters are these characters, unless one of them looks like what stands for
half of a pair. -/
theorem map_char_map_toChar {symbols : List Symbol}
    (proper : ∀ char ∈ symbols.map Symbol.toChar, char ≠ '\uFFFD') :
    (symbols.map Symbol.toChar).map .char = symbols := by
  conv_rhs => rw [← List.map_id symbols]
  rw [List.map_map]
  exact List.map_congr_left fun symbol member =>
    (eq_char_of_toChar (proper _ (List.mem_map_of_mem member))).symm

/-- Characters that are seen are left to read. -/
theorem Cursor.rest_eq (seen : text <+: cursor.chars) (proper : ∀ char ∈ text, char ≠ '\uFFFD') :
    cursor.rest = text.map .char ++ (cursor.advance text.length).rest := by
  obtain ⟨tail, here⟩ := seen
  obtain ⟨front, back, isRest, rfl, rfl⟩ := List.map_eq_append_iff.mp here.symm
  rw [advance, isRest, map_char_map_toChar proper, List.length_map, List.drop_left]

end

section

variable {text tail : List Symbol} {number : List Char} {value : Datum} {cursor after : Cursor}

/-! ## Reading a scalar -/

/-- A number starts with a digit, perhaps after a sign. -/
theorem NumberText.head (written : NumberText number value) :
    ∃ negative first rest, number = signText negative ++ first :: rest ∧
      isDigit first = true := by
  obtain ⟨negative, whole, fractionText, fraction, exponentText, exponentNegative, digits,
    isWhole, -, -, rfl, -⟩ := numberText_iff.mp written
  cases isWhole with
  | zero => exact ⟨negative, '0', _, rfl, rfl⟩
  | digits notZero areDigits => exact ⟨negative, _, _, rfl, areDigits _ List.mem_cons_self⟩

/-- A number starts with no word. -/
theorem find?_words_of_numberText (written : NumberText number value) (tail : List Char) :
    words.find? (fun word => word.1.isPrefixOf (number ++ tail)) = none := by
  obtain ⟨negative, first, rest, rfl, isFirst⟩ := written.head
  have other (letter : Char) (noDigit : isDigit letter = false) : letter ≠ first := by
    rintro rfl
    rw [noDigit] at isFirst
    cases isFirst
  cases negative with
  | true => simp [words, signText, other 'I' rfl]
  | false => simp [words, signText, other 'n' rfl, other 't' rfl, other 'f' rfl, other 'N' rfl,
      other 'I' rfl, other '-' rfl]

/-- What holds of digits, signs, points and marks of exponents holds of the characters of a
number. -/
theorem NumberText.forall_mem {property : Char → Prop} (written : NumberText number value)
    (ofDigit : ∀ char, isDigit char = true → property char)
    (ofOther : ∀ char ∈ ['-', '+', '.', 'e', 'E'], property char) :
    ∀ char ∈ number, property char := by
  obtain ⟨negative, whole, fractionText, fraction, exponentText, exponentNegative, digits,
    isWhole, isFraction, isExponent, rfl, -⟩ := numberText_iff.mp written
  have ofDigits {digits : List Char} (areDigits : ∀ digit ∈ digits, isDigit digit = true) :
      ∀ char ∈ digits, property char := fun char member => ofDigit char (areDigits char member)
  have ofMark {mark : Char} (marked : mark = 'e' ∨ mark = 'E') : property mark :=
    ofOther mark (by rcases marked with rfl | rfl <;> decide)
  have sign : ∀ char ∈ signText negative, property char := by
    cases negative with
    | false => exact List.forall_mem_nil _
    | true => exact List.forall_mem_singleton.mpr (ofOther '-' (by decide))
  have point : ∀ char ∈ fractionText, property char := by
    cases isFraction with
    | none => exact List.forall_mem_nil _
    | digits some areDigits =>
      exact List.forall_mem_cons.mpr ⟨ofOther '.' (by decide), ofDigits areDigits⟩
  have exponent : ∀ char ∈ exponentText, property char := by
    cases isExponent with
    | none => exact List.forall_mem_nil _
    | unsigned marked some areDigits =>
      exact List.forall_mem_cons.mpr ⟨ofMark marked, ofDigits areDigits⟩
    | positive marked some areDigits =>
      exact List.forall_mem_cons.mpr ⟨ofMark marked,
        List.forall_mem_cons.mpr ⟨ofOther '+' (by decide), ofDigits areDigits⟩⟩
    | negative marked some areDigits =>
      exact List.forall_mem_cons.mpr ⟨ofMark marked,
        List.forall_mem_cons.mpr ⟨ofOther '-' (by decide), ofDigits areDigits⟩⟩
  simp only [List.forall_mem_append]
  exact ⟨sign, ofDigits isWhole.areDigits, point, exponent⟩

/-- The reader takes the text of a scalar up to what does not continue it. -/
theorem readScalar_of_text (written : ScalarText text value)
    (ends : EndsNumber (tail.map Symbol.toChar)) (here : cursor.rest = text ++ tail) :
    ∃ after : Cursor, after.rest = tail ∧ readScalar cursor = .ok (value, after) := by
  have word {word : List Char} (isWord : text = word.map .char)
      (read : readScalar cursor = .ok (value, cursor.advance word.length)) :
      ∃ after : Cursor, after.rest = tail ∧ readScalar cursor = .ok (value, after) :=
    ⟨_, Cursor.rest_advance (isWord ▸ here), read⟩
  cases written with
  | @string inside symbols written =>
    obtain ⟨after, rest, read⟩ :=
      readSymbols_of_text written cursor.position (cursor.position + 1) tail
    refine ⟨after, rest, ?_⟩
    rw [readScalar, here]
    simp only [List.cons_append, List.append_assoc, List.nil_append, readString]
    rw [read]
    rfl
  | number written =>
    refine word rfl ?_
    have chars := Cursor.chars_eq here
    rw [readScalar]
    split
    · rename_i quoted
      obtain ⟨negative, first, others, rfl, isFirst⟩ := written.head
      rw [here] at quoted
      cases negative <;> cases quoted
      cases isFirst
    · rw [chars, find?_words_of_numberText written]
      exact readNumber_of_text written ends chars
  | boolean value =>
    cases value <;> exact word rfl (by rw [readScalar, Cursor.chars, here]; rfl)
  | notANumber => exact word rfl (by rw [readScalar, Cursor.chars, here]; rfl)
  | infinity negative =>
    cases negative <;> exact word rfl (by rw [readScalar, Cursor.chars, here]; rfl)

/-- What is read as a scalar is the text of one, or null. -/
theorem text_of_readScalar (read : readScalar cursor = .ok (value, after)) :
    ∃ text, cursor.rest = text ++ after.rest ∧ (ScalarText text value ∨ value = .null) := by
  rw [readScalar] at read
  split at read
  · rename_i rest here
    rw [readString] at read
    cases taken : readSymbols cursor.position (cursor.position + 1) rest with
    | error fault =>
      dsimp only at read
      rw [taken] at read
      cases read
    | ok found =>
      dsimp only at read
      rw [taken] at read
      cases read
      obtain ⟨inside, ends, written⟩ := text_of_readSymbols taken
      refine ⟨.char '"' :: (inside ++ [.char '"']), ?_, .inl (.string written)⟩
      rw [here, ends]
      simp
  · split at read
    · rename_i word found taken
      cases read
      have member := List.mem_of_find?_eq_some taken
      have starts := List.find?_some taken
      dsimp only at starts
      have proper : ∀ word ∈ words, ∀ char ∈ word.1, char ≠ '\uFFFD' := by simp [words]
      refine ⟨_, Cursor.rest_eq (List.isPrefixOf_iff_prefix.mp starts) (proper _ member), ?_⟩
      simp only [words, List.mem_cons, Prod.mk.injEq, List.not_mem_nil, or_false] at member
      rcases member with ⟨rfl, rfl⟩ | ⟨rfl, rfl⟩ | ⟨rfl, rfl⟩ | ⟨rfl, rfl⟩ | ⟨rfl, rfl⟩ |
        ⟨rfl, rfl⟩
      · exact .inr rfl
      · exact .inl (.boolean true)
      · exact .inl (.boolean false)
      · exact .inl .notANumber
      · exact .inl (.infinity false)
      · exact .inl (.infinity true)
    · obtain ⟨text, written, within, rfl⟩ := text_of_readNumber read
      have proper : ∀ char ∈ text, char ≠ '\uFFFD' :=
        written.forall_mem (fun char isDigit isMark => by rw [isMark] at isDigit; cases isDigit)
          (by simp)
      exact ⟨_, Cursor.rest_eq within proper, .inl (.number written)⟩

/-! ## Reading a document -/

/-- The cursor passes over the blanks at which it stands. -/
theorem rest_skipBlanks (cursor : Cursor) :
    cursor.skipBlanks.rest = cursor.rest.dropWhile isBlank := by
  have parts := List.takeWhile_append_dropWhile (p := isBlank) (l := cursor.rest)
  rw [Cursor.skipBlanks, Cursor.advance]
  generalize cursor.rest.takeWhile isBlank = before at parts ⊢
  generalize cursor.rest.dropWhile isBlank = after at parts ⊢
  rw [← parts, List.drop_left]

/-- A blank does not continue a number. -/
theorem endsNumber_of_blanks (blanks : ∀ symbol ∈ tail, isBlank symbol = true) :
    EndsNumber (tail.map Symbol.toChar) := by
  intro char first
  rw [List.head?_map, Option.mem_def, Option.map_eq_some_iff] at first
  obtain ⟨symbol, first, rfl⟩ := first
  have blank := blanks symbol (List.mem_of_mem_head? first)
  simp only [isBlank, Bool.or_eq_true, beq_iff_eq, or_assoc] at blank
  rcases blank with rfl | rfl | rfl | rfl <;> decide

/-- A scalar starts with none of the marks of other documents. -/
theorem ScalarText.head (written : ScalarText text value) :
    ∃ first rest, text = first :: rest ∧ first ≠ .char '[' ∧ first ≠ .char '\x7b' ∧
      first ≠ .char '\uFEFF' := by
  cases written with
  | string => exact ⟨_, _, rfl, by decide, by decide, by decide⟩
  | number written =>
    obtain ⟨negative, first, rest, rfl, isFirst⟩ := written.head
    cases negative with
    | true => exact ⟨_, _, rfl, by decide, by decide, by decide⟩
    | false =>
      refine ⟨.char first, rest.map .char, rfl, ?_, ?_, ?_⟩ <;> rintro ⟨⟩ <;> cases isFirst
  | boolean value => cases value <;> exact ⟨_, _, rfl, by decide, by decide, by decide⟩
  | notANumber => exact ⟨_, _, rfl, by decide, by decide, by decide⟩
  | infinity negative => cases negative <;> exact ⟨_, _, rfl, by decide, by decide, by decide⟩

/-- A number holds no blank. -/
theorem NumberText.noBlank (written : NumberText number value) :
    ∀ symbol ∈ number.map .char, isBlank symbol = false := by
  rw [List.forall_mem_map]
  refine written.forall_mem (fun char isDigit => ?_) (by simp [isBlank])
  rw [Bool.eq_false_iff]
  intro blank
  simp only [isBlank, Bool.or_eq_true, beq_iff_eq, Symbol.char.injEq, or_assoc] at blank
  rcases blank with rfl | rfl | rfl | rfl <;> cases isDigit

/-- A scalar does not end with a blank. -/
theorem ScalarText.last (written : ScalarText text value) :
    ∀ symbol ∈ text.getLast?, isBlank symbol = false := by
  cases written with
  | string =>
    rw [← List.cons_append, List.getLast?_concat]
    rintro symbol ⟨⟩
    decide
  | number written =>
    exact fun symbol last => written.noBlank symbol (List.mem_of_mem_getLast? last)
  | boolean value => cases value <;> rintro symbol ⟨⟩ <;> decide
  | notANumber =>
    rintro symbol ⟨⟩
    decide
  | infinity negative => cases negative <;> rintro symbol ⟨⟩ <;> decide

/-- A scalar does not start with a blank. -/
theorem ScalarText.first (written : ScalarText text value) :
    ∀ symbol ∈ text.head?, isBlank symbol = false := by
  cases written with
  | string =>
    rintro symbol ⟨⟩
    decide
  | number written =>
    exact fun symbol first => written.noBlank symbol (List.mem_of_mem_head? first)
  | boolean value => cases value <;> rintro symbol ⟨⟩ <;> decide
  | notANumber =>
    rintro symbol ⟨⟩
    decide
  | infinity negative => cases negative <;> rintro symbol ⟨⟩ <;> decide

/-- A value that starts with the mark of neither a sequence nor a record is a scalar. -/
theorem readValue_eq_readScalar (noSequence : cursor.rest.head? ≠ some (.char '['))
    (noRecord : cursor.rest.head? ≠ some (.char '\x7b')) (fuel : Nat) :
    readValue (fuel + 1) cursor = readScalar cursor := by
  rw [readValue]
  split
  · rename_i here
    rw [here] at noSequence
    exact absurd rfl noSequence
  · rename_i here
    rw [here] at noRecord
    exact absurd rfl noRecord
  · rfl

/-- A document that is the text of a scalar, with blanks around it, is read as that scalar. -/
theorem readDocument_of_text (written : ScalarText (stripBlanks text) value) :
    readDocument text = .ok value := by
  have parts : text.dropWhile isBlank =
      stripBlanks text ++ (text.dropWhile isBlank).rtakeWhile isBlank :=
    (List.rdropWhile_append_rtakeWhile ..).symm
  have blanks : ∀ symbol ∈ (text.dropWhile isBlank).rtakeWhile isBlank,
      isBlank symbol = true := fun symbol member => List.mem_rtakeWhile_imp member
  obtain ⟨first, rest, starts, noSequence, noRecord, noMark⟩ := written.head
  let cursor := (Cursor.mk 0 text).skipBlanks
  have here : cursor.rest = stripBlanks text ++ (text.dropWhile isBlank).rtakeWhile isBlank := by
    rw [rest_skipBlanks, ← parts]
  have head : cursor.rest.head? = some first := by rw [here, starts]; rfl
  obtain ⟨after, rest, read⟩ := readScalar_of_text written (endsNumber_of_blanks blanks) here
  have readValue : readValue (2 * text.length + 2) cursor = .ok (value, after) := by
    rw [readValue_eq_readScalar (by simpa [head] using noSequence)
      (by simpa [head] using noRecord), read]
  have ended : after.skipBlanks.rest.isEmpty = true := by
    rw [rest_skipBlanks, rest, List.dropWhile_eq_nil_iff.mpr blanks, List.isEmpty_nil]
  rw [readDocument.eq_def]
  split
  · rename_i others
    rw [rest_skipBlanks] at head
    exact absurd (Option.some.inj head).symm noMark
  · change (Json.readValue _ cursor >>= _) = _
    rw [readValue]
    exact if_pos ended

/-- A value that is neither a sequence nor a record has been read as a scalar. -/
theorem readScalar_of_readValue {fuel : Nat} (read : readValue fuel cursor = .ok (value, after))
    (notSequence : ∀ items, value ≠ .sequence items)
    (notRecord : ∀ entries, value ≠ .record entries) : readScalar cursor = .ok (value, after) := by
  cases fuel with
  | zero => cases read
  | succ fuel =>
    rw [readValue] at read
    split at read
    · dsimp only at read
      split at read
      · cases read
        exact absurd rfl (notSequence _)
      · cases items : readItems fuel (cursor.advance 1).skipBlanks with
        | error fault =>
          rw [items] at read
          cases read
        | ok found =>
          rw [items] at read
          cases read
          exact absurd rfl (notSequence _)
    · dsimp only at read
      split at read
      · cases read
        exact absurd rfl (notRecord _)
      · cases entries : readEntries fuel (cursor.advance 1).skipBlanks with
        | error fault =>
          rw [entries] at read
          cases read
        | ok found =>
          rw [entries] at read
          cases read
          exact absurd rfl (notRecord _)
    · exact read

/-- Blanks after a text that does not end with one are dropped. -/
theorem rdropWhile_append (last : ∀ symbol ∈ text.getLast?, isBlank symbol = false)
    (blanks : ∀ symbol ∈ tail, isBlank symbol = true) :
    (text ++ tail).rdropWhile isBlank = text := by
  rw [List.rdropWhile, List.reverse_append,
    List.dropWhile_append_of_pos fun symbol member => blanks symbol (List.mem_reverse.mp member),
    ← List.rdropWhile, List.rdropWhile_eq_self_iff]
  intro nonempty
  rw [last _ (List.getLast?_eq_some_getLast nonempty)]
  exact Bool.false_ne_true

/-- A scalar has no blanks around it. -/
theorem ScalarText.stripBlanks_eq (written : ScalarText text value) : stripBlanks text = text := by
  have whole : text.dropWhile isBlank = text := by
    cases here : text with
    | nil => rfl
    | cons first rest =>
      rw [List.dropWhile_cons, written.first first (by rw [here]; rfl), if_neg Bool.false_ne_true]
  have ends := rdropWhile_append written.last (List.forall_mem_nil _)
  rw [List.append_nil] at ends
  rw [stripBlanks, whole, ends]

/-- A document that is read as anything but null, a sequence or a record is the text of what is
read, with blanks around it. -/
theorem text_of_readDocument (read : readDocument text = .ok value) (notNull : value ≠ .null)
    (notSequence : ∀ items, value ≠ .sequence items)
    (notRecord : ∀ entries, value ≠ .record entries) :
    ScalarText (stripBlanks text) value := by
  rw [readDocument.eq_def] at read
  split at read
  · cases read
  · rename_i noMark
    let cursor := (Cursor.mk 0 text).skipBlanks
    change (readValue (2 * text.length + 2) cursor >>= _) = _ at read
    cases taken : readValue (2 * text.length + 2) cursor with
    | error fault =>
      rw [taken] at read
      cases read
    | ok found =>
      obtain ⟨found, after⟩ := found
      rw [taken] at read
      change (if after.skipBlanks.rest.isEmpty then _ else _) = _ at read
      split at read
      · rename_i ended
        cases read
        rw [rest_skipBlanks, List.isEmpty_iff, List.dropWhile_eq_nil_iff] at ended
        obtain ⟨body, here, written | null⟩ :=
          text_of_readScalar (readScalar_of_readValue taken notSequence notRecord)
        · rw [rest_skipBlanks] at here
          rw [stripBlanks, here, rdropWhile_append written.last ended]
          exact written
        · exact absurd null notNull
      · cases read

end
end Depot.Json
