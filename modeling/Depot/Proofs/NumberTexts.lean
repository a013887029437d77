import Depot.Json.Reader
import Mathlib.Data.List.TakeWhile
import Mathlib.Tactic.Common

/-!
# JSON texts of numbers

The JSON text of a number has an optional sign, whole digits that start with no zero or are one
zero, and perhaps a fraction and an exponent. With neither of the two it is an integer. The reader
takes as much of a text as belongs to a number.
-/

namespace Depot.Json

/-- The digits before the point: a single zero, or digits that start with no zero. -/
inductive WholeText : List Char → Prop
  | zero : WholeText ['0']
  | digits {first : Char} {rest : List Char} (notZero : first ≠ '0')
    (areDigits : ∀ digit ∈ first :: rest, isDigit digit = true) : WholeText (first :: rest)

/-- The text of a fraction with its digits: a point and at least one digit, or nothing. -/
inductive FractionText : List Char → List Char → Prop
  | none : FractionText [] []
  | digits {digits : List Char} (some : digits ≠ [])
    (areDigits : ∀ digit ∈ digits, isDigit digit = true) : FractionText ('.' :: digits) digits

/-- The text of an exponent with its sign and its digits: a letter, perhaps a sign, and at least one
digit, or nothing. -/
inductive ExponentText : List Char → Bool → List Char → Prop
  | none : ExponentText [] false []
  | unsigned {mark : Char} {digits : List Char} (marked : mark = 'e' ∨ mark = 'E')
    (some : digits ≠ []) (areDigits : ∀ digit ∈ digits, isDigit digit = true) :
    ExponentText (mark :: digits) false digits
  | positive {mark : Char} {digits : List Char} (marked : mark = 'e' ∨ mark = 'E')
    (some : digits ≠ []) (areDigits : ∀ digit ∈ digits, isDigit digit = true) :
    ExponentText (mark :: '+' :: digits) false digits
  | negative {mark : Char} {digits : List Char} (marked : mark = 'e' ∨ mark = 'E')
    (some : digits ≠ []) (areDigits : ∀ digit ∈ digits, isDigit digit = true) :
    ExponentText (mark :: '-' :: digits) true digits

/-- The sign in front of a number. -/
def signText (negative : Bool) : List Char := if negative then ['-'] else []

/-- The text of a number with its value. -/
inductive NumberText : List Char → Datum → Prop
  /-- An integer has neither a fraction nor an exponent, and no more digits than are read. -/
  | integer (negative : Bool) {whole : List Char} (isWhole : WholeText whole)
    (short : whole.length ≤ Text.digitLimit) :
    NumberText (signText negative ++ whole)
      (.integer (if negative then -naturalOfDigits whole else naturalOfDigits whole))
  /-- A number with a fraction or an exponent is rounded. -/
  | real (negative : Bool) {whole fractionText fraction exponentText digits : List Char}
    {exponentNegative : Bool} (isWhole : WholeText whole)
    (isFraction : FractionText fractionText fraction)
    (isExponent : ExponentText exponentText exponentNegative digits)
    (broken : fractionText ≠ [] ∨ exponentText ≠ []) :
    NumberText (signText negative ++ (whole ++ (fractionText ++ exponentText)))
      (.real ((DecimalText.mk whole fraction exponentNegative digits).toBinary64 negative))

section

variable {text tail whole fractionText fraction exponentText digits : List Char} {negative : Bool}

/-- Nothing that continues a number stands at the front of a text. -/
def EndsNumber (text : List Char) : Prop :=
  ∀ char ∈ text.head?, isDigit char = false ∧ char ≠ '.' ∧ char ≠ 'e' ∧ char ≠ 'E'

/-! ## Taking the parts -/

/-- Digits are taken up to what is no digit. -/
theorem takeWhile_digits (areDigits : ∀ digit ∈ digits, isDigit digit = true)
    (stops : ∀ char ∈ tail.head?, isDigit char = false) :
    (digits ++ tail).takeWhile isDigit = digits := by
  rw [List.takeWhile_append_of_pos areDigits]
  cases tail with
  | nil => simp
  | cons char rest =>
    have stop := stops char rfl
    simp [stop]

/-- There are whole digits. -/
theorem WholeText.not_isEmpty (isWhole : WholeText whole) : ¬ whole.isEmpty = true := by
  cases isWhole <;> simp

/-- The whole digits of a number are taken. -/
theorem wholeDigits_append (isWhole : WholeText whole)
    (stops : ∀ char ∈ tail.head?, isDigit char = false) : wholeDigits (whole ++ tail) = whole := by
  cases isWhole with
  | zero => rfl
  | @digits first rest notZero areDigits =>
    rw [List.cons_append, wholeDigits, ← List.cons_append, takeWhile_digits areDigits stops]
    rintro others ⟨⟩
    exact notZero rfl

/-- What is taken in front of a text are whole digits, if it is anything. -/
theorem of_wholeDigits (some : wholeDigits text ≠ []) :
    WholeText (wholeDigits text) ∧ wholeDigits text <+: text := by
  rw [wholeDigits.eq_def] at some ⊢
  split
  · exact ⟨.zero, List.prefix_append ['0'] _⟩
  · rename_i notZero
    have within := List.takeWhile_prefix (l := text) isDigit
    refine ⟨?_, within⟩
    split at some
    · exact absurd rfl (notZero _)
    · obtain ⟨first, rest, taken⟩ := List.exists_cons_of_ne_nil some
      have areDigits : ∀ digit ∈ first :: rest, isDigit digit = true := fun digit member =>
        List.mem_takeWhile_imp (taken ▸ member)
      rw [taken] at within ⊢
      refine .digits ?_ areDigits
      rintro rfl
      obtain ⟨others, rfl⟩ := within
      exact notZero _ rfl

/-- The digits of a fraction are taken. -/
theorem fractionDigits_append (isFraction : FractionText fractionText fraction)
    (stops : ∀ char ∈ tail.head?, isDigit char = false ∧ char ≠ '.') :
    fractionDigits (fractionText ++ tail) = fraction := by
  cases isFraction with
  | none =>
    rw [List.nil_append, fractionDigits.eq_def]
    split
    · exact absurd rfl (stops '.' rfl).2
    · rfl
  | digits some areDigits => exact takeWhile_digits areDigits fun char first => (stops char first).1

/-- What is taken as the digits of a fraction is the fraction in front of the text. -/
theorem of_fractionDigits (text : List Char) :
    ∃ fractionText, FractionText fractionText (fractionDigits text) ∧ fractionText <+: text := by
  rw [fractionDigits.eq_def]
  split
  · rename_i rest
    by_cases empty : rest.takeWhile isDigit = []
    · rw [empty]
      exact ⟨[], .none, List.nil_prefix⟩
    · exact ⟨'.' :: rest.takeWhile isDigit,
        .digits empty fun digit member => List.mem_takeWhile_imp member,
        List.cons_prefix_cons.mpr ⟨rfl, List.takeWhile_prefix _⟩⟩
  · exact ⟨[], .none, List.nil_prefix⟩

/-- The sign and the digits of an exponent are taken. -/
theorem exponentPart?_append {exponentNegative : Bool}
    (isExponent : ExponentText exponentText exponentNegative digits) (ends : EndsNumber tail) :
    exponentPart? (exponentText ++ tail) =
      if exponentText = [] then none
      else some (exponentNegative, digits, exponentText.length) := by
  have taken {digits : List Char} (areDigits : ∀ digit ∈ digits, isDigit digit = true) :
      (digits ++ tail).takeWhile isDigit = digits :=
    takeWhile_digits areDigits fun char first => (ends char first).1
  cases isExponent with
  | none =>
    rw [List.nil_append, if_pos rfl, exponentPart?.eq_def]
    split
    · rename_i mark rest
      obtain ⟨-, -, notSmall, notLarge⟩ := ends mark rfl
      rw [if_neg (not_or.mpr ⟨notSmall, notLarge⟩)]
    · rfl
  | @unsigned mark digits marked some areDigits =>
    obtain ⟨first, rest, rfl⟩ := List.exists_cons_of_ne_nil some
    have isFirst := areDigits first List.mem_cons_self
    rw [List.cons_append, exponentPart?, if_pos marked, if_neg (List.cons_ne_nil _ _)]
    · rw [taken areDigits, if_neg (by simp), Nat.add_comm]
      rfl
    · rintro others ⟨⟩
      cases isFirst
    · rintro others ⟨⟩
      cases isFirst
  | positive marked some areDigits =>
    rw [List.cons_append, List.cons_append, exponentPart?, if_pos marked,
      if_neg (List.cons_ne_nil _ _)]
    rw [taken areDigits, if_neg (by simpa using some), List.length_cons, List.length_cons,
      Nat.add_comm]
  | negative marked some areDigits =>
    rw [List.cons_append, List.cons_append, exponentPart?, if_pos marked,
      if_neg (List.cons_ne_nil _ _)]
    rw [taken areDigits, if_neg (by simpa using some), List.length_cons, List.length_cons,
      Nat.add_comm]

/-- What is taken as an exponent is the exponent in front of the text. -/
theorem of_exponentPart? {exponentNegative : Bool} {length : Nat}
    (taken : exponentPart? text = some (exponentNegative, digits, length)) :
    ∃ exponentText, ExponentText exponentText exponentNegative digits ∧ exponentText <+: text ∧
      exponentText ≠ [] ∧ exponentText.length = length := by
  rw [exponentPart?.eq_def] at taken
  split at taken
  · rename_i mark rest
    split at taken
    · rename_i marked
      split at taken
      rename_i found negative taken signLength parts
      have areDigits (rest : List Char) : ∀ digit ∈ rest.takeWhile isDigit, isDigit digit = true :=
        fun digit member => List.mem_takeWhile_imp member
      split at taken
      · cases taken
      · rename_i some
        rw [List.isEmpty_iff] at some
        cases taken
        split at parts <;> cases parts
        · exact ⟨_, .negative marked some (areDigits _),
            by simp [List.cons_prefix_cons, List.takeWhile_prefix], List.cons_ne_nil _ _,
            by simp only [List.length_cons]; omega⟩
        · exact ⟨_, .positive marked some (areDigits _),
            by simp [List.cons_prefix_cons, List.takeWhile_prefix], List.cons_ne_nil _ _,
            by simp only [List.length_cons]; omega⟩
        · exact ⟨_, .unsigned marked some (areDigits _),
            by simp [List.cons_prefix_cons, List.takeWhile_prefix], List.cons_ne_nil _ _,
            by simp only [List.length_cons]; omega⟩
    · cases taken
  · cases taken

/-! ## Reading numbers -/

/-- The value of a number by its parts; an integer with too many digits is refused. -/
def valueOf (negative : Bool) (whole fraction : List Char) :
    Option (Bool × List Char) → Except JsonError Datum
  | some (exponentNegative, digits) =>
    .ok (.real ((DecimalText.mk whole fraction exponentNegative digits).toBinary64 negative))
  | none =>
    if fraction.isEmpty then
      if Text.digitLimit < whole.length then .error (.tooManyDigits whole.length)
      else .ok (.integer (if negative then -naturalOfDigits whole else naturalOfDigits whole))
    else .ok (.real ((DecimalText.mk whole fraction false []).toBinary64 negative))

/-- The texts of numbers are those whose parts have a value. -/
theorem numberText_iff {value : Datum} :
    NumberText text value ↔ ∃ negative whole fractionText fraction exponentText exponentNegative
      digits, WholeText whole ∧ FractionText fractionText fraction ∧
        ExponentText exponentText exponentNegative digits ∧
        text = signText negative ++ (whole ++ (fractionText ++ exponentText)) ∧
        valueOf negative whole fraction
          (if exponentText = [] then none else some (exponentNegative, digits)) = .ok value := by
  constructor
  · rintro (⟨negative, isWhole, short⟩ | ⟨negative, isWhole, isFraction, isExponent, broken⟩)
    · exact ⟨negative, _, [], [], [], false, [], isWhole, .none, .none, by simp,
        by simp [valueOf, Nat.not_lt.mpr short]⟩
    · refine ⟨negative, _, _, _, _, _, _, isWhole, isFraction, isExponent, rfl, ?_⟩
      cases isExponent with
      | none =>
        cases isFraction with
        | none => simp at broken
        | digits some areDigits => rw [if_pos rfl, valueOf, if_neg (by simpa using some)]
      | _ => rfl
  · rintro ⟨negative, whole, fractionText, fraction, exponentText, exponentNegative, digits,
      isWhole, isFraction, isExponent, rfl, valued⟩
    by_cases noExponent : exponentText = []
    · subst noExponent
      cases isExponent
      rw [if_pos rfl, valueOf] at valued
      cases isFraction with
      | none =>
        rw [List.isEmpty_nil, if_pos rfl] at valued
        split at valued
        · cases valued
        · rename_i short
          cases valued
          simpa using NumberText.integer negative isWhole (Nat.not_lt.mp short)
      | digits some areDigits =>
        rw [if_neg (by simpa using some)] at valued
        cases valued
        exact .real negative isWhole (.digits some areDigits) .none (.inl (List.cons_ne_nil _ _))
    · rw [if_neg noExponent] at valued
      cases valued
      exact .real negative isWhole isFraction isExponent (.inr noExponent)

/-- What is read of an unsigned number, by the parts that are taken. -/
theorem readUnsigned_eq (negative : Bool) (signLength : Nat) (cursor : Cursor) :
    readUnsigned negative signLength cursor =
      let text := cursor.chars.drop signLength
      let whole := wholeDigits text
      let fraction := fractionDigits (text.drop whole.length)
      let length := whole.length + (if fraction.isEmpty then 0 else fraction.length + 1)
      let exponent := exponentPart? (text.drop length)
      if whole.isEmpty then cursor.fail .expectingValue
      else (valueOf negative whole fraction (exponent.map fun parts => (parts.1, parts.2.1))).map
        (·, cursor.advance (signLength + length + exponent.elim 0 (·.2.2))) := by
  rw [readUnsigned]
  dsimp only
  split
  · rfl
  · rw [List.drop_drop]
    cases exponentPart? _ with
    | some parts => simp [valueOf, Except.map, Nat.add_assoc]
    | none =>
      simp only [valueOf, Option.map_none, Option.elim_none, Nat.add_zero, Nat.add_assoc]
      split
      · split <;> rfl
      · rfl

/-- The text of a fraction is one longer than its digits, if there is one. -/
theorem FractionText.length_eq (isFraction : FractionText fractionText fraction) :
    (if fraction.isEmpty then 0 else fraction.length + 1) = fractionText.length := by
  cases isFraction with
  | none => rfl
  | digits some areDigits => rw [if_neg (by simpa using some), List.length_cons]

/-- No digit follows whole digits, and no digit and no point follow a fraction. -/
theorem ExponentText.stops {exponentNegative : Bool}
    (isExponent : ExponentText exponentText exponentNegative digits) (ends : EndsNumber tail) :
    ∀ char ∈ (exponentText ++ tail).head?, isDigit char = false ∧ char ≠ '.' := by
  have ofMark {mark : Char} (marked : mark = 'e' ∨ mark = 'E') :
      isDigit mark = false ∧ mark ≠ '.' := by
    rcases marked with rfl | rfl <;> decide
  cases isExponent with
  | none => exact fun char first => ⟨(ends char first).1, (ends char first).2.1⟩
  | unsigned marked | positive marked | negative marked =>
    rintro char ⟨⟩
    exact ofMark marked

/-- The reader takes a number up to what does not continue it. -/
theorem readUnsigned_of_text {signLength : Nat} {cursor : Cursor} {exponentNegative : Bool}
    (isWhole : WholeText whole) (isFraction : FractionText fractionText fraction)
    (isExponent : ExponentText exponentText exponentNegative digits) (ends : EndsNumber tail)
    (here : cursor.chars.drop signLength = whole ++ (fractionText ++ (exponentText ++ tail))) :
    readUnsigned negative signLength cursor =
      (valueOf negative whole fraction
        (if exponentText = [] then none else some (exponentNegative, digits))).map
          (·, cursor.advance (signLength + (whole ++ (fractionText ++ exponentText)).length)) := by
  have stops := isExponent.stops ends
  have wholeStops : ∀ char ∈ (fractionText ++ (exponentText ++ tail)).head?,
      isDigit char = false := by
    cases isFraction with
    | none => exact fun char first => (stops char first).1
    | digits => rintro char ⟨⟩; rfl
  rw [readUnsigned_eq]
  dsimp only
  rw [here, wholeDigits_append isWhole wholeStops, List.drop_left,
    fractionDigits_append isFraction stops, isFraction.length_eq, if_neg isWhole.not_isEmpty,
    ← List.append_assoc, ← List.length_append, List.drop_left, exponentPart?_append isExponent ends]
  simp only [List.length_append, ← Nat.add_assoc]
  by_cases noExponent : exponentText = []
  · rw [if_pos noExponent, if_pos noExponent, noExponent]
    rfl
  · rw [if_neg noExponent, if_neg noExponent]
    rfl

/-- Whatever the reader takes as an unsigned number has the parts of one. -/
theorem of_readUnsigned (negative : Bool) (signLength : Nat) (cursor : Cursor) :
    readUnsigned negative signLength cursor = cursor.fail .expectingValue ∨
      ∃ whole fractionText fraction exponentText exponentNegative digits,
        WholeText whole ∧ FractionText fractionText fraction ∧
        ExponentText exponentText exponentNegative digits ∧
        whole ++ (fractionText ++ exponentText) <+: cursor.chars.drop signLength ∧
        readUnsigned negative signLength cursor =
          (valueOf negative whole fraction (if exponentText = [] then none
            else some (exponentNegative, digits))).map
              (·, cursor.advance
                (signLength + (whole ++ (fractionText ++ exponentText)).length)) := by
  rw [readUnsigned_eq]
  dsimp only
  split
  · exact .inl rfl
  · rename_i nonempty
    refine .inr ?_
    rw [List.isEmpty_iff] at nonempty
    obtain ⟨isWhole, afterWhole, wholeFirst⟩ := of_wholeDigits nonempty
    generalize wholeDigits (cursor.chars.drop signLength) = whole at isWhole wholeFirst ⊢
    rw [← wholeFirst, List.drop_left]
    obtain ⟨fractionText, isFraction, ⟨afterFraction, rfl⟩⟩ := of_fractionDigits afterWhole
    generalize fractionDigits (fractionText ++ afterFraction) = fraction at isFraction ⊢
    rw [isFraction.length_eq, ← List.append_assoc, ← List.length_append, List.drop_left]
    cases taken : exponentPart? afterFraction with
    | none =>
      refine ⟨whole, fractionText, fraction, [], false, [], isWhole, isFraction, .none, ?_, ?_⟩
      · rw [List.append_nil]
        exact List.prefix_append _ _
      · rw [List.append_nil]
        rfl
    | some parts =>
      obtain ⟨exponentNegative, digits, count⟩ := parts
      obtain ⟨exponentText, isExponent, isPrefix, some, rfl⟩ := of_exponentPart? taken
      refine ⟨whole, fractionText, fraction, exponentText, exponentNegative, digits, isWhole,
        isFraction, isExponent, ?_, ?_⟩
      · rw [← List.append_assoc]
        exact (List.prefix_append_right_inj _).mpr isPrefix
      · rw [if_neg some]
        simp only [List.length_append, ← Nat.add_assoc]
        rfl

/-- A number is read after its sign. -/
theorem readNumber_eq (negative : Bool) {cursor : Cursor} (unsigned : List Char)
    (here : cursor.chars = signText negative ++ unsigned) (plain : unsigned.head? ≠ some '-') :
    readNumber cursor = readUnsigned negative (signText negative).length cursor := by
  rw [readNumber, here]
  cases negative with
  | true => rfl
  | false =>
    rw [signText, if_neg Bool.false_ne_true, List.nil_append]
    split
    · exact absurd rfl plain
    · rfl

/-- Whole digits start with no sign. -/
theorem WholeText.head?_append (isWhole : WholeText whole) (tail : List Char) :
    (whole ++ tail).head? ≠ some '-' := by
  cases isWhole with
  | zero => exact nofun
  | @digits first rest notZero areDigits =>
    rintro ⟨⟩
    exact absurd (areDigits '-' List.mem_cons_self) (by decide)

/-- The reader takes the text of a number up to what does not continue it. -/
theorem readNumber_of_text {value : Datum} (written : NumberText text value)
    (ends : EndsNumber tail) {cursor : Cursor} (here : cursor.chars = text ++ tail) :
    readNumber cursor = .ok (value, cursor.advance text.length) := by
  obtain ⟨negative, whole, fractionText, fraction, exponentText, exponentNegative, digits,
    isWhole, isFraction, isExponent, rfl, valued⟩ := numberText_iff.mp written
  rw [List.length_append]
  simp only [List.append_assoc] at here
  rw [readNumber_eq negative _ here (isWhole.head?_append _),
    readUnsigned_of_text isWhole isFraction isExponent ends (by rw [here, List.drop_left]), valued]
  rfl

/-- Whatever the reader takes for a number has the parts of one. -/
theorem of_readNumber (cursor : Cursor) :
    readNumber cursor = cursor.fail .expectingValue ∨
      ∃ negative whole fractionText fraction exponentText exponentNegative digits,
        WholeText whole ∧ FractionText fractionText fraction ∧
        ExponentText exponentText exponentNegative digits ∧
        signText negative ++ (whole ++ (fractionText ++ exponentText)) <+: cursor.chars ∧
        readNumber cursor =
          (valueOf negative whole fraction (if exponentText = [] then none
            else some (exponentNegative, digits))).map
              (·, cursor.advance (signText negative ++
                (whole ++ (fractionText ++ exponentText))).length) := by
  obtain ⟨negative, unsigned, here, same⟩ : ∃ negative unsigned,
      cursor.chars = signText negative ++ unsigned ∧
        readNumber cursor = readUnsigned negative (signText negative).length cursor := by
    rw [readNumber]
    split
    · rename_i rest here
      exact ⟨true, rest, here, rfl⟩
    · exact ⟨false, cursor.chars, rfl, rfl⟩
  rw [same]
  refine (of_readUnsigned negative _ cursor).imp_right ?_
  rintro ⟨whole, fractionText, fraction, exponentText, exponentNegative, digits, isWhole,
    isFraction, isExponent, within, read⟩
  refine ⟨negative, whole, fractionText, fraction, exponentText, exponentNegative, digits, isWhole,
    isFraction, isExponent, ?_, ?_⟩
  · rw [here, List.drop_left] at within
    rw [here]
    exact (List.prefix_append_right_inj _).mpr within
  · simp only [read, List.length_append]

/-- What is read as a number is the text of a number. -/
theorem text_of_readNumber {cursor after : Cursor} {value : Datum}
    (read : readNumber cursor = .ok (value, after)) :
    ∃ text, NumberText text value ∧ text <+: cursor.chars ∧
      after = cursor.advance text.length := by
  rcases of_readNumber cursor with failed | ⟨negative, whole, fractionText, fraction, exponentText,
    exponentNegative, digits, isWhole, isFraction, isExponent, within, taken⟩
  · cases failed.symm.trans read
  · rw [taken] at read
    cases valued : valueOf negative whole fraction
      (if exponentText = [] then none else some (exponentNegative, digits)) with
    | error fault =>
      rw [valued] at read
      cases read
    | ok found =>
      rw [valued] at read
      cases read
      exact ⟨_, numberText_iff.mpr ⟨negative, whole, fractionText, fraction, exponentText,
        exponentNegative, digits, isWhole, isFraction, isExponent, rfl, valued⟩, within, rfl⟩

/-- Whole digits are digits. -/
theorem WholeText.areDigits (isWhole : WholeText whole) :
    ∀ digit ∈ whole, isDigit digit = true := by
  cases isWhole with
  | zero => exact List.forall_mem_singleton.mpr (by decide)
  | digits notZero areDigits => exact areDigits

/-- A number is refused only for an integer with too many digits. -/
theorem of_readNumber_tooManyDigits {cursor : Cursor} {count : Nat}
    (refused : readNumber cursor = .error (.tooManyDigits count)) :
    Text.digitLimit < count ∧ ∃ run, run <:+: cursor.chars ∧ run.length = count ∧
      ∀ digit ∈ run, isDigit digit = true := by
  rcases of_readNumber cursor with failed | ⟨negative, whole, fractionText, fraction, exponentText,
    exponentNegative, digits, isWhole, isFraction, isExponent, ⟨tail, here⟩, taken⟩
  · cases failed.symm.trans refused
  · rw [taken] at refused
    have within : whole <:+: cursor.chars :=
      ⟨signText negative, fractionText ++ exponentText ++ tail, by simp [← here]⟩
    split at refused
    · rw [valueOf] at refused
      split at refused
      · split at refused
        · rename_i long
          cases refused
          exact ⟨long, whole, within, rfl, isWhole.areDigits⟩
        · cases refused
      · cases refused
    · cases refused

end
end Depot.Json
