import Depot.Proofs.ScalarTexts
import Mathlib.Data.List.Induction

/-!
# Numbers in JSON texts

The decimal digits of a natural are the whole digits of a number and stand for that natural. The
text of a finite binary64 number is the JSON text of a number with a fraction or an exponent, and
its parts are those that are read of it where messages are read.
-/

namespace Depot

/-! ## Digits of naturals -/

/-- The digits of a natural are digits. -/
theorem isDigit_of_mem_decimalDigits {value : Nat} {digit : Char}
    (member : digit ∈ decimalDigits value) : isDigit digit = true := by
  have found := Nat.isDigit_of_mem_toDigits (by decide) (by decide) member
  simp only [Char.isDigit, Bool.and_eq_true, decide_eq_true_eq] at found
  rw [isDigit, digitValue?, if_pos ⟨found.1, found.2⟩]
  rfl

/-- Digits are read one after the other. -/
theorem naturalOfDigits_eq {digits : List Char}
    (areDigits : ∀ digit ∈ digits, isDigit digit = true) :
    naturalOfDigits digits = Nat.ofDigitChars 10 digits 0 := by
  have step (start : Nat) : digits.foldl (fun value char => 10 * value + (digitValue? char).getD 0)
      start = Nat.ofDigitChars 10 digits start := by
    induction digits generalizing start with
    | nil => rfl
    | cons digit rest inductionHypothesis =>
      rw [List.forall_mem_cons] at areDigits
      have value : digitValue? digit = some (digit.toNat - '0'.toNat) := by
        have isDigit := areDigits.1
        rw [Depot.isDigit, digitValue?] at isDigit
        rw [digitValue?]
        split at isDigit
        · rename_i within
          rw [if_pos within]
        · cases isDigit
      rw [List.foldl_cons, value, inductionHypothesis areDigits.2]
      rfl
  exact step 0

/-- The digits of a natural stand for it. -/
theorem naturalOfDigits_decimalDigits (value : Nat) :
    naturalOfDigits (decimalDigits value) = value := by
  rw [naturalOfDigits_eq fun digit member => isDigit_of_mem_decimalDigits member]
  exact Nat.ofDigitChars_ten_toDigits

/-- The digits of a natural other than zero start with no zero. -/
theorem head?_decimalDigits {value : Nat} (notZero : value ≠ 0) :
    (decimalDigits value).head? ≠ some '0' := by
  induction value using Nat.strong_induction_on with
  | h value inductionHypothesis =>
    rw [decimalDigits, Nat.toDigits_eq_if (by decide)]
    split
    · rename_i small
      have ofDigit : ∀ digit < 10, digit ≠ 0 → [digit.digitChar].head? ≠ some '0' := by decide
      exact ofDigit value small notZero
    · obtain ⟨first, rest, digits⟩ :=
        List.exists_cons_of_ne_nil (Nat.toDigits_ne_nil (n := value / 10) (b := 10))
      have ofFront := inductionHypothesis (value / 10) (by omega) (by omega)
      rw [decimalDigits, digits] at ofFront
      rw [digits]
      exact ofFront

/-- The digits of a natural are a single zero or start with no zero. -/
theorem wholeText_decimalDigits (value : Nat) : Json.WholeText (decimalDigits value) := by
  by_cases zero : value = 0
  · rw [zero]
    exact .zero
  · have first := head?_decimalDigits zero
    cases digits : decimalDigits value with
    | nil => exact absurd digits Nat.toDigits_ne_nil
    | cons digit rest =>
      rw [digits] at first
      refine .digits (fun same => first (by rw [same]; rfl)) fun other member => ?_
      exact isDigit_of_mem_decimalDigits (digits ▸ member)

/-! ## The parts of a number -/

namespace DecimalText

open Json

/-- A text is made of the parts of a number, of which a fraction or an exponent is one. -/
inductive Writes : DecimalText → List Char → Prop
  | mk {whole fractionText fraction exponentText digits : List Char} {negative : Bool}
    (isWhole : WholeText whole) (isFraction : FractionText fractionText fraction)
    (isExponent : ExponentText exponentText negative digits)
    (broken : fractionText ≠ [] ∨ exponentText ≠ []) :
    Writes ⟨whole, fraction, negative, digits⟩ (whole ++ (fractionText ++ exponentText))

variable {parts : DecimalText} {text : List Char}

/-- The text of the parts of a number, with a sign, is the JSON text of a rounded number. -/
theorem Writes.numberText (writes : parts.Writes text) (negative : Bool) :
    NumberText (signText negative ++ text) (.real (parts.toBinary64 negative)) := by
  obtain ⟨isWhole, isFraction, isExponent, broken⟩ := writes
  exact .real negative isWhole isFraction isExponent broken

/-- A text that is made of the parts of a number starts with a digit. -/
theorem Writes.head (writes : parts.Writes text) :
    ∃ first rest, text = first :: rest ∧ isDigit first = true := by
  obtain ⟨isWhole, -, -, -⟩ := writes
  cases isWhole with
  | zero => exact ⟨'0', _, rfl, rfl⟩
  | digits notZero areDigits => exact ⟨_, _, rfl, areDigits _ List.mem_cons_self⟩

/-- Digits that are followed by something else are taken, and the rest is left. -/
theorem takeWhile_and_dropWhile_digits {digits tail : List Char}
    (areDigits : ∀ digit ∈ digits, isDigit digit = true)
    (stops : ∀ char ∈ tail.head?, isDigit char = false) :
    (digits ++ tail).takeWhile isDigit = digits ∧ (digits ++ tail).dropWhile isDigit = tail := by
  have taken := takeWhile_digits areDigits stops
  have both := List.takeWhile_append_dropWhile (p := isDigit) (l := digits ++ tail)
  rw [taken] at both
  exact ⟨taken, List.append_cancel_left both⟩

/-- The exponent after a mantissa is read. -/
theorem readExponent?_of_text {whole fraction exponentText digits : List Char} {negative : Bool}
    (some : whole ≠ []) (isExponent : ExponentText exponentText negative digits) :
    readExponent? whole fraction exponentText = .some ⟨whole, fraction, negative, digits⟩ := by
  have mantissa : ¬ (whole.isEmpty && fraction.isEmpty) = true := by simp [some]
  have complete {digits : List Char} (some : digits ≠ [])
      (areDigits : ∀ digit ∈ digits, isDigit digit = true) :
      ¬ (digits.isEmpty || !digits.all isDigit) = true := by
    simpa [some] using areDigits
  cases isExponent with
  | none => rw [readExponent?, if_neg mantissa]
  | @unsigned mark digits marked some areDigits =>
    obtain ⟨first, rest, rfl⟩ := List.exists_cons_of_ne_nil some
    have isFirst := areDigits first List.mem_cons_self
    rw [readExponent?, if_neg mantissa, if_pos marked]
    · exact if_neg (complete some areDigits)
    · rintro others ⟨⟩
      cases isFirst
    · rintro others ⟨⟩
      cases isFirst
  | positive marked some areDigits | negative marked some areDigits =>
    rw [readExponent?, if_neg mantissa, if_pos marked]
    exact if_neg (complete some areDigits)

/-- A text that is made of the parts of a number is read as these parts. -/
theorem Writes.read? (writes : parts.Writes text) : DecimalText.read? text = some parts := by
  obtain ⟨isWhole, isFraction, isExponent, broken⟩ := writes
  have nothing : EndsNumber [] := fun char first => by cases first
  have stops := isExponent.stops nothing
  rw [List.append_nil] at stops
  have someWhole := List.isEmpty_eq_false_iff.mp (Bool.eq_false_iff.mpr isWhole.not_isEmpty)
  cases isFraction with
  | none =>
    obtain ⟨taken, left⟩ :=
      takeWhile_and_dropWhile_digits isWhole.areDigits fun char first => (stops char first).1
    rw [DecimalText.read?, List.nil_append, taken, left]
    split
    · exact absurd rfl (stops '.' rfl).2
    · exact readExponent?_of_text someWhole isExponent
  | digits someFraction areDigits =>
    have parted (rest : List Char) := takeWhile_and_dropWhile_digits isWhole.areDigits
      (show ∀ char ∈ ('.' :: rest).head?, isDigit char = false by rintro char ⟨⟩; rfl)
    obtain ⟨takenFraction, leftFraction⟩ :=
      takeWhile_and_dropWhile_digits areDigits fun char first => (stops char first).1
    rw [DecimalText.read?, List.cons_append, (parted _).1, (parted _).2]
    show readExponent? _ (List.takeWhile isDigit _) (List.dropWhile isDigit _) = _
    rw [takenFraction, leftFraction]
    exact readExponent?_of_text someWhole isExponent

end DecimalText

namespace DecimalStyle

open Json DecimalText

/-- The digits of a natural with a width have at least one digit. -/
theorem padded_ne_nil (width value : Nat) : padded width value ≠ [] := by
  simp [padded, decimalDigits, Nat.toDigits_ne_nil]

/-- Padded digits are digits. -/
theorem isDigit_of_mem_padded {width value : Nat} {digit : Char}
    (member : digit ∈ padded width value) : isDigit digit = true := by
  rw [padded] at member
  rcases List.mem_append.mp member with filled | inDigits
  · rw [List.eq_of_mem_replicate filled]
    decide
  · exact isDigit_of_mem_decimalDigits inDigits

/-- Whole digits that are no single zero go on with zeros. -/
theorem wholeText_take {figures : List Char} (some : figures ≠ [])
    (areDigits : ∀ digit ∈ figures, isDigit digit = true) {width : Nat}
    (proper : figures.head? = .some '0' → width = 1) (positive : 0 < width) :
    WholeText (figures.take width ++ List.replicate (width - figures.length) '0') := by
  obtain ⟨first, rest, rfl⟩ := List.exists_cons_of_ne_nil some
  obtain ⟨width, rfl⟩ := Nat.exists_eq_add_one.mpr positive
  by_cases zero : first = '0'
  · have single := proper (by rw [zero]; rfl)
    rw [zero, single]
    simpa using WholeText.zero
  · refine .digits zero fun digit member => ?_
    have among : digit ∈ (first :: rest).take (width + 1) ++ List.replicate _ '0' := member
    rcases List.mem_append.mp among with taken | filled
    · exact areDigits digit (List.mem_of_mem_take taken)
    · rw [List.eq_of_mem_replicate filled]
      decide

/-- A digit alone is a number. -/
theorem wholeText_take_one {figures : List Char} (some : figures ≠ [])
    (areDigits : ∀ digit ∈ figures, isDigit digit = true) : WholeText (figures.take 1) := by
  obtain ⟨first, rest, rfl⟩ := List.exists_cons_of_ne_nil some
  have whole := wholeText_take some areDigits (fun _ => rfl) Nat.one_pos
  simpa using whole

/-- Digits after a point, or a zero where there are none, are a fraction. -/
theorem fractionText_or_zero {figures : List Char}
    (areDigits : ∀ digit ∈ figures, isDigit digit = true) :
    FractionText ('.' :: (if figures.isEmpty then ['0'] else figures))
      (if figures.isEmpty then ['0'] else figures) := by
  split
  · exact .digits (List.cons_ne_nil _ _) (List.forall_mem_singleton.mpr (by decide))
  · rename_i some
    exact .digits (by simpa using some) areDigits

/-- Digits after a point are a fraction, and where there are none there is no point. -/
theorem fractionText_or_nil {figures : List Char}
    (areDigits : ∀ digit ∈ figures, isDigit digit = true) :
    FractionText (if figures.isEmpty then [] else '.' :: figures) figures := by
  split
  · rename_i empty
    rw [List.isEmpty_iff.mp empty]
    exact .none
  · rename_i some
    exact .digits (by simpa using some) areDigits

/-- A signed power of ten is an exponent. -/
theorem exponentText_signed (width : Nat) (leading : Int) :
    ExponentText ('e' :: (if leading < 0 then '-' else '+') :: padded width leading.natAbs)
      (decide (leading < 0)) (padded width leading.natAbs) := by
  by_cases below : leading < 0
  · rw [if_pos below, decide_eq_true below]
    exact .negative (.inl rfl) (padded_ne_nil _ _) fun digit => isDigit_of_mem_padded
  · rw [if_neg below, decide_eq_false below]
    exact .positive (.inl rfl) (padded_ne_nil _ _) fun digit => isDigit_of_mem_padded

/-- Digits times a power of ten are written as the parts of a number, of which a fraction or an
exponent is one. Zero is only written in one way. -/
theorem exists_writes_digitsText (style : DecimalStyle) {digits : Nat} {exponent : Int}
    (proper : digits = 0 → exponent = 0) :
    ∃ parts : DecimalText, parts.Writes (style.digitsText digits exponent) := by
  have areDigits : ∀ digit ∈ decimalDigits digits, isDigit digit = true :=
    fun digit member => isDigit_of_mem_decimalDigits member
  have someFigures : decimalDigits digits ≠ [] := Nat.toDigits_ne_nil
  have single : (decimalDigits digits).head? = some '0' →
      (exponent + (decimalDigits digits).length - 1).toNat + 1 = 1 := by
    intro first
    have zero : digits = 0 := by_contra fun notZero => head?_decimalDigits notZero first
    rw [proper zero, zero]
    rfl
  rw [digitsText]
  generalize decimalDigits digits = figures at areDigits someFigures single
  dsimp only
  generalize exponent + figures.length - 1 = leading at single
  have others (count : Nat) : ∀ digit ∈ figures.drop count, isDigit digit = true :=
    fun digit member => areDigits digit (List.mem_of_mem_drop member)
  split
  · split
    · have isFraction : FractionText
          ('.' :: (List.replicate (-leading - 1).toNat '0' ++ figures)) _ :=
        .digits (by simp [someFigures]) fun digit member => by
          rcases List.mem_append.mp member with filled | figure
          · rw [List.eq_of_mem_replicate filled]
            decide
          · exact areDigits digit figure
      have writes := Writes.mk .zero isFraction .none (.inl (List.cons_ne_nil _ _))
      rw [List.append_nil] at writes
      exact ⟨_, writes⟩
    · have isWhole := wholeText_take someFigures areDigits single (Nat.succ_pos _)
      have isFraction := fractionText_or_zero (others (leading.toNat + 1))
      have writes := Writes.mk isWhole isFraction .none (.inl (List.cons_ne_nil _ _))
      rw [List.append_nil] at writes
      exact ⟨_, writes⟩
  · have isWhole := wholeText_take_one someFigures areDigits
    have isExponent := exponentText_signed style.exponentWidth leading
    have writes := Writes.mk isWhole (fractionText_or_nil (others 1)) isExponent
      (.inr (List.cons_ne_nil _ _))
    rw [← List.append_assoc] at writes
    exact ⟨_, writes⟩

/-- Without its trailing zeros a coefficient is zero only if it was. -/
theorem stripZeros_proper {digits : Nat} {exponent : Int} (proper : digits = 0 → exponent = 0) :
    (stripZeros digits exponent).1 = 0 → (stripZeros digits exponent).2 = 0 := by
  fun_induction stripZeros digits exponent with
  | case1 digits exponent positive trailing inductionHypothesis =>
    exact inductionHypothesis fun zero => by omega
  | case2 | case3 => exact proper

end DecimalStyle

/-! ## Numbers -/

namespace Binary64

variable {number : Binary64}

/-- A number other than zero has a significand. -/
theorem significand_pos (notZero : number.isZero = false) : 0 < number.significand := by
  rw [significand]
  split
  · rename_i zero
    refine Nat.pos_of_ne_zero fun none => ?_
    have same : number.fraction = 0 := Fin.ext none
    rw [isZero, zero, same] at notZero
    exact absurd notZero (by decide)
  · rw [hiddenBit]
    omega

/-- Zero is outside the interval of the reals that round to a number other than zero. -/
theorem ne_zero_of_contains (notZero : number.isZero = false) {digits : Nat} {exponent : Int}
    (within : number.roundingInterval.contains digits exponent = true) : digits ≠ 0 := by
  rintro rfl
  have lower : 0 < number.roundingInterval.lower := by
    have unit : 0 < Nat.pow 2 (number.scale - 2).toNat := Nat.pow_pos (by decide)
    have exact := Nat.mul_le_mul_right (Nat.pow 2 (number.scale - 2).toNat)
      (significand_pos notZero)
    rw [roundingInterval]
    dsimp only
    rw [Nat.mul_assoc]
    split <;> omega
  have positive : 0 < number.roundingInterval.lower * Nat.pow 10 (-exponent).toNat :=
    Nat.mul_pos lower (Nat.pow_pos (by decide))
  rw [RoundingInterval.contains, Nat.zero_mul, Nat.zero_mul] at within
  split at within
  · rw [Bool.and_eq_true, decide_eq_true_eq] at within
    omega
  · rw [Bool.and_eq_true, decide_eq_true_eq] at within
    omega

/-- A point of a grid that is found is one that the interval contains. -/
theorem RoundingInterval.contains_of_gridPoint? {interval : RoundingInterval} {exponent : Int}
    {point : Nat} (found : interval.gridPoint? exponent = some point) :
    interval.contains point exponent = true := by
  have ofEither (nearer farther : Nat)
      (either : (if interval.contains nearer exponent then some nearer
        else if interval.contains farther exponent then some farther else none) = some point) :
      interval.contains point exponent = true := by
    split at either
    · cases either
      assumption
    · split at either
      · cases either
        assumption
      · cases either
  exact ofEither _ _ found

/-- Of a number other than zero the digits are zero only with no power of ten. -/
theorem shortest_proper (notZero : number.isZero = false) :
    number.shortest.1 = 0 → number.shortest.2 = 0 := by
  rw [shortest]
  dsimp only
  cases found : (List.range 17).findSome? _ with
  | none => exact fun _ => rfl
  | some pair =>
    obtain ⟨count, -, attempt⟩ := List.exists_of_findSome?_eq_some found
    obtain ⟨digits, point, rfl⟩ := Option.map_eq_some_iff.mp attempt
    have within := RoundingInterval.contains_of_gridPoint? point
    exact fun zero => absurd zero (ne_zero_of_contains notZero within)

/-- The text of the parts of a number is read as the number where messages are read. -/
theorem ofText?_of_writes {parts : DecimalText} {body : List Char} {text : String}
    {negative : Bool} (writes : parts.Writes body)
    (same : text.toList = Json.signText negative ++ body) :
    ofText? text = some (parts.toBinary64 negative) := by
  obtain ⟨first, rest, isBody, isFirst⟩ := writes.head
  have noWord {word : List Char} (noDigit : ∀ char ∈ word.head?, isDigit char = false) :
      body ≠ word := by
    rintro rfl
    rw [isBody] at noDigit
    exact absurd isFirst (Bool.eq_false_iff.mp (noDigit first rfl))
  have finish : (if body = "inf".toList then some (infinity negative)
      else if body = "nan".toList then some nan
      else (DecimalText.read? body).map fun parts => parts.toBinary64 negative) =
      some (parts.toBinary64 negative) := by
    rw [if_neg (noWord (by rintro char ⟨⟩; rfl)), if_neg (noWord (by rintro char ⟨⟩; rfl)),
      writes.read?]
    rfl
  rw [ofText?, same]
  cases negative with
  | true => exact finish
  | false =>
    rw [Json.signText, if_neg Bool.false_ne_true, List.nil_append]
    split
    rename_i found negative rest parts
    split at parts
    · exact absurd rfl (noWord (by rintro char ⟨⟩; rfl))
    · cases parts
      exact finish

/-- A finite number is written as the parts of a number after its sign. -/
theorem exists_writes_text (style : DecimalStyle) (notNaN : number.isNaN = false)
    (notInfinite : number.isInfinite = false) :
    ∃ parts body, DecimalText.Writes parts body ∧
      (style.text number).toList = Json.signText number.negative ++ body := by
  have signed : (if number.negative then "-" else "").toList = Json.signText number.negative := by
    cases number.negative <;> rfl
  rw [DecimalStyle.text, notNaN, if_neg Bool.false_ne_true, notInfinite]
  dsimp only
  rw [if_neg Bool.false_ne_true]
  split
  · have isFraction := Json.FractionText.digits (List.cons_ne_nil '0' [])
      (List.forall_mem_singleton.mpr (by decide))
    have writes := DecimalText.Writes.mk .zero isFraction .none (.inl (List.cons_ne_nil _ _))
    exact ⟨_, _, writes, by rw [String.toList_append, signed]; rfl⟩
  · rename_i notZero
    have proper := shortest_proper (Bool.eq_false_iff.mpr notZero)
    obtain ⟨parts, writes⟩ :=
      style.exists_writes_digitsText (DecimalStyle.stripZeros_proper proper)
    exact ⟨parts, _, writes, by rw [String.toList_append, signed, String.toList_ofList]⟩

/-- A number whose text in a message is read back is what its JSON text stands for. -/
theorem scalarText_text (notNaN : number.isNaN = false)
    (readsBack : ofText? (DecimalStyle.message.text number) = some number) :
    Json.ScalarText (Text.ofString (DecimalStyle.json.text number)).symbols (.real number) := by
  cases isInfinite : number.isInfinite with
  | true =>
    obtain ⟨negative, exponent, fraction⟩ := number
    simp only [Binary64.isInfinite, Bool.and_eq_true, beq_iff_eq] at isInfinite
    obtain ⟨rfl, rfl⟩ := isInfinite
    have written := Json.ScalarText.infinity negative
    cases negative <;> exact written
  | false =>
    obtain ⟨parts, body, writes, isText⟩ :=
      exists_writes_text DecimalStyle.message notNaN isInfinite
    have sameText : DecimalStyle.json.text number = DecimalStyle.message.text number := by
      rw [DecimalStyle.text, DecimalStyle.text, notNaN, isInfinite]
      rfl
    rw [ofText?_of_writes writes isText] at readsBack
    rw [sameText, Text.ofString, isText]
    have written := writes.numberText number.negative
    rw [Option.some.inj readsBack] at written
    exact .number written

end Binary64

end Depot
