/-!
# Binary64 numbers

A `Binary64` is the three fields of an IEEE 754 double-precision word. The module
decodes a word to the exact rational it denotes, orders words and integers on the
extended rational line, and rounds a ratio of naturals to the nearest word. No
machine arithmetic on floating-point numbers is involved, so every statement about a
number is a statement about `Nat`, `Int` and `Rat`.

Reading and writing decimal text are in `Depot.Real.Decimal`.
-/

namespace Depot

/-- The sign, the biased exponent and the fraction of a double-precision word. -/
structure Binary64 where
  negative : Bool
  exponent : Fin 2048
  fraction : Fin 4503599627370496
  deriving DecidableEq, Repr

namespace Binary64

/-- The weight of the implicit leading bit, `2 ^ 52`. -/
def hiddenBit : Nat := 4503599627370496

/-- A word whose exponent field is all ones and whose fraction is not zero. -/
def isNaN (number : Binary64) : Bool :=
  number.exponent == 2047 && number.fraction != 0

/-- A word whose exponent field is all ones and whose fraction is zero. -/
def isInfinite (number : Binary64) : Bool :=
  number.exponent == 2047 && number.fraction == 0

/-- A word that denotes a rational number. -/
def isFinite (number : Binary64) : Bool :=
  number.exponent != 2047

/-- Zero with the given sign. -/
def zero (negative : Bool) : Binary64 := ⟨negative, 0, 0⟩

/-- Infinity with the given sign. -/
def infinity (negative : Bool) : Binary64 := ⟨negative, 2047, 0⟩

/-- The quiet not-a-number word. -/
def nan : Binary64 := ⟨false, 2047, 2251799813685248⟩

/-- The integer significand; a subnormal word has no implicit leading bit. -/
def significand (number : Binary64) : Nat :=
  if number.exponent = 0 then number.fraction.val else hiddenBit + number.fraction.val

/-- The power of two that the significand is scaled by. -/
def scale (number : Binary64) : Int :=
  if number.exponent = 0 then -1074 else (number.exponent.val : Int) - 1075

/-- A finite word denotes zero exactly when its significand is zero. -/
def isZero (number : Binary64) : Bool :=
  number.exponent == 0 && number.fraction == 0

/-- The exact rational that a finite word denotes. -/
def toRat (number : Binary64) : Rat :=
  let signed : Int := if number.negative then -(number.significand : Int) else number.significand
  if 0 ≤ number.scale then (signed * (Nat.pow 2 number.scale.toNat : Nat) : Int)
  else mkRat signed (Nat.pow 2 (-number.scale).toNat)

/-- The word of the given sign whose exponent and fraction fields, read as one
natural, are `magnitude`; too large a magnitude is infinity. -/
def ofMagnitude (negative : Bool) (magnitude : Nat) : Binary64 :=
  if bound : magnitude < 2047 * hiddenBit then
    ⟨negative, ⟨magnitude / hiddenBit, by unfold hiddenBit at *; omega⟩,
      ⟨magnitude % hiddenBit, Nat.mod_lt _ (by decide)⟩⟩
  else infinity negative

/-- The exponent and fraction fields of a word, read as one natural. -/
def magnitude (number : Binary64) : Nat :=
  number.exponent.val * hiddenBit + number.fraction.val

/-- Division to the nearest natural; a half goes to the even neighbour. -/
def roundHalfEven (numerator denominator : Nat) : Nat :=
  let quotient := numerator / denominator
  let twice := 2 * (numerator % denominator)
  if twice < denominator then quotient
  else if denominator < twice then quotient + 1
  else quotient + quotient % 2

/-- The word nearest to `numerator / denominator` with the given sign.

The scale is the one that leaves 53 significant bits, or the subnormal scale where
that would be smaller. A quotient that rounds up to the next power of two carries
into the exponent field by itself, since the two fields are read as one natural. -/
def ofRatio (negative : Bool) (numerator denominator : Nat) : Binary64 :=
  if numerator = 0 then zero negative
  else
    let estimate : Int := (numerator.log2 : Int) - denominator.log2 - 52
    let tooLarge : Bool :=
      if 0 ≤ estimate then numerator < denominator * Nat.pow 2 estimate.toNat * hiddenBit
      else numerator * Nat.pow 2 (-estimate).toNat < denominator * hiddenBit
    let exact := if tooLarge then estimate - 1 else estimate
    let chosen : Int := max exact (-1074)
    let rounded :=
      if 0 ≤ chosen then roundHalfEven numerator (denominator * Nat.pow 2 chosen.toNat)
      else roundHalfEven (numerator * Nat.pow 2 (-chosen).toNat) denominator
    ofMagnitude negative ((chosen + 1074).toNat * hiddenBit + rounded)

/-- The word nearest to `digits * 10 ^ exponent` with the given sign.

Exponents beyond the range of the format are decided without building the power. -/
def ofDecimal (negative : Bool) (digits : Nat) (exponent : Int) : Binary64 :=
  if digits = 0 then zero negative
  else if 310 < exponent then infinity negative
  else if 0 ≤ exponent then ofRatio negative (digits * Nat.pow 10 exponent.toNat) 1
  else if (digits.log2 : Int) + 1 + 3 * exponent < -1080 then zero negative
  else ofRatio negative digits (Nat.pow 10 (-exponent).toNat)

end Binary64

/-- The rational line with both infinities. -/
inductive ExtendedRational where
  | negativeInfinity
  | finite (value : Rat)
  | positiveInfinity
  deriving DecidableEq

namespace ExtendedRational

/-- The order of the extended line. -/
def le : ExtendedRational → ExtendedRational → Bool
  | negativeInfinity, _ => true
  | _, positiveInfinity => true
  | finite left, finite right => decide (left ≤ right)
  | _, _ => false

/-- `le` relates every two points one way or the other. -/
theorem le_total (left right : ExtendedRational) : (left.le right || right.le left) = true := by
  cases left <;> cases right <;> simp [le, Rat.le_total]

/-- `le` chains. -/
theorem le_trans {lower middle upper : ExtendedRational}
    (first : lower.le middle = true) (second : middle.le upper = true) :
    lower.le upper = true := by
  cases lower <;> cases middle <;> cases upper <;> simp_all [le]
  exact Rat.le_trans first second

/-- Two points below each other are the same point. -/
theorem le_antisymm {left right : ExtendedRational}
    (first : left.le right = true) (second : right.le left = true) : left = right := by
  cases left <;> cases right <;> simp_all [le]
  exact Rat.le_antisymm first second

end ExtendedRational

namespace Binary64

/-- The point of the extended line that a word denotes; a not-a-number word denotes none. -/
def toExtended? (number : Binary64) : Option ExtendedRational :=
  if number.isNaN then none
  else if number.isInfinite then
    some (if number.negative then .negativeInfinity else .positiveInfinity)
  else some (.finite number.toRat)

/-- Exactly the not-a-number words denote no point. -/
theorem toExtended?_eq_none_iff (number : Binary64) :
    number.toExtended? = none ↔ number.isNaN = true := by
  unfold toExtended?
  split
  · simp [*]
  · split <;> simp [*]

end Binary64
end Depot
