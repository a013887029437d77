import Depot.Real.Binary64

/-!
# Decimal text of binary64 numbers

`Binary64.shortest` finds the fewest decimal digits that read back to a number, by
trying the two neighbours of the number on decimal grids of one to seventeen digits in
exact arithmetic. A `DecimalStyle` is the record of decisions that turns those
digits into text, and `DecimalText` is the reader for unsigned decimal text.
-/

namespace Depot

/-- The number of decimal digits of a natural; zero has one. -/
def decimalLength (value : Nat) : Nat :=
  if value < 10 then 1 else decimalLength (value / 10) + 1
termination_by value
decreasing_by omega

/-- The decimal digits of a natural, most significant first. -/
def decimalDigits (value : Nat) : List Char := Nat.toDigits 10 value

namespace Binary64

/-- The reals that round to a number, as a closed or open interval of ratios over one
common denominator, with the number itself between the ends. -/
structure RoundingInterval where
  lower : Nat
  exact : Nat
  upper : Nat
  denominator : Nat
  closed : Bool

/-- The rounding interval of the magnitude of a finite word.

The neighbours are half a unit away, except that below a power of two the lower
neighbour is only a quarter away. The ends round to the number when its significand is
even. -/
def roundingInterval (number : Binary64) : RoundingInterval :=
  let quarter : Int := number.scale - 2
  let unit : Nat := Nat.pow 2 quarter.toNat
  let atPower : Bool := number.fraction.val == 0 && 1 < number.exponent.val
  let exact := 4 * number.significand * unit
  { lower := exact - (if atPower then unit else 2 * unit)
    exact := exact
    upper := exact + 2 * unit
    denominator := Nat.pow 2 (-quarter).toNat
    closed := number.significand % 2 == 0 }

/-- Whether `digits * 10 ^ exponent` lies in a rounding interval. -/
def RoundingInterval.contains (interval : RoundingInterval) (digits : Nat) (exponent : Int) :
    Bool :=
  let scaled := digits * Nat.pow 10 exponent.toNat * interval.denominator
  let factor := Nat.pow 10 (-exponent).toNat
  if interval.closed then
    interval.lower * factor ≤ scaled && scaled ≤ interval.upper * factor
  else
    interval.lower * factor < scaled && scaled < interval.upper * factor

/-- The power of ten of the leading decimal digit of `numerator / denominator`. -/
def leadingExponent (numerator denominator : Nat) : Int :=
  if denominator ≤ numerator then (decimalLength (numerator / denominator) : Int) - 1
  else -(decimalLength ((denominator + numerator - 1) / numerator - 1) : Int)

/-- The point of the grid `10 ^ exponent` that a rounding interval contains and that is
nearest to the number; of two equally near points the even one. -/
def RoundingInterval.gridPoint? (interval : RoundingInterval) (exponent : Int) : Option Nat :=
  let numerator := interval.exact * Nat.pow 10 (-exponent).toNat
  let denominator := interval.denominator * Nat.pow 10 exponent.toNat
  let below := numerator / denominator
  let above := below + 1
  let twice := 2 * (numerator % denominator)
  let preferBelow := twice < denominator || (twice == denominator && below % 2 == 0)
  let nearer := if preferBelow then below else above
  let farther := if preferBelow then above else below
  if interval.contains nearer exponent then some nearer
  else if interval.contains farther exponent then some farther
  else none

/-- The digits and the power of ten of the shortest decimal that reads back to a
finite, non-zero number. Seventeen digits always suffice. -/
def shortest (number : Binary64) : Nat × Int :=
  let interval := number.roundingInterval
  let leading := leadingExponent interval.exact interval.denominator
  let attempt (count : Nat) : Option (Nat × Int) :=
    let exponent := leading - count
    (interval.gridPoint? exponent).map fun digits => (digits, exponent)
  ((List.range 17).findSome? attempt).getD (interval.exact / interval.denominator, 0)

end Binary64

/-- How a number is written in decimal. -/
structure DecimalStyle where
  /-- The least power of ten of a leading digit that is written without an exponent. -/
  positionalFrom : Int
  /-- The first power of ten of a leading digit that is written with an exponent. -/
  positionalBelow : Int
  /-- The least number of exponent digits. -/
  exponentWidth : Nat
  notANumber : String
  infinity : String

namespace DecimalStyle

/-- Numbers in messages: positional from `0.0001` to below `10 ^ 16`, otherwise an
exponent with a sign and at least two digits. -/
def message : DecimalStyle := ⟨-4, 16, 2, "nan", "inf"⟩

/-- Numbers in JSON documents are written as in messages, apart from the names of the
three values that have no digits. -/
def json : DecimalStyle := { message with notANumber := "NaN", infinity := "Infinity" }

/-- The digits of a natural, filled up on the left with zeros. -/
def padded (width value : Nat) : List Char :=
  let digits := decimalDigits value
  List.replicate (width - digits.length) '0' ++ digits

/-- The text of `digits * 10 ^ exponent`, where `digits` does not end in a zero unless
it is zero. -/
def digitsText (style : DecimalStyle) (digits : Nat) (exponent : Int) : List Char :=
  let figures := decimalDigits digits
  let leading : Int := exponent + figures.length - 1
  if style.positionalFrom ≤ leading ∧ leading < style.positionalBelow then
    if leading < 0 then
      '0' :: '.' :: (List.replicate (-leading - 1).toNat '0' ++ figures)
    else
      let whole := leading.toNat + 1
      let fraction := figures.drop whole
      figures.take whole ++ List.replicate (whole - figures.length) '0' ++
        '.' :: (if fraction.isEmpty then ['0'] else fraction)
  else
    let fraction := figures.drop 1
    figures.take 1 ++ (if fraction.isEmpty then [] else '.' :: fraction) ++
      'e' :: (if leading < 0 then '-' else '+') ::
        padded style.exponentWidth leading.natAbs

/-- Drops the trailing zeros of a coefficient, raising the power of ten. -/
def stripZeros (digits : Nat) (exponent : Int) : Nat × Int :=
  if _positive : 0 < digits then
    if digits % 10 = 0 then stripZeros (digits / 10) (exponent + 1) else (digits, exponent)
  else (digits, exponent)
termination_by digits
decreasing_by omega

/-- The text of a number. -/
def text (style : DecimalStyle) (number : Binary64) : String :=
  if number.isNaN then style.notANumber
  else
    let sign := if number.negative then "-" else ""
    if number.isInfinite then sign ++ style.infinity
    else if number.isZero then sign ++ "0.0"
    else
      let (digits, exponent) := number.shortest
      let (stripped, raised) := stripZeros digits exponent
      sign ++ String.ofList (style.digitsText stripped raised)

end DecimalStyle

/-- The value of a decimal digit of ASCII. -/
def digitValue? (char : Char) : Option Nat :=
  if '0' ≤ char ∧ char ≤ '9' then some (char.toNat - '0'.toNat) else none

/-- Whether a character is a decimal digit of ASCII. -/
def isDigit (char : Char) : Bool := (digitValue? char).isSome

/-- The natural that a run of decimal digits denotes; other characters count as zero. -/
def naturalOfDigits (digits : List Char) : Nat :=
  digits.foldl (fun value char => 10 * value + (digitValue? char).getD 0) 0

/-- The parts of an unsigned decimal: whole digits, fraction digits, and the exponent's
sign and digits. -/
structure DecimalText where
  whole : List Char
  fraction : List Char
  exponentNegative : Bool
  exponentDigits : List Char

namespace DecimalText

/-- The number that the parts denote, rounded to the nearest word. -/
def toBinary64 (parts : DecimalText) (negative : Bool) : Binary64 :=
  let magnitude : Int := naturalOfDigits parts.exponentDigits
  let exponent := if parts.exponentNegative then -magnitude else magnitude
  .ofDecimal negative (naturalOfDigits (parts.whole ++ parts.fraction))
    (exponent - parts.fraction.length)

/-- Reads the exponent after a mantissa; the text has to end with it. -/
def readExponent? (whole fraction : List Char) : List Char → Option DecimalText
  | [] => if whole.isEmpty && fraction.isEmpty then none else some ⟨whole, fraction, false, []⟩
  | mark :: rest =>
    if whole.isEmpty && fraction.isEmpty then none
    else if mark = 'e' ∨ mark = 'E' then
      let (negative, digits) : Bool × List Char := match rest with
        | '-' :: digits => (true, digits)
        | '+' :: digits => (false, digits)
        | digits => (false, digits)
      if digits.isEmpty || !digits.all isDigit then none
      else some ⟨whole, fraction, negative, digits⟩
    else none

/-- Reads unsigned decimal text: digits with an optional point and an optional exponent. -/
def read? (text : List Char) : Option DecimalText :=
  let whole := text.takeWhile isDigit
  match text.dropWhile isDigit with
  | '.' :: rest => readExponent? whole (rest.takeWhile isDigit) (rest.dropWhile isDigit)
  | rest => readExponent? whole [] rest

end DecimalText

/-- Reads the text of a number as messages write it. -/
def Binary64.ofText? (text : String) : Option Binary64 :=
  let (negative, rest) : Bool × List Char := match text.toList with
    | '-' :: rest => (true, rest)
    | rest => (false, rest)
  if rest = "inf".toList then some (.infinity negative)
  else if rest = "nan".toList then some .nan
  else (DecimalText.read? rest).map fun parts => parts.toBinary64 negative

end Depot
