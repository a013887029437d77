import Depot.Datum.Literal

/-!
# Templates

A template is a string with places that data fill in: `%s` shows a datum as running text, `%r`
as a literal, `%d` and its relatives show a number. Between the mark and the letter
of a place may stand flags, a width and a precision; `%%` is a percent sign.
-/

namespace Depot.Text

/-- The two numbers of a place. -/
inductive PlaceNumber where
  | width
  | precision
  deriving DecidableEq

namespace PlaceNumber

/-- The greatest value of a number. -/
def greatest : PlaceNumber → Nat
  | width => 9223372036854775807
  | precision => 2147483647

/-- The name of a number. -/
def label : PlaceNumber → String
  | width => "width"
  | precision => "precision"

/-- The name of the machine integers that hold a number. -/
def machineType : PlaceNumber → String
  | width => "ssize_t"
  | precision => "int"

/-- Whether a number can have a value. -/
def admits (number : PlaceNumber) (value : Int) : Bool :=
  -(number.greatest : Int) - 1 ≤ value && value ≤ number.greatest

end PlaceNumber

/-- Why a template cannot be filled. -/
inductive TemplateError where
  | tooFewArguments
  | tooManyArguments
  | namedPlace
  | widthNotInteger
  | numberTooBig (number : PlaceNumber)
  | argumentTooBig (number : PlaceNumber)
  | incomplete
  | unknownConversion (letter : Char) (position : Nat)
  | notInteger (letter : Char) (typeName : String)
  | notReal (letter : Char) (typeName : String)
  | notNumber (typeName : String)
  | notCharacter
  | characterRange
  | infiniteInteger
  | notANumberInteger
  /-- An integer is beyond the greatest finite real. -/
  | integerBeyondReals
  /-- A datum holds an integer with more digits than are written. -/
  | unwritable

/-- The wording of a template error. -/
def TemplateError.message : TemplateError → String
  | tooFewArguments => "not enough arguments for format string"
  | tooManyArguments => "not all arguments converted during string formatting"
  | namedPlace => "format requires a mapping"
  | widthNotInteger => "* wants int"
  | numberTooBig number => number.label ++ " too big"
  | argumentTooBig number => "Python int too large to convert to C " ++ number.machineType
  | incomplete => "incomplete format"
  | unknownConversion letter position =>
    let shown := if 31 ≤ letter.toNat ∧ letter.toNat ≤ 126 then letter else '?'
    "unsupported format character '" ++ shown.toString ++ "' (0x" ++
      String.ofList (Nat.toDigits 16 letter.toNat) ++ ") at index " ++ toString position
  | notInteger letter typeName =>
    "%" ++ letter.toString ++ " format: an integer is required, not " ++ typeName
  | notReal letter typeName =>
    "%" ++ letter.toString ++ " format: a real number is required, not " ++ typeName
  | notNumber typeName => "must be real number, not " ++ typeName
  | notCharacter => "%c requires int or char"
  | characterRange => "%c arg not in range(0x110000)"
  | infiniteInteger => "cannot convert float infinity to integer"
  | notANumberInteger => "cannot convert float NaN to integer"
  | integerBeyondReals => "int too large to convert to float"
  | unwritable => Datum.unwritableText

/-- What stands between the mark and the letter of a place. -/
structure PlaceStyle where
  leftAligned : Bool
  signed : Bool
  spaced : Bool
  alternate : Bool
  zeroFilled : Bool
  width : Nat
  precision : Option Nat

/-- A place without flags, width or precision. -/
def PlaceStyle.plain : PlaceStyle := ⟨false, false, false, false, false, 0, none⟩

/-- The style with one more flag, if the character is a flag. -/
def PlaceStyle.withFlag? (style : PlaceStyle) : Char → Option PlaceStyle
  | '-' => some { style with leftAligned := true }
  | '+' => some { style with signed := true }
  | ' ' => some { style with spaced := true }
  | '#' => some { style with alternate := true }
  | '0' => some { style with zeroFilled := true }
  | _ => none

/-- Reads the flags in front of a place's width. -/
def readFlags (style : PlaceStyle) : List Char → PlaceStyle × List Char
  | [] => (style, [])
  | char :: rest =>
    match style.withFlag? char with
    | some flagged => readFlags flagged rest
    | none => (style, char :: rest)

/-- A number of a place: digits, or a star that takes the next argument. -/
def readNumber (number : PlaceNumber) (arguments : List Datum) (text : List Char) :
    Except TemplateError (Int × List Datum × List Char) :=
  let given (value : Int) (others : List Datum) (rest : List Char) :
      Except TemplateError (Int × List Datum × List Char) :=
    if number.admits value then .ok (value, others, rest) else .error (.argumentTooBig number)
  match text with
  | '*' :: rest =>
    match arguments with
    | .integer value :: others => given value others rest
    | .boolean value :: others => given (if value then 1 else 0) others rest
    | _ :: _ => .error .widthNotInteger
    | [] => .error .tooFewArguments
  | _ =>
    let value := naturalOfDigits (text.takeWhile isDigit)
    if value ≤ number.greatest then .ok (value, arguments, text.dropWhile isDigit)
    else .error (.numberTooBig number)

/-- Fills a number up to the width of a style; zeros go between the sign and the digits. -/
def PlaceStyle.padNumber (style : PlaceStyle) (sign body : List Char) : List Char :=
  let missing := style.width - (sign.length + body.length)
  if style.leftAligned then sign ++ body ++ List.replicate missing ' '
  else if style.zeroFilled then sign ++ List.replicate missing '0' ++ body
  else List.replicate missing ' ' ++ sign ++ body

/-- Cuts a text to the precision of a style. -/
def PlaceStyle.cut (style : PlaceStyle) (text : Text) : Text :=
  match style.precision with
  | some precision => ⟨text.symbols.take precision⟩
  | none => text

/-- Fills a text up to the width of a style. -/
def PlaceStyle.pad (style : PlaceStyle) (text : Text) : List Symbol :=
  let missing := List.replicate (style.width - text.length) (Symbol.char ' ')
  if style.leftAligned then text.symbols ++ missing else missing ++ text.symbols

/-- The sign that a number shows. -/
def PlaceStyle.sign (style : PlaceStyle) (negative : Bool) : List Char :=
  if negative then ['-'] else if style.signed then ['+'] else if style.spaced then [' '] else []

/-- An integer in a base, with at least as many digits as the precision asks for. -/
def showInteger (style : PlaceStyle) (letter : Char) (value : Int) : List Char :=
  let base := if letter = 'o' then 8 else if letter = 'x' ∨ letter = 'X' then 16 else 10
  let lower := Nat.toDigits base value.natAbs
  let digits := if letter = 'X' then lower.map Char.toUpper else lower
  let filled := List.replicate (style.precision.getD 0 - digits.length) '0' ++ digits
  let mark := if style.alternate && base != 10 then ['0', letter] else []
  style.padNumber (style.sign (value < 0) ++ mark) filled

/-- The digits of `numerator / denominator` with a fixed number of places, a half going to
the even neighbour. -/
def fixedDigits (numerator denominator places : Nat) (keepPoint : Bool) : List Char :=
  let scaled := Binary64.roundHalfEven (numerator * Nat.pow 10 places) denominator
  let whole := decimalDigits (scaled / Nat.pow 10 places)
  if places = 0 then if keepPoint then whole ++ ['.'] else whole
  else whole ++ '.' :: DecimalStyle.padded places (scaled % Nat.pow 10 places)

/-- The digits and the power of ten of a positive ratio, rounded to `count + 1` digits. -/
def roundedDigits (numerator denominator count : Nat) : Nat × Int :=
  let leading := Binary64.leadingExponent numerator denominator
  let exponent := leading - count
  let digits := Binary64.roundHalfEven (numerator * Nat.pow 10 (-exponent).toNat)
    (denominator * Nat.pow 10 exponent.toNat)
  if digits = Nat.pow 10 (count + 1) then (Nat.pow 10 count, leading + 1) else (digits, leading)

/-- A ratio with one digit before the point and a power of ten after the digits. -/
def exponentDigits (numerator denominator places : Nat) (keepPoint : Bool) : List Char :=
  let (digits, leading) : Nat × Int :=
    if numerator = 0 then (0, 0) else roundedDigits numerator denominator places
  let figures := DecimalStyle.padded (places + 1) digits
  figures.take 1 ++ (if places = 0 && !keepPoint then [] else '.' :: figures.drop 1) ++
    'e' :: (if leading < 0 then '-' else '+') :: DecimalStyle.padded 2 leading.natAbs

/-- Drops zeros, and then a point, from the end of a run of digits with a point. -/
def dropTrailingZeros (digits : List Char) : List Char :=
  if digits.contains '.' then
    let stripped := digits.reverse.dropWhile (· = '0')
    (if stripped.head? = some '.' then stripped.drop 1 else stripped).reverse
  else digits

/-- A ratio with a number of significant digits, with or without an exponent. -/
def generalDigits (numerator denominator significant : Nat) (keepPoint : Bool) : List Char :=
  let wanted := max significant 1
  let leading : Int :=
    if numerator = 0 then 0 else (roundedDigits numerator denominator (wanted - 1)).2
  if -4 ≤ leading ∧ leading < wanted then
    let digits := fixedDigits numerator denominator (wanted - 1 - leading).toNat keepPoint
    if keepPoint then digits else dropTrailingZeros digits
  else
    let digits := exponentDigits numerator denominator (wanted - 1) keepPoint
    if keepPoint then digits
    else dropTrailingZeros (digits.takeWhile (· ≠ 'e')) ++ digits.dropWhile (· ≠ 'e')

/-- A real number in the manner of one of the letters `e`, `f` and `g`. -/
def showReal (style : PlaceStyle) (letter : Char) (number : Binary64) : List Char :=
  let precision := style.precision.getD 6
  let value := number.toRat
  let numerator := value.num.natAbs
  let body :=
    if number.isNaN then "nan".toList
    else if number.isInfinite then "inf".toList
    else if letter = 'f' ∨ letter = 'F' then
      fixedDigits numerator value.den precision style.alternate
    else if letter = 'e' ∨ letter = 'E' then
      exponentDigits numerator value.den precision style.alternate
    else generalDigits numerator value.den precision style.alternate
  let cased := if letter.isUpper then body.map Char.toUpper else body
  style.padNumber (style.sign (number.negative && !number.isNaN)) cased

/-- The integer that a place for integers shows; `%d` and its relatives cut off the
fraction of a real number. -/
def placeInteger (letter : Char) : Datum → Except TemplateError Int
  | .integer value => .ok value
  | .boolean value => .ok (if value then 1 else 0)
  | .real value =>
    if letter = 'o' ∨ letter = 'x' ∨ letter = 'X' then .error (.notInteger letter "float")
    else if value.isNaN then .error .notANumberInteger
    else if value.isInfinite then .error .infiniteInteger
    else .ok (Int.tdiv value.toRat.num value.toRat.den)
  | other =>
    if letter = 'o' ∨ letter = 'x' ∨ letter = 'X' then
      .error (.notInteger letter other.typeName)
    else .error (.notReal letter other.typeName)

/-- The real that a place for reals shows. -/
def placeReal : Datum → Except TemplateError Binary64
  | .real value => .ok value
  | .integer value =>
    let nearest := Binary64.ofRatio (value < 0) value.natAbs 1
    if nearest.isInfinite then .error .integerBeyondReals else .ok nearest
  | .boolean value => .ok (.ofRatio false (if value then 1 else 0) 1)
  | other => .error (.notNumber other.typeName)

/-- The text of a place for one character. -/
def placeCharacter : Datum → Except TemplateError Text
  | .integer value =>
    if 0 ≤ value ∧ value < 0x110000 then .ok ⟨[.ofCode value.toNat]⟩
    else .error .characterRange
  | .boolean value => .ok ⟨[.ofCode (if value then 1 else 0)]⟩
  | .text value => if value.length = 1 then .ok value else .error .notCharacter
  | _ => .error .notCharacter

/-- The literal of a datum with every character outside ASCII escaped. -/
def asciiLiteral (datum : Datum) : Text :=
  ofChars (datum.literal.toList.flatMap fun char =>
    if char.toNat < 128 then [char] else codeEscape char.toNat)

/-- The symbols of one place, filled with a datum. -/
def fillPlace (style : PlaceStyle) (letter : Char) (position : Nat) (datum : Datum) :
    Except TemplateError (List Symbol) :=
  let number (shown : List Char) : List Symbol := (ofChars shown).symbols
  let shown (text : Text) : Except TemplateError (List Symbol) :=
    if datum.isWritable then .ok (style.pad (style.cut text)) else .error .unwritable
  match letter with
  | 's' => shown datum.display
  | 'r' => shown datum.literal
  | 'a' => shown (asciiLiteral datum)
  | 'd' | 'i' | 'u' => do
    let value ← placeInteger letter datum
    if Datum.isWritableInteger value then .ok (number (showInteger style 'd' value))
    else .error .unwritable
  | 'o' | 'x' | 'X' => do
    .ok (number (showInteger style letter (← placeInteger letter datum)))
  | 'c' => do .ok (style.pad (← placeCharacter datum))
  | 'e' | 'E' | 'f' | 'F' | 'g' | 'G' => do
    .ok (number (showReal style letter (← placeReal datum)))
  | _ => .error (.unknownConversion letter position)

/-- A place after its mark: its symbols, the arguments left and the characters left. A second
mark right after the first one is a percent sign. -/
def readPlace (length : Nat) (arguments : List Datum) (text : List Char) :
    Except TemplateError (List Symbol × List Datum × List Char) :=
  match text with
  | '%' :: rest => .ok ([.char '%'], arguments, rest)
  | '(' :: _ => .error .namedPlace
  | _ => do
    let (flagged, afterFlags) := readFlags .plain text
    let (width, afterWidthArguments, afterWidth) ← readNumber .width arguments afterFlags
    let aligned := { flagged with
      leftAligned := flagged.leftAligned || width < 0, width := width.natAbs }
    let (style, remaining, afterPrecision) ← match afterWidth with
      | '.' :: digits => do
        let (precision, others, rest) ← readNumber .precision afterWidthArguments digits
        .ok ({ aligned with precision := some precision.toNat }, others, rest)
      | rest => .ok (aligned, afterWidthArguments, rest)
    let afterSize := match afterPrecision with
      | 'h' :: rest | 'l' :: rest | 'L' :: rest => rest
      | rest => rest
    match afterSize with
    | [] => .error .incomplete
    | letter :: rest =>
      match remaining with
      | [] => .error .tooFewArguments
      | datum :: others => do
        .ok (← fillPlace style letter (length - rest.length - 1) datum, others, rest)

/-- Fills a template; `fuel` bounds the number of characters and places. -/
def fillFrom (fuel length : Nat) (arguments : List Datum) (text : List Char) :
    Except TemplateError (List Symbol) :=
  match fuel, text with
  | 0, _ => .ok []
  | _, [] => if arguments.isEmpty then .ok [] else .error .tooManyArguments
  | fuel + 1, '%' :: rest => do
    let (place, others, after) ← readPlace length arguments rest
    .ok (place ++ (← fillFrom fuel length others after))
  | fuel + 1, char :: rest => do .ok (.char char :: (← fillFrom fuel length arguments rest))

/-- The text of a template with its places filled in order; every argument has to be
used. A template without arguments is plain text. -/
def fillTemplate (template : String) (arguments : List Datum) :
    Except TemplateError Text :=
  if arguments.isEmpty then .ok template
  else do
    let length := template.toList.length
    .ok ⟨← fillFrom (length + 1) length arguments template.toList⟩

/-- A place for running text without anything between mark and letter takes what a datum
displays. -/
theorem readPlace_text {datum : Datum} (writable : datum.isWritable = true) (length : Nat)
    (others : List Datum) (rest : List Char) :
    readPlace length (datum :: others) ('s' :: rest) =
      .ok (datum.display.symbols, others, rest) := by
  have filled (position : Nat) : fillPlace .plain 's' position datum =
      .ok datum.display.symbols := by
    simp [fillPlace, writable, PlaceStyle.pad, PlaceStyle.cut, PlaceStyle.plain]
  change (do .ok (← fillPlace .plain 's' (length - rest.length - 1) datum, others, rest)) = _
  rw [filled]
  rfl

/-- Characters without a mark stand in front of what is filled in after them. -/
theorem fillFrom_append {arguments : List Datum} {after : List Char} {filled : List Symbol}
    {fuel length : Nat} (done : fillFrom fuel length arguments after = .ok filled)
    (front : List Char) (noMark : '%' ∉ front) :
    fillFrom (front.length + fuel) length arguments (front ++ after) =
      .ok (front.map .char ++ filled) := by
  induction front with
  | nil => simpa using done
  | cons char rest inductionHypothesis =>
    rw [List.mem_cons, not_or] at noMark
    have notMark : char ≠ '%' := Ne.symm noMark.1
    rw [List.length_cons, Nat.add_right_comm, List.cons_append, fillFrom]
    · rw [inductionHypothesis noMark.2]
      rfl
    · exact notMark

/-- A datum is filled in after the words of a template whose only place is one for running
text. -/
theorem fillTemplate_text {datum : Datum} (writable : datum.isWritable = true)
    (words : String) (noMark : '%' ∉ words.toList) :
    fillTemplate (words ++ "%s") [datum] =
      .ok ⟨(ofString words).symbols ++ datum.display.symbols⟩ := by
  have filled (length : Nat) : fillFrom 3 length [datum] ['%', 's'] =
      .ok datum.display.symbols := by
    simp [fillFrom, readPlace_text writable, bind, Except.bind]
  have shown : (words ++ "%s").toList = words.toList ++ ['%', 's'] := by simp
  rw [fillTemplate, shown]
  simp only [List.isEmpty_cons, Bool.false_eq_true, if_false, List.length_append]
  rw [Nat.add_assoc]
  change (do .ok (Text.mk (← fillFrom (words.toList.length + 3) (words.toList.length + 2) [datum]
    (words.toList ++ ['%', 's'])))) = _
  rw [fillFrom_append (filled _) words.toList noMark]
  rfl

end Depot.Text
