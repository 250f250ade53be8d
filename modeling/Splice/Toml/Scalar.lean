import Splice.Text

/-!
# Plain TOML values

Values that are written without quotes or brackets: booleans, integers, floats, and moments of
time. Only the value of a boolean matters to this library; of the others it matters that they are
well formed and within their limits.
-/

namespace Splice.Toml

/-- A value written as a single word. -/
inductive Scalar where
  /-- True or false. -/
  | boolean (value : Bool)
  /-- A number. -/
  | number
  /-- A date, a time, or both. -/
  | moment
  deriving DecidableEq, Repr

/-- Whether a text is digits, with single underscores between them. -/
def isDigits (isDigit : Char → Bool) : Text → Bool
  | [] => false
  | [c] => isDigit c
  | c :: '_' :: rest => isDigit c && isDigits isDigit rest
  | c :: rest => isDigit c && isDigits isDigit rest

/-- The number that digits stand for in a base; underscores do not count. -/
def digitsValue (base : Nat) (digits : Text) : Nat :=
  (digits.filter (· ≠ '_')).foldl (fun value c =>
    let digit := if c.isDigit then c.toNat - '0'.toNat else c.toLower.toNat - 'a'.toNat + 10
    value * base + digit) 0

/-- Whether a character is a hexadecimal digit. -/
def isHexDigit (c : Char) : Bool :=
  c.isDigit || ('a' ≤ c && c ≤ 'f') || ('A' ≤ c && c ≤ 'F')

/-- Whether a character is an octal digit. -/
def isOctalDigit (c : Char) : Bool :=
  '0' ≤ c && c ≤ '7'

/-- Whether a character is a binary digit. -/
def isBinaryDigit (c : Char) : Bool :=
  c == '0' || c == '1'

/-- A text without a sign in front, and whether the sign is a minus. -/
def dropSign : Text → Bool × Text
  | '-' :: rest => (true, rest)
  | '+' :: rest => (false, rest)
  | rest => (false, rest)

/-- Whether digits are a decimal integer, which does not start with a zero but for zero itself. -/
def isDecimal (digits : Text) : Bool :=
  isDigits Char.isDigit digits && (digits.head? != some '0' || digits.length == 1)

/-- How many integers 128 bits can hold. -/
def integerCount : Nat := 0x100000000000000000000000000000000

/-- Whether a word is an integer, and one of 128 bits with or without a sign. -/
def isInteger (word : Text) : Bool :=
  match word with
  | '0' :: 'x' :: digits => isDigits isHexDigit digits && digitsValue 16 digits < integerCount
  | '0' :: 'o' :: digits => isDigits isOctalDigit digits && digitsValue 8 digits < integerCount
  | '0' :: 'b' :: digits => isDigits isBinaryDigit digits && digitsValue 2 digits < integerCount
  | word =>
    let (negative, digits) := dropSign word
    isDecimal digits
      && if negative then digitsValue 10 digits * 2 ≤ integerCount
        else digitsValue 10 digits < integerCount

/-- The least number that is beyond the floats of 64 bits. -/
def floatLimit : Nat :=
  Nat.pow 2 1024 - Nat.pow 2 970

/-- Whether `mantissa` times ten to the power of `exponent` is a float of 64 bits. Exponents that
alone decide are not computed with. -/
def isFloatSized (mantissa : Nat) (exponent : Int) : Bool :=
  let digits : Int := (Text.decimal mantissa).length
  if mantissa = 0 ∨ digits + exponent < 300 then true
  else if digits + exponent > 320 then false
  else if exponent ≥ 0 then mantissa * Nat.pow 10 exponent.toNat < floatLimit
  else mantissa < floatLimit * Nat.pow 10 (-exponent).toNat

/-- Whether a word is a float. -/
def isFloat (word : Text) : Bool :=
  let (_, word) := dropSign word
  if word = "inf".toList ∨ word = "nan".toList then true
  else
    let isE (c : Char) : Bool := c == 'e' || c == 'E'
    let mantissa := word.takeWhile (!isE ·)
    let whole := mantissa.takeWhile (· ≠ '.')
    let fraction := mantissa.drop whole.length
    let scale := word.drop mantissa.length
    let (negative, scaleDigits) := dropSign scale.tail
    let exponent : Int := digitsValue 10 scaleDigits
    let exponent := if negative then -exponent else exponent
    let places := (fraction.tail.filter (· ≠ '_')).length
    !(fraction.isEmpty && scale.isEmpty) && isDecimal whole
      && (fraction.isEmpty || isDigits Char.isDigit fraction.tail)
      && (scale.isEmpty || isDigits Char.isDigit scaleDigits)
      && isFloatSized (digitsValue 10 (whole ++ fraction.tail)) (exponent - places)

/-- Reads a number of exactly `count` digits. -/
def readNumber (count : Nat) (text : Text) : Option (Nat × Text) :=
  let digits := text.take count
  if digits.length = count ∧ digits.all Char.isDigit then
    some (digitsValue 10 digits, text.drop count)
  else none

/-- How many days a month has. -/
def daysIn (year month : Nat) : Nat :=
  if month = 2 then
    if year % 4 = 0 ∧ (year % 100 ≠ 0 ∨ year % 400 = 0) then 29 else 28
  else if month = 4 ∨ month = 6 ∨ month = 9 ∨ month = 11 then 30
  else 31

/-- Reads a date. -/
def readDate (text : Text) : Option Text := do
  let (year, text) ← readNumber 4 text
  let text ← ['-'].isPrefixOf? text
  let (month, text) ← readNumber 2 text
  let text ← ['-'].isPrefixOf? text
  let (day, text) ← readNumber 2 text
  if 1 ≤ month ∧ month ≤ 12 ∧ 1 ≤ day ∧ day ≤ daysIn year month then some text else none

/-- Reads a time of day; the seconds may be missing, and may have a fraction. -/
def readTime (text : Text) : Option Text := do
  let (hour, text) ← readNumber 2 text
  let text ← [':'].isPrefixOf? text
  let (minute, text) ← readNumber 2 text
  if 24 ≤ hour ∨ 60 ≤ minute then none
  else
    match text with
    | ':' :: text => do
      let (second, text) ← readNumber 2 text
      if 61 ≤ second then none
      else
        match text with
        | '.' :: fraction =>
          if fraction.head?.any Char.isDigit then some (fraction.dropWhile Char.isDigit) else none
        | text => some text
    | text => some text

/-- Reads the distance of a time from universal time, which may be missing. -/
def readOffset : Text → Option Text
  | 'Z' :: rest => some rest
  | 'z' :: rest => some rest
  | sign :: rest =>
    if sign = '+' ∨ sign = '-' then do
      let (hour, rest) ← readNumber 2 rest
      let rest ← [':'].isPrefixOf? rest
      let (minute, rest) ← readNumber 2 rest
      if hour < 24 ∧ minute < 60 then some rest else none
    else some (sign :: rest)
  | [] => some []

/-- Whether a text is a date, a time, or a date and a time. -/
def isMoment (text : Text) : Bool :=
  match readDate text with
  | some [] => true
  | some (separator :: time) =>
    (separator == 'T' || separator == 't' || separator == ' ')
      && ((readTime time).bind readOffset) == some []
  | none => readTime text == some []

/-- The value that a word stands for. -/
def Scalar.ofWord? (word : Text) : Option Scalar :=
  if word = "true".toList then some (.boolean true)
  else if word = "false".toList then some (.boolean false)
  else if isInteger word || isFloat word then some .number
  else if isMoment word then some .moment
  else none

end Splice.Toml
