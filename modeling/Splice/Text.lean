/-!
# Text

Text is a list of characters, so that every law about it is an induction. This module holds the
operations that the rest of the library shares: white space and trimming, splitting, the part
before a marker, and decimal numbers. Bytes and quoting have modules of their own.
-/

namespace Splice

/-- A piece of text, one character after the other. -/
abbrev Text := List Char

namespace Text

/-- Unicode white space: the property `White_Space`, which is wider than the ASCII blanks. -/
def isBlank (c : Char) : Bool :=
  let code := c.toNat
  (0x09 ≤ code && code ≤ 0x0D) || code == 0x20 || code == 0x85 || code == 0xA0 || code == 0x1680
    || (0x2000 ≤ code && code ≤ 0x200A) || code == 0x2028 || code == 0x2029 || code == 0x202F
    || code == 0x205F || code == 0x3000

/-- The text without the white space it starts with. -/
def trimStart (text : Text) : Text :=
  text.dropWhile isBlank

/-- The text without the white space it ends in. -/
def trimEnd (text : Text) : Text :=
  (text.reverse.dropWhile isBlank).reverse

/-- The text without white space at either end. -/
def trim (text : Text) : Text :=
  trimEnd (trimStart text)

/-- The part of a text before the first occurrence of `marker`, or all of it when there is none.
An empty marker occurs at once. -/
def before (marker : Text) : Text → Text
  | [] => []
  | c :: rest => if marker.isPrefixOf (c :: rest) then [] else c :: before marker rest

/-- The pieces between the occurrences of `separator`; there is always at least one. -/
def split (separator : Char) : Text → List Text
  | [] => [[]]
  | c :: rest =>
    match split separator rest with
    | [] => [[c]]
    | piece :: pieces => if c = separator then [] :: piece :: pieces else (c :: piece) :: pieces

/-- The list without one final occurrence of `last`; the items may be characters or bytes. -/
def dropFinal {α : Type} [DecidableEq α] (last : α) (items : List α) : List α :=
  if items.getLast? = some last then items.dropLast else items

/-- The lines of a text. Each one but the last ends in a newline, before which one carriage
return is dropped; text after the final newline is a line only if there is any, and is kept as it
is. -/
def lines (text : Text) : List Text :=
  let pieces := split '\n' text
  let ended := pieces.dropLast.map (dropFinal '\r')
  match pieces.getLast? with
  | none | some [] => ended
  | some rest => ended ++ [rest]

/-- The pieces one after the other, with `separator` between each two. -/
def join (separator : Text) (pieces : List Text) : Text :=
  (pieces.intersperse separator).flatten

/-- A number in decimal digits. -/
def decimal (number : Nat) : Text :=
  Nat.toDigits 10 number

theorem isDigit_of_mem_decimal {number : Nat} {c : Char} (isIn : c ∈ decimal number) :
    c.isDigit = true :=
  Nat.isDigit_of_mem_toDigits (by decide) (by decide) isIn

/-- A number in decimal digits, filled up with spaces on the left to at least `width`
characters. -/
def decimalPadded (width number : Nat) : Text :=
  let digits := decimal number
  List.replicate (width - digits.length) ' ' ++ digits

/-- Whether the first text comes before the second, character by character. -/
def precedes (left right : Text) : Bool :=
  decide (left < right)

end Text

end Splice
