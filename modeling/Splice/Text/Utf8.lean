import Splice.Text

/-!
# UTF-8

Characters as bytes and back. Decoding never fails: each maximal part of an ill-formed sequence
becomes one replacement character, so a later well-formed sequence is never swallowed. The decoder
is a machine that reads one byte at a time and remembers at most one unfinished character.
-/

namespace Splice.Utf8

/-- The bytes of one character. -/
def encodeChar (c : Char) : List UInt8 :=
  let code := c.toNat
  if code < 0x80 then
    [UInt8.ofNat code]
  else if code < 0x800 then
    [UInt8.ofNat (0xC0 + code / 0x40), UInt8.ofNat (0x80 + code % 0x40)]
  else if code < 0x10000 then
    [UInt8.ofNat (0xE0 + code / 0x1000), UInt8.ofNat (0x80 + code / 0x40 % 0x40),
      UInt8.ofNat (0x80 + code % 0x40)]
  else
    [UInt8.ofNat (0xF0 + code / 0x40000), UInt8.ofNat (0x80 + code / 0x1000 % 0x40),
      UInt8.ofNat (0x80 + code / 0x40 % 0x40), UInt8.ofNat (0x80 + code % 0x40)]

/-- The bytes of a text. -/
def encode (text : Text) : List UInt8 :=
  text.flatMap encodeChar

/-- What stands in for bytes that are no character. -/
def replacement : Char := '\uFFFD'

/-- A character whose first bytes have been read. -/
structure Unfinished where
  /-- How many bytes follow the next one. -/
  further : Nat
  /-- The least value that the next byte may have. -/
  least : Nat
  /-- The greatest value that the next byte may have. -/
  greatest : Nat
  /-- The bits read so far. -/
  bits : Nat
  deriving DecidableEq, Repr

/-- What a byte means where a character may start. -/
inductive Lead where
  /-- A character of one byte. -/
  | whole (c : Char)
  /-- The first byte of a longer character. -/
  | opens (unfinished : Unfinished)
  /-- No character starts with this byte. -/
  | stray
  deriving DecidableEq, Repr

/-- Reads a byte where a character may start. The bounds on the second byte leave out overlong
forms, surrogates and numbers beyond the last character. -/
def lead (byte : UInt8) : Lead :=
  let value := byte.toNat
  if value < 0x80 then .whole (Char.ofNat value)
  else if value < 0xC2 then .stray
  else if value < 0xE0 then .opens ⟨0, 0x80, 0xBF, value - 0xC0⟩
  else if value = 0xE0 then .opens ⟨1, 0xA0, 0xBF, 0⟩
  else if value = 0xED then .opens ⟨1, 0x80, 0x9F, 0xD⟩
  else if value < 0xF0 then .opens ⟨1, 0x80, 0xBF, value - 0xE0⟩
  else if value = 0xF0 then .opens ⟨2, 0x90, 0xBF, 0⟩
  else if value < 0xF4 then .opens ⟨2, 0x80, 0xBF, value - 0xF0⟩
  else if value = 0xF4 then .opens ⟨2, 0x80, 0x8F, 4⟩
  else .stray

/-- What the next byte of an unfinished character leads to: the character, a longer unfinished
character, or nothing because the byte cannot continue it. -/
def Unfinished.next (unfinished : Unfinished) (byte : UInt8) : Option (Char ⊕ Unfinished) :=
  if unfinished.least ≤ byte.toNat ∧ byte.toNat ≤ unfinished.greatest then
    let bits := unfinished.bits * 0x40 + (byte.toNat - 0x80)
    match unfinished.further with
    | 0 => some (.inl (Char.ofNat bits))
    | further + 1 => some (.inr ⟨further, 0x80, 0xBF, bits⟩)
  else
    none

/-- One byte: the characters that it completes or gives up on, and the character that is
unfinished after it. -/
def step (pending : Option Unfinished) (byte : UInt8) : Text × Option Unfinished :=
  let fresh : Text × Option Unfinished :=
    match lead byte with
    | .whole c => ([c], none)
    | .opens unfinished => ([], some unfinished)
    | .stray => ([replacement], none)
  match pending with
  | none => fresh
  | some unfinished =>
    match unfinished.next byte with
    | some (.inl c) => ([c], none)
    | some (.inr longer) => ([], some longer)
    | none => (replacement :: fresh.1, fresh.2)

/-- Decodes bytes that follow an unfinished character. One that is still unfinished at the end is
replaced. -/
def decodeFrom (pending : Option Unfinished) : List UInt8 → Text
  | [] => if pending.isSome then [replacement] else []
  | byte :: rest =>
    let (done, pending) := step pending byte
    done ++ decodeFrom pending rest

/-- The text that bytes stand for, with replacement characters for what is not well formed. -/
def decode (bytes : List UInt8) : Text :=
  decodeFrom none bytes

/-- The text that bytes stand for, if all of them are well formed: exactly then they are the bytes
of what they decode to. -/
def decode? (bytes : List UInt8) : Option Text :=
  let text := decode bytes
  if encode text = bytes then some text else none

end Splice.Utf8
