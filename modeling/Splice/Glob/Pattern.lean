import Splice.Glob.Regular
import Splice.Text.Utf8

/-!
# Glob patterns

The tokens of a glob pattern and the paths that they match. Matching is by bytes, as the names of
files are bytes: a question mark stands for one byte, and a class for one byte of those that its
members are written with. Where a single star, a question mark and a class may cross a slash is a
choice of the caller.
-/

namespace Splice.Glob

/-- A piece of a pattern. -/
inductive Token where
  /-- A character that stands for itself. -/
  | literal (c : Char)
  /-- A question mark: one byte. -/
  | any
  /-- A star: any bytes. -/
  | star
  /-- Two stars at the start: any directories above, or none. -/
  | anyAbove
  /-- Two stars at the end: anything below. -/
  | anyBelow
  /-- Two stars between slashes: any directories between, or none. -/
  | anyBetween
  /-- A class in brackets, as ranges of characters or what lies outside of them. -/
  | oneOf (negated : Bool) (ranges : List (Char × Char))
  /-- Alternatives in braces. -/
  | alternatives (branches : List (List Token))
  deriving Repr

/-- The slash between the components of a path. -/
def slash : UInt8 := 47

/-- The ranges of bytes for a range of characters: from the last byte of its start to the first
byte of its end, and all their other bytes alone. -/
def byteRanges (range : Char × Char) : List (Nat × Nat) :=
  let alone (bytes : List UInt8) := bytes.map fun byte => (byte.toNat, byte.toNat)
  let first := Utf8.encodeChar range.1
  let last := Utf8.encodeChar range.2
  if range.1 = range.2 then alone first
  else
    alone first.dropLast
      ++ [((first.getLast?.getD 0).toNat, (last.head?.getD 0).toNat)]
      ++ alone last.tail

mutual

/-- The language of a token, when `anything` is what a wildcard stands for. -/
def Token.regular (anything : ByteSet) : Token → Regular
  | .literal c => .literal (Utf8.encodeChar c)
  | .any => .inSet anything
  | .star => .many (.inSet anything)
  | .anyAbove =>
    .either (.either (.inSet (.only slash)) .empty)
      (.both (.many (.inSet .all)) (.inSet (.only slash)))
  | .anyBelow => .both (.inSet (.only slash)) (.many (.inSet .all))
  | .anyBetween =>
    .either (.inSet (.only slash))
      (.both (.inSet (.only slash)) (.both (.many (.inSet .all)) (.inSet (.only slash))))
  | .oneOf negated ranges => .inSet ⟨negated, ranges.flatMap byteRanges⟩
  | .alternatives branches =>
    match branchesRegular anything branches with
    | [] => .empty
    | first :: rest => rest.foldl .either first

/-- The language of tokens one after the other. -/
def tokensRegular (anything : ByteSet) : List Token → Regular
  | [] => .empty
  | token :: rest => (token.regular anything).followedBy (tokensRegular anything rest)

/-- The languages of the branches of alternatives, without those that hold no token: an empty
branch is as if it were not there. -/
def branchesRegular (anything : ByteSet) : List (List Token) → List Regular
  | [] => []
  | branch :: rest =>
    let language := tokensRegular anything branch
    if language = .empty then branchesRegular anything rest
    else language :: branchesRegular anything rest

end

/-- A pattern that has been read. -/
structure Pattern where
  /-- The language of the pattern. -/
  language : Regular
  deriving Repr

/-- What a wildcard stands for: any byte, or any byte but a slash. -/
def wildcard (acrossSlashes : Bool) : ByteSet :=
  if acrossSlashes then .all else .allBut slash

/-- The pattern with the given tokens. Two stars alone match everything. -/
def Pattern.ofTokens (acrossSlashes : Bool) (tokens : List Token) : Pattern :=
  match tokens with
  | [.anyAbove] => ⟨.many (.inSet .all)⟩
  | tokens => ⟨tokensRegular (wildcard acrossSlashes) tokens⟩

/-- Whether a path matches a pattern. -/
def Pattern.isMatch (pattern : Pattern) (path : Text) : Bool :=
  pattern.language.accepts (Utf8.encode path)

end Splice.Glob
