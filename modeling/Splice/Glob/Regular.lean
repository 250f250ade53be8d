/-!
# Regular expressions over bytes

The language that a glob pattern stands for, and a matcher that reads a text once. After each byte
the matcher holds the expressions that the rest of the text may match; all of them are tails of the
pattern, so there are never more than the pattern is long.
-/

namespace Splice

/-- A set of bytes, as ranges of their values or as all that lie outside of them. -/
structure ByteSet where
  /-- Whether the set is what lies outside of the ranges. -/
  negated : Bool
  /-- The ranges, first and last. -/
  ranges : List (Nat × Nat)
  deriving DecidableEq, Repr

namespace ByteSet

/-- Every byte. -/
def all : ByteSet := ⟨true, []⟩

/-- Every byte but one. -/
def allBut (byte : UInt8) : ByteSet := ⟨true, [(byte.toNat, byte.toNat)]⟩

/-- One byte. -/
def only (byte : UInt8) : ByteSet := ⟨false, [(byte.toNat, byte.toNat)]⟩

/-- Whether a byte is in a set. -/
def has (set : ByteSet) (byte : UInt8) : Bool :=
  set.negated != set.ranges.any fun (first, last) => first ≤ byte.toNat && byte.toNat ≤ last

end ByteSet

/-- A regular expression. -/
inductive Regular where
  /-- The empty text. -/
  | empty
  /-- One byte of a set. -/
  | inSet (set : ByteSet)
  /-- A text of the one followed by a text of the other. -/
  | both (first second : Regular)
  /-- A text of one of the two. -/
  | either (first second : Regular)
  /-- Any number of texts of the inner expression. -/
  | many (inner : Regular)
  deriving DecidableEq, Repr

namespace Regular

/-- One expression followed by another; nothing is written for the empty text. -/
def followedBy : Regular → Regular → Regular
  | .empty, second => second
  | first, .empty => first
  | first, second => .both first second

/-- Expressions one after the other. -/
def sequence (parts : List Regular) : Regular :=
  parts.foldr followedBy .empty

/-- The text of the given bytes. -/
def literal (bytes : List UInt8) : Regular :=
  sequence (bytes.map fun byte => .inSet (.only byte))

/-- Whether the empty text matches. -/
def nullable : Regular → Bool
  | .empty => true
  | .inSet _ => false
  | .both first second => first.nullable && second.nullable
  | .either first second => first.nullable || second.nullable
  | .many _ => true

/-- What may follow once a byte has been read. -/
def after (byte : UInt8) : Regular → List Regular
  | .empty => []
  | .inSet set => if set.has byte then [.empty] else []
  | .both first second =>
    (first.after byte).map (followedBy · second)
      ++ if first.nullable then second.after byte else []
  | .either first second => first.after byte ++ second.after byte
  | .many inner => (inner.after byte).map (followedBy · (.many inner))

/-- Whether bytes match one of several expressions. -/
def matchesAny : List Regular → List UInt8 → Bool
  | expressions, [] => expressions.any nullable
  | expressions, byte :: rest => matchesAny (expressions.flatMap (after byte)).eraseDups rest

/-- Whether all of the bytes match. -/
def accepts (expression : Regular) (bytes : List UInt8) : Bool :=
  matchesAny [expression] bytes

end Regular

end Splice
