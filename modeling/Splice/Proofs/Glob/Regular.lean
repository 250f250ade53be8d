import Mathlib.Computability.Language
import Splice.Glob.Regular

/-!
# The words of a regular expression

The matcher accepts the words of an expression and no others (`accepts_iff`). The words are those
that the shape of the expression says, with no regard to how they are matched.
-/

namespace Splice.Regular

open scoped Computability

/-- The words of an expression. -/
def words : Regular → Language UInt8
  | .empty => 1
  | .inSet set => {word | ∃ byte, word = [byte] ∧ set.has byte = true}
  | .both first second => first.words * second.words
  | .either first second => first.words + second.words
  | .many inner => inner.words∗

variable {expression first second inner : Regular} {byte : UInt8} {rest word : List UInt8}

@[simp] theorem words_empty : empty.words = 1 := rfl

@[simp] theorem mem_words_inSet {set : ByteSet} :
    word ∈ (inSet set).words ↔ ∃ byte, word = [byte] ∧ set.has byte = true := Iff.rfl

@[simp] theorem words_both : (both first second).words = first.words * second.words := rfl

@[simp] theorem mem_words_either :
    word ∈ (either first second).words ↔ word ∈ first.words ∨ word ∈ second.words := Iff.rfl

@[simp] theorem words_many : (many inner).words = inner.words∗ := rfl

@[simp] theorem words_followedBy (first second : Regular) :
    (first.followedBy second).words = first.words * second.words := by
  cases first with
  | empty => exact (one_mul _).symm
  | _ =>
    cases second with
    | empty => exact (mul_one _).symm
    | _ => rfl

/-! ## The first byte of a word -/

/-- The first byte of a word made of two is the first of the one, or that is empty. -/
theorem cons_mem_mul {one other : Language UInt8} :
    byte :: rest ∈ one * other ↔
      (∃ front back, front ++ back = rest ∧ byte :: front ∈ one ∧ back ∈ other) ∨
        [] ∈ one ∧ byte :: rest ∈ other := by
  rw [Language.mem_mul]
  constructor
  · rintro ⟨front, isFirst, back, isSecond, split⟩
    cases front with
    | nil => exact .inr ⟨isFirst, split ▸ isSecond⟩
    | cons head more =>
      obtain ⟨rfl, rfl⟩ := List.cons_eq_cons.1 split
      exact .inl ⟨more, back, rfl, isFirst, isSecond⟩
  · rintro (⟨front, back, rfl, isFirst, isSecond⟩ | ⟨isFirst, isSecond⟩)
    · exact ⟨byte :: front, isFirst, back, isSecond, rfl⟩
    · exact ⟨[], isFirst, byte :: rest, isSecond, rfl⟩

/-- The first byte of a word made of any number is the first of the first that is not empty. -/
theorem cons_mem_kstar {language : Language UInt8} :
    byte :: rest ∈ language∗ ↔
      ∃ front back, front ++ back = rest ∧ byte :: front ∈ language ∧ back ∈ language∗ := by
  constructor
  · rw [Language.mem_kstar_iff_exists_nonempty]
    rintro ⟨pieces, whole, each⟩
    cases pieces with
    | nil => cases whole
    | cons piece more =>
      obtain ⟨isPiece, notNil⟩ := each piece List.mem_cons_self
      obtain ⟨head, front, rfl⟩ := List.exists_cons_of_ne_nil notNil
      obtain ⟨rfl, rfl⟩ := List.cons_eq_cons.1 whole
      exact ⟨front, more.flatten, rfl, isPiece,
        Language.join_mem_kstar fun word isIn => (each word (List.mem_cons_of_mem _ isIn)).1⟩
  · rintro ⟨front, back, rfl, isFirst, isRest⟩
    rw [← Language.one_add_self_mul_kstar_eq_kstar]
    exact .inr (Language.mem_mul.2 ⟨byte :: front, isFirst, back, isRest, rfl⟩)

/-- Whether the empty word is among the words. -/
theorem nil_mem_words : [] ∈ expression.words ↔ expression.nullable = true := by
  induction expression with
  | empty => simp [nullable]
  | inSet set => simp [nullable]
  | both first second one other => simp [nullable, Language.mem_mul, one, other]
  | either first second one other => simp [nullable, one, other]
  | many inner _ => simp [nullable, Language.nil_mem_kstar]

/-- What may follow a byte in the one expression, and then the other, are what may follow it in
words made of both. -/
theorem exists_followedBy_iff
    (follows : ∀ {rest}, byte :: rest ∈ first.words ↔
      ∃ next ∈ first.after byte, rest ∈ next.words) :
    (∃ front back, front ++ back = rest ∧ byte :: front ∈ first.words ∧ back ∈ second.words) ↔
      ∃ next ∈ (first.after byte).map (followedBy · second), rest ∈ next.words := by
  simp only [follows, List.mem_map, exists_exists_and_eq_and, words_followedBy, Language.mem_mul]
  constructor
  · rintro ⟨front, back, split, ⟨next, isNext, isFront⟩, isBack⟩
    exact ⟨next, isNext, front, isFront, back, isBack, split⟩
  · rintro ⟨next, isNext, front, isFront, back, isBack, split⟩
    exact ⟨front, back, split, ⟨next, isNext, isFront⟩, isBack⟩

/-- A word goes on after its first byte with what may follow that byte. -/
theorem cons_mem_words :
    byte :: rest ∈ expression.words ↔ ∃ next ∈ expression.after byte, rest ∈ next.words := by
  induction expression generalizing rest with
  | empty => simp [after]
  | inSet set =>
    by_cases has : set.has byte = true
    · simp [after, has]
    · simp [after, has]
  | both first second one other =>
    rw [words_both, cons_mem_mul, exists_followedBy_iff one, nil_mem_words, other, after]
    by_cases nullable : first.nullable = true
    · simp only [nullable, true_and, ↓reduceIte, List.mem_append, or_and_right, exists_or]
    · simp [nullable]
  | either first second one other =>
    simp only [mem_words_either, one, other, after, List.mem_append, or_and_right, exists_or]
  | many inner ih => rw [words_many, cons_mem_kstar, ← words_many, exists_followedBy_iff ih, after]

/-! ## The matcher -/

/-- Bytes match one of several expressions if they are a word of one. -/
theorem matchesAny_iff {expressions : List Regular} :
    matchesAny expressions word = true ↔ ∃ expression ∈ expressions, word ∈ expression.words := by
  induction word generalizing expressions with
  | nil => simp [matchesAny, nil_mem_words]
  | cons byte rest ih =>
    simp only [matchesAny, ih, List.mem_eraseDups, List.mem_flatMap, cons_mem_words]
    constructor
    · rintro ⟨next, ⟨expression, isIn, follows⟩, isRest⟩
      exact ⟨expression, isIn, next, follows, isRest⟩
    · rintro ⟨expression, isIn, next, follows, isRest⟩
      exact ⟨next, ⟨expression, isIn, follows⟩, isRest⟩

/-- The matcher accepts the words of an expression. -/
theorem accepts_iff : expression.accepts word = true ↔ word ∈ expression.words := by
  simp [accepts, matchesAny_iff]

/-! ## Words of some expressions -/

/-- One byte is the one word of the expression for it. -/
theorem mem_words_only : word ∈ (inSet (.only byte)).words ↔ word = [byte] := by
  have has (other : UInt8) : (ByteSet.only byte).has other = true ↔ other = byte := by
    simp [ByteSet.has, ByteSet.only, UInt8.ext_iff]
    omega
  simp [has]

/-- Given bytes are the one word of the expression for them. -/
theorem mem_words_literal {bytes : List UInt8} : word ∈ (literal bytes).words ↔ word = bytes := by
  induction bytes generalizing word with
  | nil => exact Language.mem_one word
  | cons byte rest ih =>
    have split : literal (byte :: rest) = (inSet (.only byte)).followedBy (literal rest) := rfl
    simp only [split, words_followedBy, Language.mem_mul, mem_words_only, ih]
    simp [eq_comm]

/-- Any bytes are a word of the expression for them. -/
theorem mem_words_all (word : List UInt8) : word ∈ (many (.inSet .all)).words := by
  have pieces : (word.map fun byte => [byte]).flatten = word := by
    rw [← List.flatMap_def, List.flatMap_singleton']
  rw [words_many, ← pieces]
  refine Language.join_mem_kstar fun piece isPiece => ?_
  obtain ⟨byte, -, rfl⟩ := List.mem_map.1 isPiece
  exact ⟨byte, rfl, rfl⟩

end Splice.Regular
