import Splice.Glob.Parser
import Splice.Proofs.Glob.Regular
import Splice.Proofs.Text.Utf8

/-!
# What patterns match

A path matches a pattern if its bytes are a word of the expression for the tokens, one token after
the other. What comes of that for files below a directory: a pattern that ends in a star matches
with a path all that lies below (`sweeps_ofTokens`), and the name of a directory with a slash and
two stars matches what lies below the directory, and nothing else (`isMatch_below_iff`).
-/

namespace Splice.Glob

/-! ## Tokens -/

/-- What a pattern matches is a word of its expression. -/
theorem Pattern.isMatch_iff {pattern : Pattern} {path : Text} :
    pattern.isMatch path = true ↔ Utf8.encode path ∈ pattern.language.words :=
  Regular.accepts_iff

/-- What tokens match is made up of what each of them matches. -/
theorem words_tokensRegular_append (anything : ByteSet) (first rest : List Token) :
    (tokensRegular anything (first ++ rest)).words =
      (tokensRegular anything first).words * (tokensRegular anything rest).words := by
  induction first with
  | nil => exact (one_mul _).symm
  | cons token more ih =>
    rw [List.cons_append, tokensRegular, tokensRegular, Regular.words_followedBy,
      Regular.words_followedBy, ih, mul_assoc]

/-- Tokens with one more match what that one adds. -/
theorem mem_words_concat {anything : ByteSet} {tokens : List Token} {token : Token}
    {word : List UInt8} :
    word ∈ (tokensRegular anything (tokens ++ [token])).words ↔
      ∃ front ∈ (tokensRegular anything tokens).words, ∃ back ∈ (token.regular anything).words,
        front ++ back = word := by
  rw [words_tokensRegular_append, tokensRegular, tokensRegular, Regular.words_followedBy,
    Regular.words_empty, mul_one, Language.mem_mul]

/-- Two stars at the end match a slash and anything after it. -/
theorem mem_words_anyBelow {anything : ByteSet} {word : List UInt8} :
    word ∈ (Token.regular anything .anyBelow).words ↔ ∃ rest, word = slash :: rest := by
  rw [Token.regular, Regular.words_both, Language.mem_mul]
  simp only [Regular.mem_words_only]
  constructor
  · rintro ⟨_, rfl, rest, _, rfl⟩
    exact ⟨rest, rfl⟩
  · rintro ⟨rest, rfl⟩
    exact ⟨[slash], rfl, rest, Regular.mem_words_all rest, rfl⟩

/-- The expression for a pattern is that for its tokens, unless the pattern is two stars. -/
theorem language_ofTokens_concat {acrossSlashes : Bool} {tokens : List Token} {token : Token}
    (other : token ≠ .anyAbove) :
    (Pattern.ofTokens acrossSlashes (tokens ++ [token])).language =
      tokensRegular (wildcard acrossSlashes) (tokens ++ [token]) := by
  unfold Pattern.ofTokens
  split
  · next whole =>
    have last : token = .anyAbove := by
      have ends := congrArg List.getLast? whole
      rw [List.getLast?_concat] at ends
      exact Option.some.inj ends
    exact absurd last other
  · rfl

/-- Literal tokens match the text that they spell. -/
theorem mem_words_literals {anything : ByteSet} {text : Text} {word : List UInt8} :
    word ∈ (tokensRegular anything (text.map .literal)).words ↔ word = Utf8.encode text := by
  induction text generalizing word with
  | nil => exact Language.mem_one word
  | cons c rest ih =>
    rw [List.map_cons, tokensRegular, Regular.words_followedBy, Language.mem_mul, Utf8.encode_cons]
    simp only [Token.regular, Regular.mem_words_literal, ih]
    simp [eq_comm]

/-! ## All that lies below a directory -/

/-- A character that stands for itself outside of braces. -/
def Plain (c : Char) : Prop :=
  c ∉ ['\\', '?', '*', '[', '\x7b', '\x7d']

instance (c : Char) : Decidable (Plain c) :=
  inferInstanceAs (Decidable (c ∉ _))

/-- It is read as such. -/
theorem readTokens_plain {plainUnclosed : Bool} {reading : Reading} {c : Char} (plain : Plain c)
    (outside : reading.groups = []) (rest : List Char) :
    readTokens plainUnclosed reading (c :: rest) =
      readTokens plainUnclosed ((reading.push (.literal c)).past c) rest := by
  simp only [Plain, List.mem_cons, List.not_mem_nil, or_false, not_or] at plain
  obtain ⟨notEscape, notAny, notStar, notClass, notOpen, notClose⟩ := plain
  by_cases comma : c = ','
  · subst comma
    rw [readTokens, Reading.comma, outside]
  · rw [readTokens] <;> simp_all

namespace Reading

/-- The reading after a text in which every character means itself. -/
def spelled (reading : Reading) (text : Text) : Reading :=
  text.foldl (fun reading c => (reading.push (.literal c)).past c) reading

/-- Every character is a token. -/
theorem branch_spelled (reading : Reading) (text : Text) :
    (reading.spelled text).branch = (text.map .literal).reverse ++ reading.branch := by
  induction text generalizing reading with
  | nil => rfl
  | cons c rest ih =>
    rw [spelled, List.foldl_cons, ← spelled, ih]
    simp [push, past]

@[simp] theorem groups_spelled (reading : Reading) (text : Text) :
    (reading.spelled text).groups = reading.groups := by
  induction text generalizing reading with
  | nil => rfl
  | cons c rest ih => exact ih _

end Reading

/-- A text in which every character stands for itself is read character by character. -/
theorem readTokens_spelled {plainUnclosed : Bool} {reading : Reading} {text : Text}
    (plain : ∀ c ∈ text, Plain c) (outside : reading.groups = []) (rest : List Char) :
    readTokens plainUnclosed reading (text ++ rest) =
      readTokens plainUnclosed (reading.spelled text) rest := by
  induction text generalizing reading with
  | nil => rfl
  | cons c more ih =>
    rw [List.forall_mem_cons] at plain
    rw [List.cons_append, readTokens_plain plain.1 outside]
    exact ih plain.2 outside

/-- A slash and two stars after a text stand for anything below. -/
theorem readTokens_below {plainUnclosed : Bool} {text : Text} (plain : ∀ c ∈ text, Plain c) :
    readTokens plainUnclosed {} (text ++ ['/', '*', '*']) =
      .ok (text.map .literal ++ [.anyBelow]) := by
  let reading : Reading := ((Reading.spelled {} text).push (.literal '/')).past '/'
  have slash : readTokens plainUnclosed {} (text ++ ['/', '*', '*']) =
      readTokens plainUnclosed reading ['*', '*'] := by
    rw [readTokens_spelled plain rfl]
    exact readTokens_plain (by decide) (Reading.groups_spelled _ _) _
  have stars : reading.twoStars [] =
      ({ reading with branch := .anyBelow :: (Reading.spelled {} text).branch
                      previous := some '*' }, false) := rfl
  rw [slash, readTokens, stars]
  dsimp only
  rw [readTokens, Reading.branch_spelled]
  simp [reading, Reading.push, Reading.past]

/-- The name of a directory with a slash and two stars matches what lies below the directory. -/
theorem isMatch_below_iff {directory path : Text} {pattern : Pattern}
    (plain : ∀ c ∈ directory, Plain c)
    (reads : parse (directory ++ ['/', '*', '*']) = .ok pattern) :
    pattern.isMatch path = true ↔ ∃ rest, path = directory ++ '/' :: rest := by
  have tokens : pattern = Pattern.ofTokens true (directory.map .literal ++ [.anyBelow]) := by
    rw [parse, readTokens_below plain] at reads
    exact (Except.ok.inj reads).symm
  rw [Pattern.isMatch_iff, tokens, language_ofTokens_concat (by simp), mem_words_concat]
  simp only [mem_words_literals, mem_words_anyBelow]
  constructor
  · rintro ⟨_, rfl, _, ⟨rest, rfl⟩, split⟩
    have spelled : Utf8.encode path = Utf8.encode (directory ++ ['/']) ++ rest := by
      rw [← split, Utf8.encode_append, List.append_assoc]
      rfl
    have text := Utf8.decode_encode path
    rw [spelled, Utf8.decode_encode_append, List.append_assoc] at text
    exact ⟨_, text.symm⟩
  · rintro ⟨rest, rfl⟩
    refine ⟨_, rfl, slash :: Utf8.encode rest, ⟨_, rfl⟩, ?_⟩
    rw [Utf8.encode_append, Utf8.encode_cons]
    rfl

/-! ## Patterns that match what lies below what they match -/

/-- With a path, the pattern matches all that lies below. -/
def Pattern.Sweeps (pattern : Pattern) : Prop :=
  ∀ path rest, pattern.isMatch path = true → pattern.isMatch (path ++ '/' :: rest) = true

/-- A pattern that ends in a star, or in a slash and two stars, does, if a star stands for slashes,
too. -/
theorem sweeps_ofTokens {tokens : List Token} {token : Token}
    (trailing : token = .star ∨ token = .anyBelow) :
    (Pattern.ofTokens true (tokens ++ [token])).Sweeps := by
  have other : token ≠ .anyAbove := by
    rintro rfl
    simp at trailing
  -- What the last token matches, it also matches with more after it.
  have longer {back : List UInt8} (more : List UInt8)
      (isBack : back ∈ (token.regular (wildcard true)).words) :
      back ++ more ∈ (token.regular (wildcard true)).words := by
    obtain rfl | rfl := trailing
    · exact Regular.mem_words_all _
    · obtain ⟨rest, rfl⟩ := mem_words_anyBelow.1 isBack
      exact mem_words_anyBelow.2 ⟨rest ++ more, rfl⟩
  intro path rest isMatch
  rw [Pattern.isMatch_iff, language_ofTokens_concat other, mem_words_concat] at isMatch ⊢
  obtain ⟨front, isFront, back, isBack, split⟩ := isMatch
  refine ⟨front, isFront, back ++ Utf8.encode ('/' :: rest), longer _ isBack, ?_⟩
  rw [← List.append_assoc, split, Utf8.encode_append]

end Splice.Glob
