import Mathlib.Data.List.DropRight
import Mathlib.Data.List.Infix
import Splice.Settings

/-!
# Stripping

What is taken off a line: its ending, white space, and the comment. Each is taken off once and for
all (`trim_trim`, `before_of_not_infix`), so a line that has been stripped means the same when it is
read again (`Settings.meaning_of_content`). What follows a comment marker leaves no trace, whatever
it is (`before_append`), and nothing else is lost: what is left of a line stands between white space
alone (`exists_around_trim`), or in front of the marker (`exists_eq_before_append`).
-/

namespace Splice.Text

/-! ## One final item -/

section

variable {α : Type} [DecidableEq α] {last : α}

/-- The final item is dropped. -/
@[simp] theorem dropFinal_concat (items : List α) : dropFinal last (items ++ [last]) = items := by
  simp [dropFinal]

/-- Where another item is final, or none, nothing is dropped. -/
theorem dropFinal_of_ne {items : List α} (other : items.getLast? ≠ some last) :
    dropFinal last items = items :=
  if_neg other

theorem dropFinal_isPrefix (items : List α) : dropFinal last items <+: items := by
  unfold dropFinal
  split
  · exact List.dropLast_prefix items
  · exact List.prefix_rfl

/-- Only what is at the end counts. -/
theorem dropFinal_append (first : List α) {rest : List α} (notNil : rest ≠ []) :
    dropFinal last (first ++ rest) = first ++ dropFinal last rest := by
  unfold dropFinal
  rw [List.getLast?_append_of_ne_nil first notNil]
  split
  · exact List.dropLast_append_of_ne_nil notNil
  · rfl

theorem dropFinal_append_cons (first : List α) (item : α) {rest : List α} (notNil : rest ≠ []) :
    dropFinal last (first ++ item :: rest) = first ++ item :: dropFinal last rest := by
  rw [List.append_cons, dropFinal_append _ notNil, ← List.append_cons]

/-- What the final item may not be stays, whatever follows it. -/
theorem dropFinal_append_of_ne {first : List α} (other : first.getLast? ≠ some last)
    (rest : List α) : dropFinal last (first ++ rest) = first ++ dropFinal last rest := by
  cases rest with
  | nil => rw [dropFinal_of_ne (by simpa using other)]; simp [dropFinal]
  | cons item more => exact dropFinal_append first (List.cons_ne_nil _ _)

end

/-! ## White space -/

/-- A text that starts with no white space has none to drop there. -/
theorem trimStart_cons {c : Char} (solid : isBlank c = false) (rest : Text) :
    trimStart (c :: rest) = c :: rest :=
  List.dropWhile_cons_of_neg (by simp [solid])

/-- Without white space in front, a text starts with none. -/
theorem isBlank_eq_false_of_trimStart {text rest : Text} {c : Char}
    (trimmed : trimStart text = c :: rest) : isBlank c = false := by
  have solid := List.head?_dropWhile_not isBlank text
  rw [show text.dropWhile isBlank = c :: rest from trimmed] at solid
  exact solid

theorem trimEnd_isPrefix (text : Text) : trimEnd text <+: text :=
  List.rdropWhile_prefix isBlank text

/-- Trimming takes from both ends alone. -/
theorem trim_infix (text : Text) : text.trim <:+: text :=
  (trimEnd_isPrefix _).isInfix.trans (List.dropWhile_suffix isBlank).isInfix

/-- Nothing trimmed starts with white space. -/
theorem isBlank_eq_false_of_trim {text rest : Text} {c : Char} (trimmed : text.trim = c :: rest) :
    isBlank c = false := by
  obtain ⟨more, split⟩ := trimEnd_isPrefix (trimStart text)
  rw [show trimEnd (trimStart text) = c :: rest from trimmed] at split
  exact isBlank_eq_false_of_trimStart split.symm

/-- Trimming twice is trimming once. -/
theorem trim_trim (text : Text) : text.trim.trim = text.trim := by
  have start : trimStart text.trim = text.trim := by
    cases trimmed : text.trim with
    | nil => rfl
    | cons c rest => exact trimStart_cons (isBlank_eq_false_of_trim trimmed) rest
  calc
    text.trim.trim = trimEnd text.trim := congrArg trimEnd start
    _ = text.trim := List.rdropWhile_idempotent isBlank (trimStart text)

/-- Nothing is trimmed between two characters that are no white space. -/
theorem trim_cons_concat {c last : Char} (solid : isBlank c = false) (solid' : isBlank last = false)
    (middle : Text) : trim (c :: (middle ++ [last])) = c :: (middle ++ [last]) := by
  rw [trim, trimStart_cons solid, ← List.cons_append]
  exact List.rdropWhile_concat_neg isBlank (c :: middle) last (by simp [solid'])

/-! ## White space at either end -/

section

variable {text rest : Text} {c : Char}

/-- A text starts with white space. -/
def StartsBlank (text : Text) : Prop :=
  ∃ c, text.head? = some c ∧ isBlank c = true

/-- A text ends in white space. -/
def EndsBlank (text : Text) : Prop :=
  ∃ c, text.getLast? = some c ∧ isBlank c = true

@[simp] theorem startsBlank_cons : StartsBlank (c :: rest) ↔ isBlank c = true := by
  simp [StartsBlank]

@[simp] theorem endsBlank_concat : EndsBlank (text ++ [c]) ↔ isBlank c = true := by
  simp [EndsBlank]

/-- Only what is at the end counts. -/
theorem endsBlank_append (first : Text) (notNil : rest ≠ []) :
    EndsBlank (first ++ rest) ↔ EndsBlank rest := by
  rw [EndsBlank, EndsBlank, List.getLast?_append_of_ne_nil first notNil]

/-- Nothing is trimmed where a text ends in no white space, and something is where it does. -/
theorem trimEnd_eq_self_iff : trimEnd text = text ↔ ¬ EndsBlank text := by
  constructor
  · rintro whole ⟨c, isLast, blank⟩
    obtain ⟨notNil, rfl⟩ := List.mem_getLast?_eq_getLast isLast
    exact List.rdropWhile_eq_self_iff.1 whole notNil blank
  · intro solid
    refine List.rdropWhile_eq_self_iff.2 fun notNil blank => solid ⟨_, ?_, blank⟩
    exact List.getLast?_eq_getLast_of_ne_nil notNil

/-- White space is trimmed up to what is none, and no further. -/
theorem trimEnd_append (first : Text) (isIn : c ∈ rest) (solid : isBlank c = false) :
    trimEnd (first ++ rest) = first ++ trimEnd rest := by
  have left : rest.reverse.dropWhile isBlank ≠ [] := by
    rw [Ne, List.dropWhile_eq_nil_iff]
    intro blank
    rw [blank c (List.mem_reverse.2 isIn)] at solid
    cases solid
  simp [trimEnd, List.dropWhile_append, left]

theorem trimEnd_concat (blank : isBlank c = true) : trimEnd (text ++ [c]) = trimEnd text :=
  List.rdropWhile_concat_pos isBlank text c blank

/-- Nothing but white space is trimmed. -/
theorem exists_around_trim (text : Text) :
    ∃ front back : Text, text = front ++ text.trim ++ back ∧
      (∀ c ∈ front, isBlank c = true) ∧ ∀ c ∈ back, isBlank c = true := by
  let back : Text := (trimStart text).rtakeWhile isBlank
  have front : text.takeWhile isBlank ++ trimStart text = text := List.takeWhile_append_dropWhile
  have parts : text.trim ++ back = trimStart text :=
    List.rdropWhile_append_rtakeWhile
  refine ⟨text.takeWhile isBlank, back, ?_, ?_, ?_⟩
  · rw [List.append_assoc, parts, front]
  · exact fun c isIn => List.mem_takeWhile_imp isIn
  · exact fun c isIn => List.mem_rtakeWhile_imp isIn

/-- Nothing trimmed starts with white space, -/
theorem not_startsBlank_trim (text : Text) : ¬ StartsBlank text.trim := by
  rintro ⟨c, isFirst, blank⟩
  obtain ⟨rest, trimmed⟩ : ∃ rest, text.trim = c :: rest := ⟨_, List.eq_cons_of_mem_head? isFirst⟩
  rw [isBlank_eq_false_of_trim trimmed] at blank
  cases blank

/-- or ends in it. -/
theorem not_endsBlank_trim (text : Text) : ¬ EndsBlank text.trim :=
  trimEnd_eq_self_iff.1 (List.rdropWhile_idempotent isBlank (trimStart text))

/-- White space around a text that has none at either end is all that is trimmed. -/
theorem trim_append_append {front back : Text} (blankFront : ∀ c ∈ front, isBlank c = true)
    (blankBack : ∀ c ∈ back, isBlank c = true) (start : ¬ StartsBlank text)
    (final : ¬ EndsBlank text) : trim (front ++ text ++ back) = text := by
  have dropBack : trimEnd (text ++ back) = trimEnd text := by
    have blank : ∀ c ∈ back.reverse, isBlank c = true := by simpa using blankBack
    rw [trimEnd, List.reverse_append, List.dropWhile_append_of_pos blank, trimEnd]
  have dropFront : trimStart (front ++ text ++ back) = trimStart (text ++ back) := by
    rw [trimStart, List.append_assoc, List.dropWhile_append_of_pos blankFront, trimStart]
  rw [trim, dropFront]
  cases text with
  | nil =>
    have allBlank : trimStart back = [] := List.dropWhile_eq_nil_iff.2 blankBack
    rw [List.nil_append, allBlank]
    rfl
  | cons c rest =>
    have solid : isBlank c = false := by simpa using start
    rw [List.cons_append, trimStart_cons solid, ← List.cons_append, dropBack]
    exact trimEnd_eq_self_iff.2 final

end

/-! ## Comments -/

variable {marker : Text}

theorem before_isPrefix (marker text : Text) : before marker text <+: text := by
  induction text with
  | nil => exact List.prefix_rfl
  | cons c rest ih =>
    rw [before]
    split
    · exact List.nil_prefix
    · exact (List.prefix_cons_inj c).2 ih

/-- A text without the marker stands before it. -/
theorem before_of_not_infix {text : Text} (free : ¬ marker <:+: text) :
    before marker text = text := by
  induction text with
  | nil => rfl
  | cons c rest ih =>
    rw [List.infix_cons_iff, not_or] at free
    rw [before, if_neg (by simpa using free.1), ih free.2]

/-- The marker does not occur before its first occurrence. -/
theorem not_infix_before (notNil : marker ≠ []) (text : Text) :
    ¬ marker <:+: before marker text := by
  induction text with
  | nil => simpa [before] using notNil
  | cons c rest ih =>
    rw [before]
    split
    · simpa using notNil
    · next notHere =>
      rw [List.infix_cons_iff, not_or]
      refine ⟨fun here => notHere ?_, ih⟩
      have sooner := (List.prefix_cons_inj c).2 (before_isPrefix marker rest)
      exact List.isPrefixOf_iff_prefix.2 (here.trans sooner)

/-- Where the marker occurs, it follows what comes before it. -/
theorem exists_eq_before_append {text : Text} (occurs : marker <:+: text) :
    ∃ rest, text = before marker text ++ marker ++ rest := by
  induction text with
  | nil => exact ⟨[], by simpa [before] using occurs⟩
  | cons c rest ih =>
    rw [before]
    split
    · next here =>
      obtain ⟨more, divided⟩ := List.isPrefixOf_iff_prefix.1 here
      exact ⟨more, divided.symm⟩
    · next notHere =>
      have later : marker <:+: rest :=
        (List.infix_cons_iff.1 occurs).resolve_left (by simpa using notHere)
      obtain ⟨more, divided⟩ := ih later
      exact ⟨more, congrArg (c :: ·) divided⟩

/-- No occurrence of the marker starts earlier. -/
theorem length_before_le (marker head tail : Text) :
    (before marker (head ++ marker ++ tail)).length ≤ head.length := by
  induction head with
  | nil =>
    cases text : marker ++ tail with
    | nil => simp [text, before]
    | cons c rest =>
      have here : marker.isPrefixOf (c :: rest) = true :=
        List.isPrefixOf_iff_prefix.2 ⟨tail, text⟩
      simp [text, before, here]
  | cons c rest ih =>
    rw [List.cons_append, List.cons_append, before]
    split
    · exact Nat.zero_le _
    · exact Nat.succ_le_succ ih

/-- What comes before the marker does not depend on what follows an occurrence of it. The first
occurrence may be an earlier one, which overlaps the one given; it ends within it all the same. -/
theorem before_append (notNil : marker ≠ []) (head tail : Text) :
    before marker (head ++ marker ++ tail) = before marker (head ++ marker) := by
  induction head with
  | nil =>
    obtain ⟨c, rest, rfl⟩ := List.exists_cons_of_ne_nil notNil
    simp [before]
  | cons c rest ih =>
    have occurs : marker <+: c :: (rest ++ marker ++ tail) ↔ marker <+: c :: (rest ++ marker) := by
      have longer : c :: (rest ++ marker) <+: c :: (rest ++ marker ++ tail) :=
        (List.prefix_cons_inj c).2 (List.prefix_append _ _)
      constructor
      · intro here
        exact List.prefix_of_prefix_length_le here longer (by simp; omega)
      · intro here
        exact here.trans longer
    simp only [List.cons_append, before, List.isPrefixOf_iff_prefix, occurs, ih]

end Splice.Text

/-! ## Lines -/

namespace Splice.Settings

variable {settings : Settings}

/-- A stripped line is a piece of the line. -/
theorem stripComment_infix (settings : Settings) (text : Text) :
    settings.stripComment text <:+: text := by
  have uncommented :
      (if settings.comment = [] then text else Text.before settings.comment text) <:+: text := by
    split
    · exact List.infix_rfl
    · exact (Text.before_isPrefix settings.comment text).isInfix
  cases trims : settings.trimWhitespace <;> simp only [stripComment, trims, ↓reduceIte]
  · exact uncommented
  · exact (Text.trim_infix _).trans uncommented

/-- A stripped line has no comment. -/
theorem not_comment_infix_stripComment (notNil : settings.comment ≠ []) (text : Text) :
    ¬ settings.comment <:+: settings.stripComment text := by
  have free := Text.not_infix_before notNil text
  unfold stripComment
  rw [if_neg notNil]
  cases settings.trimWhitespace with
  | false => exact free
  | true => exact fun occurs => free (occurs.trans (Text.trim_infix _))

/-- Stripping a line twice is stripping it once. -/
theorem stripComment_stripComment (settings : Settings) (text : Text) :
    settings.stripComment (settings.stripComment text) = settings.stripComment text := by
  have free {rest : Text} (notNil : settings.comment ≠ [])
      (within : rest <:+: Text.before settings.comment text) :
      Text.before settings.comment rest = rest :=
    Text.before_of_not_infix fun occurs =>
      Text.not_infix_before notNil text (occurs.trans within)
  unfold stripComment
  by_cases none : settings.comment = [] <;> cases settings.trimWhitespace <;>
    simp only [none, ↓reduceIte, Bool.false_eq_true]
  · exact Text.trim_trim text
  · exact free none List.infix_rfl
  · rw [free none (Text.trim_infix _), Text.trim_trim]

/-- A line that is delivered is delivered as it is when it is read again. -/
theorem meaning_of_content {text line : Text} (means : settings.meaning text = .content line) :
    settings.meaning line = .content line := by
  obtain ⟨rfl, unmarked, kept⟩ := meaning_eq_content_iff.1 means
  rw [meaning_eq_content_iff, stripComment_stripComment]
  exact ⟨rfl, unmarked, kept⟩

/-- What follows a comment marker leaves no trace. -/
theorem stripComment_append (notNil : settings.comment ≠ []) (head tail : Text) :
    settings.stripComment (head ++ settings.comment ++ tail) =
      settings.stripComment (head ++ settings.comment) := by
  simp only [stripComment, notNil, ↓reduceIte, Text.before_append notNil]

/-- So it means nothing. -/
theorem meaning_append (notNil : settings.comment ≠ []) (head tail : Text) :
    settings.meaning (head ++ settings.comment ++ tail) =
      settings.meaning (head ++ settings.comment) := by
  simp only [meaning, stripComment_append notNil]

end Splice.Settings
