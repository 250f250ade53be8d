import Splice.Proofs.Directives
import Splice.Proofs.Text.Strip

/-!
# Stripped lines

What is left of a line when it is stripped, and that nothing is left to strip (`stripped_exactly`).
A line is cut where the comment marker starts for the first time, and then trimmed if white space is
to be dropped; both are said without the functions that do it (`Text.Uncommented`, `Text.Trimmed`),
and in full, so that there is no other line to be left.

The marker may be anything: it may overlap itself, or hold white space that would be trimmed as
well. Nothing is assumed of the line either.
-/

namespace Splice

namespace Text

variable {marker text kept : Text}

/-- What a comment marker leaves of a text. -/
inductive Uncommented (marker text : Text) : Text → Prop where
  /-- All of it, if the marker is empty or does not occur. -/
  | whole (absent : marker = [] ∨ ¬ marker <:+: text) : Uncommented marker text text
  /-- What comes before the marker, where no occurrence of the marker starts earlier. -/
  | cut {kept rest : Text} (notNil : marker ≠ []) (divided : text = kept ++ marker ++ rest)
      (first : ∀ head tail, text = head ++ marker ++ tail → kept.length ≤ head.length) :
      Uncommented marker text kept

/-- A text is cut in one way only: where the marker occurs first. -/
theorem uncommented_iff :
    Uncommented marker text kept ↔ (if marker = [] then text else before marker text) = kept := by
  constructor
  · intro uncommented
    cases uncommented with
    | whole absent =>
      split
      · rfl
      · next notNil => exact before_of_not_infix (absent.resolve_left notNil)
    | @cut _ rest notNil divided first =>
      rw [if_neg notNil]
      have occurs : marker <:+: text := ⟨kept, rest, divided.symm⟩
      obtain ⟨more, divided'⟩ := exists_eq_before_append occurs
      have later : (before marker text).length ≤ kept.length := by
        rw [divided]
        exact length_before_le marker kept rest
      -- Both are prefixes of the text, and neither is longer than the other.
      have isPrefix : kept <+: text := ⟨marker ++ rest, by rw [divided, List.append_assoc]⟩
      have within := List.prefix_of_prefix_length_le (before_isPrefix marker text) isPrefix later
      exact within.eq_of_length (Nat.le_antisymm later (first _ _ divided'))
  · rintro rfl
    by_cases none : marker = []
    · rw [if_pos none]
      exact .whole (.inl none)
    · rw [if_neg none]
      by_cases occurs : marker <:+: text
      · obtain ⟨rest, divided⟩ := exists_eq_before_append occurs
        refine .cut none divided ?_
        rintro head tail rfl
        exact length_before_le marker head tail
      · have uncut : before marker text = text := before_of_not_infix occurs
        rw [uncut]
        exact .whole (.inr occurs)

/-- What is left of a text without the white space at both ends. -/
structure Trimmed (text kept : Text) : Prop where
  /-- Nothing but white space is gone. -/
  around : ∃ front back : Text, text = front ++ kept ++ back ∧
    (∀ c ∈ front, isBlank c = true) ∧ ∀ c ∈ back, isBlank c = true
  /-- There is none in front, -/
  start : ¬ StartsBlank kept
  /-- nor at the end. -/
  final : ¬ EndsBlank kept

/-- A text is trimmed in one way only. -/
theorem trimmed_iff : Trimmed text kept ↔ text.trim = kept := by
  constructor
  · rintro ⟨⟨front, back, rfl, blankFront, blankBack⟩, start, final⟩
    exact trim_append_append blankFront blankBack start final
  · rintro rfl
    exact ⟨exists_around_trim text, not_startsBlank_trim text, not_endsBlank_trim text⟩

end Text

namespace Settings

variable {settings : Settings} {text line : Text}

/-- What is left of a line: what the comment marker leaves of it, trimmed if white space is to be
dropped. -/
def Leaves (settings : Settings) (text line : Text) : Prop :=
  ∃ bare, Text.Uncommented settings.comment text bare ∧
    if settings.trimWhitespace then Text.Trimmed bare line else bare = line

theorem leaves_iff : settings.Leaves text line ↔ settings.stripComment text = line := by
  unfold Leaves stripComment
  simp only [Text.uncommented_iff, exists_eq_left']
  cases settings.trimWhitespace with
  | false => exact Iff.rfl
  | true => exact Text.trimmed_iff

/-- The file that a directive names is spelled without white space at either end. -/
theorem trimmed_of_target? {name : Text} (names : settings.target? text = some name) :
    ¬ name.StartsBlank ∧ ¬ name.EndsBlank := by
  obtain ⟨-, rest, -, rfl⟩ := target?_eq_some_iff.1 names
  exact ⟨Text.not_startsBlank_trim rest, Text.not_endsBlank_trim rest⟩

/-- How a line is stripped. -/
structure Strips (settings : Settings) (text : Text) : Prop where
  /-- What is left of it is what the marker and white space leave, and nothing else. -/
  left_iff : ∀ line, settings.stripComment text = line ↔ settings.Leaves text line
  /-- There is no comment in it any more. -/
  uncommented : settings.comment ≠ [] → ¬ settings.comment <:+: settings.stripComment text
  /-- There is nothing more to strip. -/
  stable : settings.stripComment (settings.stripComment text) = settings.stripComment text
  /-- So it is a directive for the same file as before, if it is one, -/
  target?_eq : settings.target? (settings.stripComment (settings.stripComment text)) =
    settings.target? (settings.stripComment text)
  /-- and altogether means what the line means. -/
  meaning_eq : settings.meaning (settings.stripComment text) = settings.meaning text
  /-- A directive, stripped or not, names a file without white space at either end. -/
  target?_trimmed : ∀ name, settings.target? text = some name →
    ¬ name.StartsBlank ∧ ¬ name.EndsBlank

/-- A line is stripped of its comment and of white space, exactly and once and for all. -/
theorem stripped_exactly (settings : Settings) (text : Text) : settings.Strips text where
  left_iff _ := leaves_iff.symm
  uncommented notNil := not_comment_infix_stripComment notNil text
  stable := settings.stripComment_stripComment text
  target?_eq := by rw [stripComment_stripComment]
  meaning_eq := by simp only [meaning, stripComment_stripComment]
  target?_trimmed _ := trimmed_of_target?

/-- Of two occurrences that overlap, the first one cuts. -/
example :
    stripComment { comment := "  ".toList, trimWhitespace := false } "a   b".toList = ['a'] := by
  decide

end Settings

end Splice
