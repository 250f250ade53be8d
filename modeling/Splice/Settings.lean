import Splice.Provenance

/-!
# Settings

How the lines of a file are read: what introduces a comment and an include directive, whether white
space around a line and blank lines are kept, and what the files are called in messages. From these
follows what each line means.
-/

namespace Splice

/-- How files are read. -/
structure Settings where
  /-- What the files are called in messages. -/
  description : Text := "file".toList
  /-- What introduces a comment; nothing does when it is empty. -/
  comment : Text := "//".toList
  /-- What introduces an include directive; nothing does when it is empty. -/
  includeMarker : Text := "#include".toList
  /-- Whether blank lines are delivered. -/
  keepBlankLines : Bool := false
  /-- Whether white space around a line is dropped. -/
  trimWhitespace : Bool := true
  deriving DecidableEq, Repr

/-- What a line of a file means. -/
inductive Meaning where
  /-- The line is blank and blank lines are dropped. -/
  | dropped
  /-- An include directive that names no file. -/
  | nameless
  /-- An include directive, with the file it names. -/
  | directive (target : Text)
  /-- A line to be delivered. -/
  | content (line : Text)
  deriving DecidableEq, Repr

namespace Settings

/-- A line without its comment, which runs from the first marker to the end, and without the white
space around the rest if that is to be dropped. -/
def stripComment (settings : Settings) (line : Text) : Text :=
  let line := if settings.comment = [] then line else Text.before settings.comment line
  if settings.trimWhitespace then line.trim else line

/-- The file that an include directive names: what follows the marker at the start of the line,
without white space around it. Empty when the directive names none. -/
def target? (settings : Settings) (line : Text) : Option Text :=
  if settings.includeMarker = [] then none
  else (settings.includeMarker.isPrefixOf? line).map Text.trim

/-- What a line means. -/
def meaning (settings : Settings) (text : Text) : Meaning :=
  let line := settings.stripComment text
  if line = [] ∧ settings.keepBlankLines = false then .dropped
  else
    match settings.target? line with
    | some [] => .nameless
    | some target => .directive target
    | none => .content line

/-- An empty line is no directive. -/
@[simp] theorem target?_nil (settings : Settings) : settings.target? [] = none := by
  unfold target?
  cases settings.includeMarker <;> rfl

/-- A line is dropped when nothing is left of it and blank lines are not kept. -/
theorem meaning_eq_dropped_iff {settings : Settings} {text : Text} :
    settings.meaning text = .dropped ↔
      settings.stripComment text = [] ∧ settings.keepBlankLines = false := by
  unfold meaning
  dsimp only
  split
  · next blank => simp [blank]
  · next full =>
    split <;> simpa using full

/-- A line is a directive without a name when nothing follows the marker. -/
theorem meaning_eq_nameless_iff {settings : Settings} {text : Text} :
    settings.meaning text = .nameless ↔
      settings.target? (settings.stripComment text) = some [] := by
  unfold meaning
  dsimp only
  split
  · next blank => simp [blank.1]
  · split <;> simp_all

/-- A line is a directive with a name when something follows the marker. -/
theorem meaning_eq_directive_iff {settings : Settings} {text name : Text} :
    settings.meaning text = .directive name ↔
      settings.target? (settings.stripComment text) = some name ∧ name ≠ [] := by
  unfold meaning
  dsimp only
  split
  · next blank => simp [blank.1]
  · split <;> simp_all
    rintro rfl
    assumption

/-- Every other line is delivered, without its comment. -/
theorem meaning_eq_content_iff {settings : Settings} {text line : Text} :
    settings.meaning text = .content line ↔
      line = settings.stripComment text ∧ settings.target? (settings.stripComment text) = none ∧
        (settings.stripComment text = [] → settings.keepBlankLines = true) := by
  unfold meaning
  dsimp only
  split
  · next blank => simp [blank.1, blank.2]
  · next full =>
    have kept : settings.stripComment text = [] → settings.keepBlankLines = true := by
      simpa using full
    split
    · next marked => simp [marked]
    · next marked => simp [marked]
    · next unmarked =>
      constructor
      · rintro ⟨rfl⟩
        exact ⟨rfl, unmarked, kept⟩
      · rintro ⟨rfl, _, _⟩
        rfl

/-- How a file that is reached through `chain` is spoken of. -/
def note (settings : Settings) (chain : Chain) : Text :=
  if chain.links = [] then settings.description
  else settings.description ++ " : ".toList ++ chain.display

end Settings

end Splice
