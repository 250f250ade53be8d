import Splice.Reading

/-!
# Sessions

A parser that is used more than once. Its settings can be changed between parses and its handler
keeps its state; the counters are those of the latest parse alone.
-/

namespace Splice

/-- A parser between two uses. -/
structure Session (σ : Type) where
  /-- The settings in force. -/
  settings : Settings
  /-- The state of the handler. -/
  state : σ
  /-- The counters of the latest parse. -/
  tally : Tally := {}

namespace Session

variable {σ : Type}

/-- Sets the comment marker; an empty one turns comments off. -/
def setComment (session : Session σ) (marker : Text) : Session σ :=
  { session with settings.comment := marker }

/-- Sets the include marker; an empty one turns includes off. -/
def setIncludeMarker (session : Session σ) (marker : Text) : Session σ :=
  { session with settings.includeMarker := marker }

/-- Delivers blank lines from now on. -/
def keepBlankLines (session : Session σ) : Session σ :=
  { session with settings.keepBlankLines := true }

/-- Leaves white space around lines in place from now on. -/
def keepWhitespace (session : Session σ) : Session σ :=
  { session with settings.trimWhitespace := false }

/-- A parser that has not been used. What its files are called is given; its other settings are
those that are built in. -/
def start (description : Text) (state : σ) : Session σ :=
  { settings := { description }, state }

/-- A parser that has not been used, with given settings. -/
def ofSettings (settings : Settings) (state : σ) : Session σ :=
  let session := ((start settings.description state).setComment settings.comment).setIncludeMarker
    settings.includeMarker
  let session := if settings.keepBlankLines then session.keepBlankLines else session
  if settings.trimWhitespace then session else session.keepWhitespace

/-- Given settings are in force from the start, and nothing has been counted. -/
theorem ofSettings_eq (settings : Settings) (state : σ) :
    ofSettings settings state = { settings, state } := by
  obtain ⟨description, comment, includeMarker, keepBlankLines, trimWhitespace⟩ := settings
  cases keepBlankLines <;> cases trimWhitespace <;> rfl

@[simp] theorem settings_ofSettings (settings : Settings) (state : σ) :
    (ofSettings settings state).settings = settings := by
  rw [ofSettings_eq]

@[simp] theorem state_ofSettings (settings : Settings) (state : σ) :
    (ofSettings settings state).state = state := by
  rw [ofSettings_eq]

/-- Hands a line to the handler directly. -/
def feed (session : Session σ) (handler : Handler σ) (line : Text) (location : Location) :
    Session σ × Option Refusal :=
  let (state, refusal) := handler.deliver session.state line location
  ({ session with state }, refusal)

/-- The session after a parse. -/
def after (session : Session σ) (progress : Progress σ) : Session σ :=
  { session with state := progress.state, tally := progress.tally }

/-- Parses a root file. -/
def parse (session : Session σ) (handler : Handler σ) (snapshot : Snapshot) (homes : Homes)
    (root : Path) : Session σ × Progress σ :=
  let progress := Splice.parse snapshot session.settings handler homes root session.state
  (session.after progress, progress)

end Session

end Splice
