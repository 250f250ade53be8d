import Splice.Proofs.Nesting
import Splice.Proofs.Text.Split

/-!
# Origin

Where the lines and problems of a parse come from. What a parse says about a line is true: the note
names directives that lead from the root to the file (`Trail`), and the line that is delivered
stands in that file at the number that is given (`origin_true`).
-/

namespace Splice

section

variable (snapshot : Snapshot) (settings : Settings) (homes : Homes) (root : Path)

/-- Directives, outermost first, that lead from the root to a path. -/
inductive Trail : List (Path × Nat) → Path → Prop where
  | root {path} (resolved : homes.resolve root = .ok path) : Trail [] path
  | inner {links path number target} (outer : Trail links path)
      (directs : Directs snapshot settings path number target) :
      Trail (links ++ [(path, number)]) target

/-- What files are called, and how one was reached. -/
def Settings.described (links : List (Path × Nat)) : Text :=
  settings.description ++ links.flatMap fun (path, number) =>
    " : included from ".toList ++ path.text ++ ':' :: Text.decimal number

/-- The note of a location names a trail that leads to its file. -/
def Location.Located (location : Location) : Prop :=
  ∃ links, Trail snapshot settings homes root links location.source ∧
    location.note = settings.described links

/-- A line stands in the file of a location at its number. -/
def Location.Holds (location : Location) (line : List UInt8) : Prop :=
  ∃ source, snapshot.source location.source = .ok source ∧
    source.line? location.line = some line

/-- What a problem says of its origin is so. -/
def Problem.Truthful (calls : List (Text × Location)) : Problem → Prop
  | .unexpanded note name cause =>
    homes.resolve root = .error cause ∧ name = root.text ∧ note = settings.description
  | .loop note path _ | .unopened note path _ =>
    ∃ links, Trail snapshot settings homes root links path ∧ note = settings.described links
  | .nameless location =>
    location.Located snapshot settings homes root ∧ ∃ line, location.Holds snapshot line ∧
      location.content = some (Source.lineText line) ∧
      settings.target? (settings.stripComment (Source.lineText line)) = some []
  | .refused location _ =>
    location.Located snapshot settings homes root ∧ location.content = none ∧
      ∃ line, (line, location) ∈ calls
  | .unreadable location cause =>
    location.Located snapshot settings homes root ∧ location.content = none ∧
      ∃ source, snapshot.source location.source = .ok source ∧ source.fault = some cause ∧
        location.line = source.lines.length + 1

end

variable {snapshot : Snapshot} {settings : Settings} {homes : Homes} {root : Path}

/-! ## Trails of open files -/

/-- The directives that open files stand at, outermost first. -/
def Frame.trail (frames : List Frame) : List (Path × Nat) :=
  (frames.map fun frame => (frame.path, frame.location.line)).reverse

/-- Open files that lead to a path are a trail to it. -/
theorem Nested.trail {frames : List Frame} {path : Path}
    (nested : Nested snapshot settings homes root frames path) :
    Trail snapshot settings homes root (Frame.trail frames) path := by
  induction nested with
  | root resolved => exact .root resolved
  | inner _ _ directs ih =>
    rw [Frame.trail, List.map_cons, List.reverse_cons]
    exact .inner ih directs

/-- The note of a chain names its directives. -/
theorem note_ofFrames (frames : List Frame) :
    settings.note (Chain.ofFrames frames) = settings.described (Frame.trail frames) := by
  unfold Settings.note Settings.described Chain.display
  split
  · next none =>
    obtain rfl : frames = [] := by simpa [Chain.ofFrames] using none
    simp [Frame.trail]
  · next some =>
    rw [List.append_assoc, Text.append_join _ (by simpa using some)]
    simp [Chain.ofFrames, Frame.trail, Frame.link, Link.display, List.flatMap_map,
      ← List.map_reverse]

/-! ## What one step says -/

section

variable {frame : Frame} {below : List Frame}

/-- The line after the last that was read of an open file is located. -/
theorem Frame.Stands.located (stands : frame.Stands snapshot settings below)
    (nested : Nested snapshot settings homes root below frame.path) :
    frame.location.next.Located snapshot settings homes root := by
  refine ⟨Frame.trail below, nested.trail, ?_⟩
  rw [← note_ofFrames, ← stands.chain_eq]
  exact stands.note_eq

/-- Where no line is left, all lines have been read. -/
theorem Frame.Stands.line_eq_length (stands : frame.Stands snapshot settings below)
    (atEnd : frame.lines = []) :
    ∃ source, snapshot.source frame.path = .ok source ∧ frame.fault = source.fault ∧
      frame.location.line = source.lines.length := by
  obtain ⟨source, opens, failure, within, left⟩ := stands.source
  rw [atEnd] at left
  exact ⟨source, opens, failure, Nat.le_antisymm within (List.drop_eq_nil_iff.1 left.symm)⟩

end

/-- A line is delivered as it stands in its file, less its comment. -/
theorem Step.delivered_true {position next : Position} {actions : List Action} {content : Text}
    {location : Location} (step : Step snapshot settings position actions next)
    (sound : position.Sound snapshot settings homes root)
    (done : .delivered content location ∈ actions) :
    location.Located snapshot settings homes root ∧ location.content = none ∧
      ∃ line, location.Holds snapshot line ∧
        content = settings.stripComment (Source.lineText line) := by
  cases step with
  | @delivered frame below line rest _ ahead means =>
    obtain ⟨rfl, rfl⟩ : content = _ ∧ location = _ := by simpa using done
    obtain ⟨stands, nested⟩ := sound
    obtain ⟨source, opens, isLine⟩ := stands.line_ahead ahead
    have stripped := (Settings.meaning_eq_content_iff.1 means).1
    exact ⟨stands.located nested, rfl, line, ⟨source, opens, isLine⟩, stripped⟩
  | _ => simp at done

/-- What a recorded problem says of its origin is so. -/
theorem Step.recorded_true {position next : Position} {actions : List Action} {problem : Problem}
    (step : Step snapshot settings position actions next)
    (sound : position.Sound snapshot settings homes root) (calls : List (Text × Location))
    (done : .recorded problem ∈ actions) :
    problem.Truthful snapshot settings homes root calls := by
  cases step with
  | @loop chain path frames link found =>
    obtain rfl : problem = _ := by simpa using done
    obtain ⟨rfl, nested⟩ := sound
    exact ⟨_, nested.trail, note_ofFrames frames⟩
  | @unopened chain path frames fault new fails =>
    obtain rfl : problem = _ := by simpa using done
    obtain ⟨rfl, nested⟩ := sound
    exact ⟨_, nested.trail, note_ofFrames frames⟩
  | @nameless frame below line rest ahead means =>
    obtain rfl : problem = _ := by simpa using done
    obtain ⟨stands, nested⟩ := sound
    obtain ⟨source, opens, isLine⟩ := stands.line_ahead ahead
    exact ⟨stands.located nested, line, ⟨source, opens, isLine⟩, rfl,
      Settings.meaning_eq_nameless_iff.1 means⟩
  | @failed frame below fault atEnd fails =>
    obtain rfl : problem = _ := by simpa using done
    obtain ⟨stands, nested⟩ := sound
    obtain ⟨source, opens, failure, allRead⟩ := stands.line_eq_length atEnd
    refine ⟨stands.located nested, rfl, source, opens, by rw [← failure, fails], ?_⟩
    rw [← allRead]
    rfl
  | opened | dropped | followed | delivered | ended => simp at done

/-! ## Whole parses -/

/-- The calls of a parse are what is delivered on the way. -/
theorem Parses.mem_calls_iff {σ : Type} {all : List Action}
    (parses : Parses snapshot settings homes root all) (handler : Handler σ) (state : σ)
    {line : Text} {location : Location} :
    (line, location) ∈ calls snapshot settings handler homes root state ↔
      .delivered line location ∈ Action.events all := by
  rw [calls_eq, Event.mem_deliveries, parses.events]

/-- Every line that is delivered stands, less its comment, where its location says. -/
theorem Parses.delivered_true {all : List Action} {line : Text} {location : Location}
    (parses : Parses snapshot settings homes root all)
    (seen : .delivered line location ∈ Action.events all) :
    location.Located snapshot settings homes root ∧ location.content = none ∧
      ∃ read, location.Holds snapshot read ∧
        line = settings.stripComment (Source.lineText read) := by
  rcases parses.exists_step seen with ⟨position, actions, next, reached, step, seen'⟩ | other
  · exact step.delivered_true reached.sound (Action.delivered_mem_events.1 seen')
  · obtain ⟨_, _, same⟩ := other
    cases same

/-- What every recorded problem says of its origin is so. -/
theorem Parses.recorded_true {all : List Action} {problem : Problem}
    (parses : Parses snapshot settings homes root all) (calls : List (Text × Location))
    (seen : .recorded problem ∈ Action.events all) :
    problem.Truthful snapshot settings homes root calls := by
  rcases parses.exists_step seen with ⟨position, actions, next, reached, step, seen'⟩ | other
  · exact step.recorded_true reached.sound calls (Action.recorded_mem_events.1 seen')
  · obtain ⟨cause, fails, same⟩ := other
    cases same
    exact ⟨fails, rfl, rfl⟩

/-- What a parse says of the origin of its lines and problems is so. Every line that its handler is
given stands, less its comment, at the location that comes with it, and the note of that location
names directives that lead there from the root. Every problem is where it says, too: a directive
without a name and a failure at their lines, only the former with the line on record; a refusal
where its line was delivered; a loop or a file that does not open at the end of the trail that its
note names. -/
theorem origin_true {σ : Type} (snapshot : Snapshot) (settings : Settings) (handler : Handler σ)
    (homes : Homes) (root : Path) (state : σ) :
    let calls := calls snapshot settings handler homes root state
    (∀ line location, (line, location) ∈ calls →
      location.Located snapshot settings homes root ∧ location.content = none ∧
        ∃ read, location.Holds snapshot read ∧
          line = settings.stripComment (Source.lineText read)) ∧
    ∀ problem ∈ (parse snapshot settings handler homes root state).problems.toList,
      problem.Truthful snapshot settings homes root calls := by
  intro calls
  obtain ⟨all, parses⟩ := exists_parses snapshot settings homes root
  constructor
  · intro line location call
    exact parses.delivered_true ((parses.mem_calls_iff handler state).1 call)
  · intro problem left
    rw [parses.problems_eq] at left
    rcases Event.recorded_or_refused_of_mem_problems left with
      seen | ⟨line, location, cause, rfl, seen⟩
    · exact parses.recorded_true calls seen
    · -- A refusal is where a call is.
      have call := (parses.mem_calls_iff handler state).2 seen
      obtain ⟨located, bare, _⟩ := parses.delivered_true seen
      exact ⟨located, bare, line, call⟩

end Splice
