import Splice.Proofs.Accounting
import Splice.Proofs.Lines

/-!
# Segmentation

Reading one file, where no line is a directive. What is read is divided into lines at its newlines,
wherever one piece of data ends and the next begins, and however often reading is interrupted. The
lines are numbered from where the reading starts and are delivered or dropped one by one; a failure
costs the line that it cuts off, and is recorded once, after all else (`scan_segmented`).

Whether lines can be directives at all is a matter of the settings (`Settings.Plain`). Nothing here
is said of a file that includes others.
-/

namespace Splice

/-! ## Settings without directives -/

namespace Settings

/-- No line is a directive. -/
def Plain (settings : Settings) : Prop :=
  ∀ text, settings.target? (settings.stripComment text) = none

/-- Without a marker for them there are no directives. -/
theorem plain_of_unmarked {settings : Settings} (unmarked : settings.includeMarker = []) :
    settings.Plain := by
  intro text
  rw [target?, if_pos unmarked]

/-- What a line that is no directive is delivered as, unless it is dropped. -/
def kept? (settings : Settings) (text : Text) : Option Text :=
  let line := settings.stripComment text
  if line = [] ∧ settings.keepBlankLines = false then none else some line

/-- The lines that are delivered of a file without directives, each with its location, when
`location` is the line before them. -/
def given (settings : Settings) (location : Location) (lines : List (List UInt8)) :
    List (Text × Location) :=
  (lines.zipIdx (location.line + 1)).filterMap fun (line, number) =>
    (settings.kept? (Source.lineText line)).map fun text =>
      (text, { location with line := number, content := none })

variable {settings : Settings}

/-- Where no line is a directive, each is dropped or delivered. -/
theorem Plain.meaning_eq (plain : settings.Plain) (text : Text) :
    settings.meaning text = (settings.kept? text).elim .dropped .content := by
  by_cases blank : settings.stripComment text = [] ∧ settings.keepBlankLines = false
  · rw [meaning_eq_dropped_iff.2 blank, kept?, if_pos blank]
    rfl
  · rw [kept?, if_neg blank]
    refine meaning_eq_content_iff.2 ⟨rfl, plain text, fun empty => ?_⟩
    simpa [empty] using blank

end Settings

/-! ## Deliveries one after the other -/

namespace Event

variable {σ : Type} (handler : Handler σ)

/-- The events of lines that are all delivered. -/
def ofGiven (given : List (Text × Location)) : List Event :=
  given.map fun (line, location) => .delivered line location

@[simp] theorem deliveries_ofGiven (given : List (Text × Location)) :
    deliveries (ofGiven given) = given := by
  induction given with
  | nil => rfl
  | cons call rest ih => exact congrArg (call :: ·) ih

@[simp] theorem recordings_ofGiven (given : List (Text × Location)) :
    recordings (ofGiven given) = [] := by
  induction given with
  | nil => rfl
  | cons call rest ih => exact ih

/-- The problems of lines that are delivered are their refusals, and then come others. -/
theorem problems_ofGiven_append (state : σ) (given : List (Text × Location)) (rest : List Event) :
    problems handler state (ofGiven given ++ rest) =
      handler.refusals state given ++ problems handler (handler.after state given) rest := by
  induction given generalizing state with
  | nil => rfl
  | cons call more ih =>
    have later := ih (handler.deliver state call.1 call.2).1
    rw [Handler.refusals_cons, List.append_assoc]
    exact congrArg _ later

end Event

/-- Refusals are of one kind. -/
theorem Handler.kind_of_mem_refusals {σ : Type} {handler : Handler σ} {state : σ}
    {given : List (Text × Location)} {problem : Problem}
    (isIn : problem ∈ handler.refusals state given) : problem.kind = .refused := by
  induction given generalizing state with
  | nil => cases isIn
  | cons call rest ih =>
    rcases List.mem_append.1 isIn with now | later
    · obtain ⟨cause, -, rfl⟩ := List.mem_map.1 now
      rfl
    · exact ih later

/-! ## An open file without directives -/

section

variable {snapshot : Snapshot} {settings : Settings}

/-- The lines of a file without directives are delivered, and then a failure is recorded. -/
theorem Frame.events_of_plain (plain : settings.Plain) (frame : Frame) :
    frame.events snapshot settings =
      Event.ofGiven (settings.given frame.location frame.lines) ++
        frame.fault.toList.map fun fault => .recorded
          (.unreadable (frame.lineAt (frame.location.line + frame.lines.length + 1)) fault) := by
  have each (line : List UInt8) (number : Nat) :
      frame.lineEvents snapshot settings line number =
        Event.ofGiven ((settings.kept? (Source.lineText line)).map fun text =>
          (text, frame.lineAt number)).toList := by
    rw [lineEvents, plain.meaning_eq]
    cases settings.kept? (Source.lineText line) <;> rfl
  rw [events, Settings.given]
  congr 1
  generalize frame.location.line + 1 = number
  induction frame.lines generalizing number with
  | nil => rfl
  | cons line rest ih =>
    rw [List.zipIdx_cons, List.flatMap_cons, ih, List.filterMap_cons]
    dsimp only
    rw [each]
    cases settings.kept? (Source.lineText line) <;> rfl

/-- They lead to no other file. -/
theorem Frame.sources_of_plain (plain : settings.Plain) (frame : Frame) :
    frame.sources snapshot settings = [] := by
  refine List.flatMap_eq_nil_iff.2 fun (line, number) _ => ?_
  dsimp only [lineSources]
  rw [plain.meaning_eq]
  cases settings.kept? (Source.lineText line) <;> rfl

/-- What reading the lines of a file without directives comes to. -/
theorem scan_of_plain {σ : Type} (snapshot : Snapshot) (plain : settings.Plain)
    (handler : Handler σ) (frame : Frame) (progress : Progress σ) :
    let after := scan snapshot settings handler frame.chain frame.identity frame.fault
      frame.location frame.lines progress
    let given := settings.given frame.location frame.lines
    after.state = handler.after progress.state given ∧
      after.tally =
        { filesVisited := progress.tally.filesVisited
          linesRead := progress.tally.linesRead + frame.lines.length
          linesParsed := progress.tally.linesParsed + given.length } ∧
      after.problems.toList = progress.problems.toList ++ handler.refusals progress.state given ++
        frame.fault.toList.map fun fault =>
          .unreadable (frame.lineAt (frame.location.line + frame.lines.length + 1)) fault := by
  intro after given
  obtain ⟨actions, scans⟩ : ∃ actions, Scans snapshot settings frame actions :=
    exists_scans frame fun here path => exists_reads snapshot settings _ path
  have replayed : after = progress.replay handler actions := scans.scan_eq handler progress
  have events : Action.events actions = Event.ofGiven given ++ _ :=
    scans.events.trans (frame.events_of_plain plain)
  have deliveries : Event.deliveries (Action.events actions) = given := by
    rw [events, Event.deliveries_append, Event.deliveries_ofGiven]
    cases frame.fault <;> simp
  have files : Action.filesOpened actions = 0 := by
    rw [scans.files, frame.sources_of_plain plain, List.length_nil]
  have lines : Action.linesRead actions = frame.lines.length := by
    rw [scans.lines, frame.sources_of_plain plain]
    rfl
  refine ⟨?_, ?_, ?_⟩
  · rw [replayed, Progress.state_replay, deliveries]
  · rw [replayed, Progress.tally_replay, files, lines, deliveries, Nat.add_zero]
  · rw [replayed, Progress.problems_replay, events, Event.problems_ofGiven_append,
      ← List.append_assoc]
    cases frame.fault <;> rfl

end

/-! ## What reading comes to -/

/-- What reading an open file comes to, from the line after `location` on. -/
structure Segmented {σ : Type} (snapshot : Snapshot) (settings : Settings) (handler : Handler σ)
    (chain : Chain) (identity : Identity) (location : Location) (source : Source)
    (before after : Progress σ) : Prop where
  /-- Only the bytes count, and the failure: a source that yields the same in other pieces comes to
  the same. -/
  bytes_only : ∀ partner : Source, partner.content = source.content → partner.fault = source.fault →
    scan snapshot settings handler chain identity partner.fault location partner.lines before =
      after
  /-- A line is read for each newline, and one for what follows the last, if it is not lost. -/
  linesRead_eq : after.tally.linesRead = before.tally.linesRead +
    (source.content.count Source.newline +
      if source.fault = none ∧ source.content ≠ [] ∧
          source.content.getLast? ≠ some Source.newline then 1 else 0)
  /-- The handler is given the pieces between the newlines, in order, each with its number counted
  from where the reading starts, and less its ending and its comment. It is given nothing else; left
  out are the pieces that are dropped as blank. -/
  calls_eq : (scan snapshot settings handler.logged chain identity source.fault location
      source.lines { before with state := (before.state, []) }).state.2 =
    settings.given location source.pieces
  /-- The calls leave it in the state that they lead to. -/
  state_eq : after.state = handler.after before.state (settings.given location source.pieces)
  /-- Each call is counted. -/
  linesParsed_eq : after.tally.linesParsed =
    before.tally.linesParsed + (settings.given location source.pieces).length
  /-- No other file is opened. -/
  filesVisited_eq : after.tally.filesVisited = before.tally.filesVisited
  /-- After the refusals comes the failure, if there is one, at the line after the last that has
  been read. No line is on record with it. -/
  problems_eq : after.problems.toList =
    before.problems.toList ++
      handler.refusals before.state (settings.given location source.pieces) ++
      source.fault.toList.map fun fault =>
        .unreadable
          { location with
            line := location.line + (after.tally.linesRead - before.tally.linesRead) + 1
            content := none }
          fault
  /-- It is recorded once, and without a failure nothing of the kind is. -/
  unreadable_eq : after.count .unreadable = before.count .unreadable + source.fault.toList.length

/-- How many lines a source has. -/
theorem Source.length_lines (source : Source) :
    source.lines.length = source.content.count newline +
      if source.fault = none ∧ source.content ≠ [] ∧ source.content.getLast? ≠ some newline
        then 1 else 0 := by
  rw [lines_eq_pieces, pieces]
  cases source.fault with
  | none => simpa using Text.length_splitAfter newline source.content
  | some fault => simpa using Text.length_filter_splitAfter newline source.content

/-- What is read of a file is divided into lines at its newlines, where no directives are followed,
and a failure is recorded once and last. -/
theorem scan_segmented {σ : Type} (snapshot : Snapshot) (settings : Settings) (handler : Handler σ)
    (chain : Chain) (identity : Identity) (location : Location) (source : Source)
    (progress : Progress σ) (unmarked : settings.includeMarker = []) :
    Segmented snapshot settings handler chain identity location source progress
      (scan snapshot settings handler chain identity source.fault location source.lines
        progress) := by
  have plain := Settings.plain_of_unmarked unmarked
  let frame : Frame := ⟨chain, identity, source.fault, location, source.lines⟩
  obtain ⟨state, tally, problems⟩ := scan_of_plain snapshot plain handler frame progress
  obtain ⟨logged, -⟩ :=
    scan_of_plain snapshot plain handler.logged frame
      { progress with state := (progress.state, []) }
  rw [Handler.after_logged] at logged
  simp only [frame, Source.lines_eq_pieces source] at state tally problems logged ⊢
  have read := congrArg Tally.linesRead tally
  refine ⟨?_, ?_, ?_, state, ?_, ?_, ?_, ?_⟩
  · intro partner content fault
    rw [Source.lines_eq_pieces, Source.pieces, Source.pieces, content, fault]
  · rw [read, ← Source.length_lines, Source.lines_eq_pieces]
  · rw [Source.lines_eq_pieces, logged, List.nil_append]
  · rw [tally]
  · rw [tally]
  · rw [problems, read, Nat.add_sub_cancel_left]
    rfl
  · have refused : (handler.refusals progress.state
        (settings.given location source.pieces)).countP (·.kind = .unreadable) = 0 := by
      refine List.countP_eq_zero.2 fun problem isIn => ?_
      simp [Handler.kind_of_mem_refusals isIn]
    have failed (here : Location) : (source.fault.toList.map fun fault =>
        Problem.unreadable here fault).countP (·.kind = .unreadable) =
          source.fault.toList.length := by
      cases source.fault <;> rfl
    rw [Progress.count, problems, List.countP_append, List.countP_append, refused, failed]
    rfl

/-- A line of which the data end in a character and in its ending, an empty one, one that is
refused, and one that a failure cuts off. -/
theorem torn_segmented :
    let chunks : List Chunk := [.data [0xC3], .interrupted, .data [0xA9, 0x0D], .data [0x0A, 0x0A],
      .interrupted, .data [0x62, 0x0A, 0x63]]
    let source : Source := ⟨chunks, some (.system 5)⟩
    let settings : Settings := { includeMarker := [] }
    let handler := Handler.collect fun line => if line = ['b'] then some ⟨['n', 'o'], []⟩ else none
    let location : Location := { source := ⟨['d']⟩, line := 4, content := some ['x'] }
    settings.includeMarker = [] ∧
      settings.given location source.pieces =
        [(['é'], { source := ⟨['d']⟩, line := 5 }), (['b'], { source := ⟨['d']⟩, line := 7 })] ∧
      Segmented (.ofObservations []) settings handler {} [] location source { state := #[] }
        (scan (.ofObservations []) settings handler {} [] source.fault location source.lines
          { state := #[] }) := by
  intro chunks source settings handler location
  exact ⟨rfl, by decide, scan_segmented _ settings handler {} [] location source _ rfl⟩

end Splice
