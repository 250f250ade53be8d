import Splice.Proofs.Independence
import Splice.Proofs.Lines
import Splice.Proofs.Origin
import Splice.Proofs.Stepping
import Splice.Proofs.Text.Strip

/-!
# Flattening

What a parse delivers is flat: written down line by line and parsed again with the same settings, it
comes out as it went in (`flattening_idempotent`). No line is taken for a comment, a directive or a
blank line that it was not before, and none is divided or joined with another.

One thing is lost. A line that ends in a carriage return loses it to the newline that is written
after it, so it is asked that no line does. Where white space is trimmed, none can.
-/

namespace Splice

/-- A line that is delivered as it is when it is read, with the newline that is written after it. -/
structure Settings.Stable (settings : Settings) (line : Text) : Prop where
  /-- It is one line. -/
  free : '\n' ∉ line
  /-- Less its ending, it is delivered in full. -/
  means : settings.meaning (Text.dropFinal '\r' line) = .content line

/-! ## Lines that have been delivered -/

section

variable {settings : Settings}

/-- Where white space is trimmed, no line that is delivered ends in a carriage return. -/
theorem Settings.getLast?_ne_of_meaning (trims : settings.trimWhitespace = true)
    {text line : Text} (means : settings.meaning text = .content line) :
    line.getLast? ≠ some '\r' := by
  rw [(meaning_eq_content_iff.1 means).1, stripComment, if_pos trims]
  exact fun isLast => Text.not_endsBlank_trim _ ⟨'\r', isLast, by decide⟩

variable {snapshot : Snapshot} {homes : Homes} {root : Path}

/-- A line that a step delivers is what some line without a newline means. -/
theorem Step.delivered_means {position next : Position} {actions : List Action} {line : Text}
    {location : Location} (step : Step snapshot settings position actions next)
    (sound : position.Sound snapshot settings homes root)
    (done : .delivered line location ∈ actions) :
    ∃ text, '\n' ∉ text ∧ settings.meaning text = .content line := by
  cases step with
  | @delivered frame below read rest _ ahead means =>
    obtain ⟨rfl, -⟩ : line = _ ∧ location = _ := by simpa using done
    obtain ⟨source, -, isLine⟩ := sound.1.line_ahead ahead
    exact ⟨_, Source.newline_notMem_lineText (List.mem_of_getElem? isLine), means⟩
  | _ => simp at done

/-- Every line that a parse delivers is stable, unless it ends in a carriage return. -/
theorem stable_of_mem_calls {σ : Type} {handler : Handler σ} {state : σ} {line : Text}
    {location : Location}
    (call : (line, location) ∈ calls snapshot settings handler homes root state)
    (bare : settings.trimWhitespace = true ∨ line.getLast? ≠ some '\r') : settings.Stable line := by
  obtain ⟨all, parses⟩ := exists_parses snapshot settings homes root
  have seen := (parses.mem_calls_iff handler state).1 call
  rcases parses.exists_step seen with ⟨position, actions, next, reached, step, seen'⟩ | other
  · obtain ⟨text, free, means⟩ :=
      step.delivered_means reached.sound (Action.delivered_mem_events.1 seen')
    have kept : line.getLast? ≠ some '\r' :=
      bare.elim (fun trims => Settings.getLast?_ne_of_meaning trims means) id
    refine ⟨fun isIn => free ?_, ?_⟩
    · rw [(Settings.meaning_eq_content_iff.1 means).1] at isIn
      exact (settings.stripComment_infix text).mem isIn
    · rw [Text.dropFinal_of_ne kept]
      exact Settings.meaning_of_content means
  · obtain ⟨_, _, same⟩ := other
    cases same

end

/-! ## What is written of them -/

/-- An unlimited sink takes everything. -/
theorem Sink.write_of_unlimited {sink : Sink} (unlimited : sink.capacity = none)
    (bytes : List UInt8) :
    sink.write bytes = ({ sink with stored := sink.stored.appendList bytes }, true) := by
  rw [write, unlimited]

/-- An unlimited sink ends up with every line, each with a newline. -/
theorem Handler.stored_echo {sink : Sink} (unlimited : sink.capacity = none)
    (lines : List (Text × Location)) :
    (Handler.echo.after sink lines).stored.toList =
      sink.stored.toList ++ Utf8.encode ((lines.map Prod.fst).flatMap (· ++ ['\n'])) := by
  induction lines generalizing sink with
  | nil => simp [after]
  | cons call rest ih =>
    have onward : (Handler.echo.deliver sink call.1 call.2).1.capacity = none := by
      simpa [echo, Sink.write_of_unlimited unlimited] using unlimited
    simpa [after, echo, Sink.write_of_unlimited unlimited] using ih onward

/-! ## Reading them again -/

namespace Frame

/-- What is done in an open file when each of its lines is delivered. -/
def deliver (frame : Frame) (lines : List Text) : List Action :=
  (lines.zipIdx (frame.location.line + 1)).flatMap fun (line, number) =>
    [.lineRead, .delivered line (frame.lineAt number)]

theorem deliver_cons (frame : Frame) (line : Text) (rest : List Text) :
    frame.deliver (line :: rest) =
      [.lineRead, .delivered line frame.location.next] ++ frame.past.deliver rest := by
  simp only [deliver, List.zipIdx_cons, List.flatMap_cons]
  rfl

/-- The lines are delivered in order, and numbered from the first that was left. -/
theorem deliveries_deliver (frame : Frame) (lines : List Text) :
    Event.deliveries (Action.events (frame.deliver lines)) =
      (lines.zipIdx (frame.location.line + 1)).map fun (line, number) =>
        (line, frame.lineAt number) := by
  induction lines generalizing frame with
  | nil => rfl
  | cons line rest ih =>
    simp only [deliver_cons, Action.events_append, Event.deliveries_append, ih, List.zipIdx_cons,
      List.map_cons]
    rfl

/-- No problem is recorded. -/
theorem recordings_deliver (frame : Frame) (lines : List Text) :
    Event.recordings (Action.events (frame.deliver lines)) = [] := by
  induction lines generalizing frame with
  | nil => rfl
  | cons line rest ih => simpa [deliver_cons] using ih frame.past

/-- No file is opened. -/
theorem filesOpened_deliver (frame : Frame) (lines : List Text) :
    Action.filesOpened (frame.deliver lines) = 0 := by
  induction lines generalizing frame with
  | nil => rfl
  | cons line rest ih =>
    rw [deliver_cons, Action.filesOpened_append, ih]
    rfl

/-- Each line is read once. -/
theorem linesRead_deliver (frame : Frame) (lines : List Text) :
    Action.linesRead (frame.deliver lines) = lines.length := by
  induction lines generalizing frame with
  | nil => rfl
  | cons line rest ih =>
    rw [deliver_cons, Action.linesRead_append, ih, List.length_cons, Nat.add_comm]
    rfl

/-- No directive is followed. -/
theorem followed_notMem_deliver (frame : Frame) (lines : List Text) {location : Location}
    {target : Path} : .followed location target ∉ frame.deliver lines := by
  intro isIn
  obtain ⟨_, -, isIn⟩ := List.mem_flatMap.1 isIn
  simp at isIn

end Frame

/-- Stable lines that are left of a file are read and delivered one by one. -/
theorem Run.deliver {snapshot : Snapshot} {settings : Settings} {frame : Frame} {below : List Frame}
    {lines : List Text} (stable : ∀ line ∈ lines, settings.Stable line)
    (ahead : frame.lines = lines.map Source.ended) (intact : frame.fault = none) :
    Run snapshot settings (.reading (frame :: below)) (frame.deliver lines) (.reading below) := by
  induction lines generalizing frame with
  | nil => exact .single (.ended ahead intact)
  | cons line rest ih =>
    rw [List.forall_mem_cons] at stable
    rw [List.map_cons] at ahead
    have means : settings.meaning (Source.lineText (Source.ended line)) = .content line := by
      rw [Source.lineText_ended]
      exact stable.1.means
    have onward : frame.past.lines = rest.map Source.ended := by simp [Frame.past, ahead]
    rw [Frame.deliver_cons]
    exact .trans (.single (.delivered ahead means)) (ih stable.2 onward intact)

/-! ## Whole parses -/

/-- A directive is noted in the trace when it is followed, and only then. -/
theorem Progress.including_mem_trace_replay {σ : Type} {handler : Handler σ}
    {progress : Progress σ} {actions : List Action} {location : Location} {target : Path} :
    .including location target ∈ (progress.replay handler actions).trace ↔
      .including location target ∈ progress.trace ∨ .followed location target ∈ actions := by
  induction actions generalizing progress with
  | nil => simp
  | cons action rest ih =>
    rw [replay_cons, ih]
    cases action with
    | delivered line here =>
      cases answer : (handler.deliver progress.state line here).2 <;>
        simp [act, delivered, answer, record]
    | _ => simp [act, opened, lineRead, traced, record, or_assoc, Trace.including.injEq]

/-- Where no problem is recorded, the only problems are refusals. -/
theorem Event.problems_eq_refusals {σ : Type} (handler : Handler σ) {events : List Event}
    (silent : recordings events = []) (state : σ) :
    problems handler state events = handler.refusals state (deliveries events) := by
  induction events generalizing state with
  | nil => rfl
  | cons event rest ih =>
    cases event with
    | delivered line location =>
      simpa [problems, Handler.refusals_cons] using ih silent _
    | recorded problem => simp at silent

/-- The parse of a file delivers the given lines and does nothing else. -/
structure Verbatim (snapshot : Snapshot) (settings : Settings) (homes : Homes) (root path : Path)
    (lines : List Text) : Prop where
  /-- Every handler is given these lines, in order, each with its number in the file. -/
  calls_eq : ∀ {σ : Type} (handler : Handler σ) (state : σ),
    calls snapshot settings handler homes root state =
      (lines.zipIdx 1).map fun (line, number) =>
        (line, { source := path, line := number, note := settings.description })
  /-- There are no problems but those that the handler makes. -/
  problems_eq : ∀ {σ : Type} (handler : Handler σ) (state : σ),
    (parse snapshot settings handler homes root state).problems.toList =
      handler.refusals state (calls snapshot settings handler homes root state)
  /-- So a handler that takes every line is left without problems. -/
  problems_eq_empty : ∀ {σ : Type} (handler : Handler σ) (state : σ),
    (∀ state line location, (handler.deliver state line location).2 = none) →
      (parse snapshot settings handler homes root state).problems = #[]
  /-- No directive is followed. -/
  direct : ∀ {σ : Type} (handler : Handler σ) (state : σ) (location : Location) (target : Path),
    .including location target ∉ (parse snapshot settings handler homes root state).trace
  /-- One file is opened, and its lines are read and delivered. -/
  tally_eq : ∀ {σ : Type} (handler : Handler σ) (state : σ),
    (parse snapshot settings handler homes root state).tally =
      { filesVisited := 1, linesRead := lines.length, linesParsed := lines.length }

section

variable {snapshot : Snapshot} {settings : Settings} {homes : Homes} {root path : Path}
  {source : Source} {lines : List Text}

/-- To parse a file of stable lines is to open it and to deliver them. -/
theorem parses_deliver (resolved : homes.resolve root = .ok path)
    (opens : snapshot.source path = .ok source) (intact : source.fault = none)
    (written : source.content = Utf8.encode (lines.flatMap (· ++ ['\n'])))
    (stable : ∀ line ∈ lines, settings.Stable line) :
    Parses snapshot settings homes root ([.opened (settings.note {}) path] ++
      (Frame.first snapshot settings {} path source).deliver lines) := by
  have holds : source.Holds lines [] :=
    ⟨by rw [written, List.append_nil], fun line isIn => (stable line isIn).free,
      List.not_mem_nil⟩
  have ahead : source.lines = lines.map Source.ended := by
    simp [Source.lines_of_holds holds, Source.lastLine]
  obtain ⟨all, parses⟩ := exists_parses snapshot settings homes root
  have run : Run snapshot settings (.entering {} path []) _ (.reading []) :=
    .trans (.single (.opened rfl opens)) (.deliver stable ahead intact)
  obtain rfl := (parses.run path resolved).unique run
  exact parses

/-- A file of stable lines is delivered as it is. -/
theorem verbatim_of_stable (resolved : homes.resolve root = .ok path)
    (opens : snapshot.source path = .ok source) (intact : source.fault = none)
    (written : source.content = Utf8.encode (lines.flatMap (· ++ ['\n'])))
    (stable : ∀ line ∈ lines, settings.Stable line) :
    Verbatim snapshot settings homes root path lines := by
  have parses := parses_deliver resolved opens intact written stable
  have calls_eq {σ : Type} (handler : Handler σ) (state : σ) :
      calls snapshot settings handler homes root state = Event.deliveries
        (Action.events ((Frame.first snapshot settings {} path source).deliver lines)) := by
    rw [Splice.calls_eq, ← parses.events]
    rfl
  have problems_eq {σ : Type} (handler : Handler σ) (state : σ) :
      (parse snapshot settings handler homes root state).problems.toList =
        handler.refusals state (calls snapshot settings handler homes root state) := by
    rw [parses.problems_eq, calls_eq]
    exact Event.problems_eq_refusals handler (Frame.recordings_deliver _ lines) state
  refine ⟨?_, problems_eq, ?_, ?_, ?_⟩
  · intro σ handler state
    rw [calls_eq, Frame.deliveries_deliver]
    rfl
  · intro σ handler state takes
    rw [← Array.toList_eq_nil_iff, problems_eq, Handler.refusals_eq_nil takes]
  · intro σ handler state location target
    rw [parses.parse_eq, Progress.including_mem_trace_replay]
    simpa using Frame.followed_notMem_deliver _ lines
  · intro σ handler state
    have opened : Action.filesOpened [.opened (settings.note {}) path] = 1 := rfl
    have unread : Action.linesRead [.opened (settings.note {}) path] = 0 := rfl
    rw [parses.parse_eq, Progress.tally_replay, Action.filesOpened_append, opened,
      Frame.filesOpened_deliver, Action.linesRead_append, unread, Frame.linesRead_deliver]
    simp [Frame.deliveries_deliver]

end

/-- Flattening is idempotent. Let a file hold what writing out the lines of a parse leaves, and let
none of these lines end in a carriage return, as none does where white space is trimmed. Parsed with
the same settings, wherever it is and whatever else there is, the file is delivered as it is. -/
theorem flattening_idempotent (snapshot : Snapshot) (settings : Settings) (homes : Homes)
    (root : Path) (again : Snapshot) (homes' : Homes) (name path : Path) (source : Source)
    (resolved : homes'.resolve name = .ok path) (opens : again.source path = .ok source)
    (intact : source.fault = none)
    (written : source.content =
      (parse snapshot settings Handler.echo homes root {}).state.stored.toList)
    (bare : settings.trimWhitespace = true ∨
      ∀ line ∈ (calls snapshot settings Handler.echo homes root {}).map Prod.fst,
        line.getLast? ≠ some '\r') :
    Verbatim again settings homes' name path
      ((calls snapshot settings Handler.echo homes root {}).map Prod.fst) := by
  have unlimited : ({} : Sink).capacity = none := rfl
  have stored := Handler.stored_echo unlimited (calls snapshot settings Handler.echo homes root {})
  rw [calls_eq, ← state_parse] at stored
  refine verbatim_of_stable resolved opens intact ?_ ?_
  · rw [written, stored, calls_eq]
    simp
  · intro line isIn
    obtain ⟨⟨_, location⟩, call, rfl⟩ := List.mem_map.1 isIn
    exact stable_of_mem_calls call (bare.imp_right fun bare => bare _ isIn)

/-- What a ring of files comes to is read again from a file of its own, white space and all. -/
theorem ring_flattened :
    let ring := Snapshot.ofObservations ring
    let settings : Settings := { trimWhitespace := false }
    let homes : Homes := ⟨none, .ok []⟩
    let source := Source.ofBytes (Utf8.encode "x\n".toList)
    let flat := Snapshot.ofObservations [⟨⟨['/', 'f']⟩, none, .ok source⟩]
    let lines := (calls ring settings Handler.echo homes ⟨['/', 'a']⟩ {}).map Prod.fst
    homes.resolve ⟨['/', 'f']⟩ = .ok ⟨['/', 'f']⟩ ∧ flat.source ⟨['/', 'f']⟩ = .ok source ∧
      source.fault = none ∧
      source.content =
        (parse ring settings Handler.echo homes ⟨['/', 'a']⟩ {}).state.stored.toList ∧
      (settings.trimWhitespace = true ∨ ∀ line ∈ lines, line.getLast? ≠ some '\r') ∧
      lines = [['x']] ∧ Verbatim flat settings homes ⟨['/', 'f']⟩ ⟨['/', 'f']⟩ lines := by
  have written : Utf8.encode "x\n".toList =
      (parse (.ofObservations ring) { trimWhitespace := false } Handler.echo ⟨none, .ok []⟩
        ⟨['/', 'a']⟩ {}).state.stored.toList := by
    rw [(parses_doneWithin (n := 12) (by decide)).parse_eq]
    decide
  have given : (calls (.ofObservations ring) { trimWhitespace := false } Handler.echo
      ⟨none, .ok []⟩ ⟨['/', 'a']⟩ {}).map Prod.fst = [['x']] := by
    rw [calls, (parses_doneWithin (n := 12) (by decide)).parse_eq]
    decide
  intro ring settings homes source flat lines
  have holds : source.content = _ := (Source.content_ofBytes _).trans written
  have bare : settings.trimWhitespace = true ∨ ∀ line ∈ lines, line.getLast? ≠ some '\r' := by
    right
    rw [show lines = [['x']] from given]
    decide
  exact ⟨rfl, rfl, rfl, holds, bare, given,
    flattening_idempotent ring settings homes ⟨['/', 'a']⟩ flat homes ⟨['/', 'f']⟩ ⟨['/', 'f']⟩
      source rfl rfl rfl holds bare⟩

end Splice
