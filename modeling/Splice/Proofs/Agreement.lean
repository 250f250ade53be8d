import Splice.Proofs.Execution
import Splice.Proofs.Expansion

/-!
# Agreement

The parse, its small steps and the expansion agree. For every file there is one list of actions:
the small steps do it (`Reads.run`), `visit` makes of any progress what the actions make of it
(`Reads.visit_eq`), and what is seen of it is the expansion (`Reads.events`). The main result,
`parse_agrees`, says of a whole parse what its handler is given, which problems it leaves and what
it counts, all in terms of the expansion.
-/

namespace Splice

namespace Action

/-- What a caller or a handler sees of an action. -/
def event? : Action → Option Event
  | .recorded problem => some (.recorded problem)
  | .delivered line location => some (.delivered line location)
  | .opened .. | .lineRead | .followed .. => none

/-- What is seen of a list of actions. -/
def events (actions : List Action) : List Event :=
  actions.filterMap event?

/-- How many files are opened. -/
def filesOpened (actions : List Action) : Nat :=
  actions.countP fun
    | .opened .. => true
    | _ => false

/-- How many lines are read. -/
def linesRead (actions : List Action) : Nat :=
  actions.count .lineRead

@[simp] theorem events_nil : events [] = [] := rfl

@[simp] theorem events_opened (note : Text) (path : Path) (rest : List Action) :
    events (.opened note path :: rest) = events rest := rfl

@[simp] theorem events_lineRead (rest : List Action) : events (.lineRead :: rest) = events rest :=
  rfl

@[simp] theorem events_followed (location : Location) (target : Path) (rest : List Action) :
    events (.followed location target :: rest) = events rest := rfl

@[simp] theorem events_recorded (problem : Problem) (rest : List Action) :
    events (.recorded problem :: rest) = .recorded problem :: events rest := rfl

@[simp] theorem events_delivered (line : Text) (location : Location) (rest : List Action) :
    events (.delivered line location :: rest) = .delivered line location :: events rest := rfl

/-- A recorded problem is seen. -/
@[simp] theorem recorded_mem_events {actions : List Action} {problem : Problem} :
    .recorded problem ∈ events actions ↔ .recorded problem ∈ actions := by
  induction actions with
  | nil => simp
  | cons action rest ih => cases action <;> simp [ih]

/-- A delivered line is seen. -/
@[simp] theorem delivered_mem_events {actions : List Action} {line : Text} {location : Location} :
    .delivered line location ∈ events actions ↔ .delivered line location ∈ actions := by
  induction actions with
  | nil => simp
  | cons action rest ih => cases action <;> simp [ih]

@[simp] theorem events_append (first rest : List Action) :
    events (first ++ rest) = events first ++ events rest :=
  List.filterMap_append

@[simp] theorem filesOpened_append (first rest : List Action) :
    filesOpened (first ++ rest) = filesOpened first + filesOpened rest :=
  List.countP_append

@[simp] theorem linesRead_append (first rest : List Action) :
    linesRead (first ++ rest) = linesRead first + linesRead rest :=
  List.count_append

end Action

/-! ## What actions make of a progress -/

namespace Progress

variable {σ : Type} (handler : Handler σ)

@[simp] theorem state_delivered (progress : Progress σ) (line : Text) (location : Location) :
    (progress.delivered handler line location).state =
      (handler.deliver progress.state line location).1 := by
  rcases answer : handler.deliver progress.state line location with ⟨state, _ | cause⟩ <;>
    simp [delivered, record, answer]

@[simp] theorem tally_delivered (progress : Progress σ) (line : Text) (location : Location) :
    (progress.delivered handler line location).tally =
      { progress.tally with linesParsed := progress.tally.linesParsed + 1 } := by
  rcases answer : handler.deliver progress.state line location with ⟨state, _ | cause⟩ <;>
    simp [delivered, record, answer]

@[simp] theorem problems_delivered (progress : Progress σ) (line : Text) (location : Location) :
    (progress.delivered handler line location).problems.toList =
      progress.problems.toList ++
        (handler.deliver progress.state line location).2.toList.map (.refused location) := by
  rcases answer : handler.deliver progress.state line location with ⟨state, _ | cause⟩ <;>
    simp [delivered, record, answer]

/-- The handler ends in the state that the deliveries lead to. -/
theorem state_replay (progress : Progress σ) (actions : List Action) :
    (progress.replay handler actions).state =
      handler.after progress.state (Event.deliveries (Action.events actions)) := by
  induction actions generalizing progress with
  | nil => rfl
  | cons action rest ih =>
    rw [replay_cons, ih]
    cases action <;> simp [act, Handler.after, record, opened, traced, lineRead]

/-- The problems are those recorded, with the refusals among them. -/
theorem problems_replay (progress : Progress σ) (actions : List Action) :
    (progress.replay handler actions).problems.toList =
      progress.problems.toList ++
        Event.problems handler progress.state (Action.events actions) := by
  induction actions generalizing progress with
  | nil => simp [Event.problems]
  | cons action rest ih =>
    rw [replay_cons, ih]
    cases action <;> simp [act, Event.problems, record, opened, traced, lineRead]

/-- The counters grow by what is opened, read and delivered. -/
theorem tally_replay (progress : Progress σ) (actions : List Action) :
    (progress.replay handler actions).tally =
      { filesVisited := progress.tally.filesVisited + Action.filesOpened actions
        linesRead := progress.tally.linesRead + Action.linesRead actions
        linesParsed := progress.tally.linesParsed +
          (Event.deliveries (Action.events actions)).length } := by
  induction actions generalizing progress with
  | nil => rfl
  | cons action rest ih =>
    rw [replay_cons, ih]
    cases action <;>
      simp [act, Action.filesOpened, Action.linesRead, record, opened, traced, lineRead] <;> omega

end Progress

/-! ## The expansion of an open file -/

namespace Frame

variable (snapshot : Snapshot) (settings : Settings)

/-- The line of the given number in the file of a frame. -/
def lineAt (frame : Frame) (number : Nat) : Location :=
  { frame.location with line := number, content := none }

/-- The line after the one that was read last. -/
@[simp] theorem lineAt_succ (frame : Frame) :
    frame.lineAt (frame.location.line + 1) = frame.location.next := rfl

/-- The events of one line. -/
def lineEvents (frame : Frame) (line : List UInt8) (number : Nat) : List Event :=
  match settings.meaning (Source.lineText line) with
  | .dropped => []
  | .nameless => [.recorded (.nameless ((frame.lineAt number).withContent (Source.lineText line)))]
  | .directive name =>
    Expansion.ofFile snapshot settings (frame.chain.extended (frame.lineAt number) frame.identity)
      (frame.path.includedFrom ⟨name⟩)
  | .content line => [.delivered line (frame.lineAt number)]

/-- The files that are opened for one line. -/
def lineSources (frame : Frame) (line : List UInt8) (number : Nat) : List Source :=
  match settings.meaning (Source.lineText line) with
  | .directive name =>
    Expansion.sources snapshot settings (frame.chain.extended (frame.lineAt number) frame.identity)
      (frame.path.includedFrom ⟨name⟩)
  | _ => []

/-- The events of what has not been read of an open file. -/
def events (frame : Frame) : List Event :=
  (frame.lines.zipIdx (frame.location.line + 1)).flatMap
      (fun (line, number) => frame.lineEvents snapshot settings line number) ++
    frame.fault.toList.map fun fault =>
      .recorded (.unreadable (frame.lineAt (frame.location.line + frame.lines.length + 1)) fault)

/-- The files that are opened for what has not been read of an open file. -/
def sources (frame : Frame) : List Source :=
  (frame.lines.zipIdx (frame.location.line + 1)).flatMap
    fun (line, number) => frame.lineSources snapshot settings line number

variable {snapshot settings}

theorem events_of_cons {frame : Frame} {line : List UInt8} {rest : List (List UInt8)}
    (ahead : frame.lines = line :: rest) :
    frame.events snapshot settings =
      frame.lineEvents snapshot settings line (frame.location.line + 1) ++
        frame.past.events snapshot settings := by
  -- A failure is numbered alike, whether this line counts as read or as still ahead.
  have number :
      frame.location.line + (rest.length + 1) = frame.location.line + 1 + rest.length := by
    omega
  simp only [events, ahead, List.zipIdx_cons, List.flatMap_cons, List.append_assoc,
    List.length_cons, number]
  simp only [past, ahead, List.tail_cons, Location.next]
  rfl

theorem sources_of_cons {frame : Frame} {line : List UInt8} {rest : List (List UInt8)}
    (ahead : frame.lines = line :: rest) :
    frame.sources snapshot settings =
      frame.lineSources snapshot settings line (frame.location.line + 1) ++
        frame.past.sources snapshot settings := by
  simp only [sources, ahead, List.zipIdx_cons, List.flatMap_cons]
  simp only [past, ahead, List.tail_cons, Location.next]
  rfl

end Frame

section

variable {snapshot : Snapshot} {settings : Settings} {chain : Chain} {path : Path}

theorem Expansion.ofFile_of_found {link : Link}
    (found : chain.find? (snapshot.identity path) = some link) :
    Expansion.ofFile snapshot settings chain path =
      [.recorded (.loop (settings.note chain) path link)] := by
  rw [Expansion.ofFile]
  split <;> simp_all

theorem Expansion.ofFile_of_unopened {fault : Fault}
    (new : chain.find? (snapshot.identity path) = none)
    (fails : snapshot.source path = .error fault) :
    Expansion.ofFile snapshot settings chain path =
      [.recorded (.unopened (settings.note chain) path fault)] := by
  rw [Expansion.ofFile]
  split
  · simp_all
  · split <;> simp_all

theorem Expansion.ofFile_of_opened {source : Source}
    (new : chain.find? (snapshot.identity path) = none)
    (opens : snapshot.source path = .ok source) :
    Expansion.ofFile snapshot settings chain path =
      (Frame.first snapshot settings chain path source).events snapshot settings := by
  rw [Expansion.ofFile]
  split
  · simp_all
  · split
    · simp_all
    · next source' opens' =>
      obtain rfl : source = source' := by simpa [opens] using opens'
      simp only [Frame.events, Frame.first, Nat.zero_add]
      rfl

theorem Expansion.sources_of_found {link : Link}
    (found : chain.find? (snapshot.identity path) = some link) :
    Expansion.sources snapshot settings chain path = [] := by
  rw [Expansion.sources]
  split <;> simp_all

theorem Expansion.sources_of_unopened {fault : Fault}
    (new : chain.find? (snapshot.identity path) = none)
    (fails : snapshot.source path = .error fault) :
    Expansion.sources snapshot settings chain path = [] := by
  rw [Expansion.sources]
  split
  · simp_all
  · split <;> simp_all

theorem Expansion.sources_of_opened {source : Source}
    (new : chain.find? (snapshot.identity path) = none)
    (opens : snapshot.source path = .ok source) :
    Expansion.sources snapshot settings chain path =
      source :: (Frame.first snapshot settings chain path source).sources snapshot settings := by
  rw [Expansion.sources]
  split
  · simp_all
  · split
    · simp_all
    · next source' opens' =>
      obtain rfl : source = source' := by simpa [opens] using opens'
      rfl

end

/-! ## Complete runs -/

section

variable (snapshot : Snapshot) (settings : Settings)

/-- The actions are all that reading the file at `path`, reached through `chain`, comes to. -/
structure Reads (chain : Chain) (path : Path) (actions : List Action) : Prop where
  /-- The small steps do them, whatever files are open. -/
  run : ∀ frames, Run snapshot settings (.entering chain path frames) actions (.reading frames)
  /-- `visit` makes of a progress what they make of it. -/
  visit_eq : ∀ {σ : Type} (handler : Handler σ) (progress : Progress σ),
    visit snapshot settings handler chain path progress = progress.replay handler actions
  /-- What is seen of them is the expansion. -/
  events : Action.events actions = Expansion.ofFile snapshot settings chain path
  /-- They open the files that the directives lead to. -/
  files : Action.filesOpened actions = (Expansion.sources snapshot settings chain path).length
  /-- They read those files to the last line. -/
  lines : Action.linesRead actions =
    ((Expansion.sources snapshot settings chain path).flatMap Source.lines).length

/-- The actions are all that reading on in an open file comes to. -/
structure Scans (frame : Frame) (actions : List Action) : Prop where
  /-- The small steps do them and close the file. -/
  run : ∀ below, Run snapshot settings (.reading (frame :: below)) actions (.reading below)
  /-- `scan` makes of a progress what they make of it. -/
  scan_eq : ∀ {σ : Type} (handler : Handler σ) (progress : Progress σ),
    scan snapshot settings handler frame.chain frame.identity frame.fault frame.location frame.lines
      progress = progress.replay handler actions
  /-- What is seen of them is the expansion. -/
  events : Action.events actions = frame.events snapshot settings
  /-- They open the files that the directives lead to. -/
  files : Action.filesOpened actions = (frame.sources snapshot settings).length
  /-- They read what is left of this file, and those files. -/
  lines : Action.linesRead actions = frame.lines.length +
    ((frame.sources snapshot settings).flatMap Source.lines).length

/-- The actions are all that the next line of an open file comes to. -/
structure ReadsLine (frame : Frame) (line : List UInt8) (actions : List Action) : Prop where
  /-- The small steps do them. -/
  run : ∀ below,
    Run snapshot settings (.reading (frame :: below)) actions (.reading (frame.past :: below))
  /-- `scan` goes on after the line with what they make of a progress. -/
  scan_eq : ∀ {σ : Type} (handler : Handler σ) (progress : Progress σ),
    scan snapshot settings handler frame.chain frame.identity frame.fault frame.location frame.lines
      progress =
    scan snapshot settings handler frame.past.chain frame.past.identity frame.past.fault
      frame.past.location frame.past.lines (progress.replay handler actions)
  /-- What is seen of them is what the line stands for. -/
  events : Action.events actions =
    frame.lineEvents snapshot settings line (frame.location.line + 1)
  /-- They open the files that the line leads to. -/
  files : Action.filesOpened actions =
    (frame.lineSources snapshot settings line (frame.location.line + 1)).length
  /-- They read the line, and those files. -/
  lines : Action.linesRead actions = 1 +
    ((frame.lineSources snapshot settings line (frame.location.line + 1)).flatMap
      Source.lines).length

end

section

variable {snapshot : Snapshot} {settings : Settings}

/-- A line, and then the rest of the file. -/
theorem Scans.cons {frame : Frame} {line : List UInt8} {rest : List (List UInt8)}
    {first more : List Action} (ahead : frame.lines = line :: rest)
    (reads : ReadsLine snapshot settings frame line first)
    (scans : Scans snapshot settings frame.past more) :
    Scans snapshot settings frame (first ++ more) where
  run below := (reads.run below).trans (scans.run below)
  scan_eq handler progress := by
    rw [reads.scan_eq, scans.scan_eq, Progress.replay_append]
  events := by
    rw [Action.events_append, reads.events, scans.events, Frame.events_of_cons ahead]
  files := by
    rw [Action.filesOpened_append, reads.files, scans.files, Frame.sources_of_cons ahead,
      List.length_append]
  lines := by
    have shorter : frame.past.lines.length + 1 = frame.lines.length := by simp [Frame.past, ahead]
    rw [Action.linesRead_append, reads.lines, scans.lines, Frame.sources_of_cons ahead,
      List.flatMap_append, List.length_append]
    omega

/-- What the next line of an open file comes to, given what the files that it may name come to. -/
theorem exists_readsLine {frame : Frame} {line : List UInt8} {rest : List (List UInt8)}
    (ahead : frame.lines = line :: rest)
    (deeper : ∀ here path, ∃ actions,
      Reads snapshot settings (frame.chain.extended here frame.identity) path actions) :
    ∃ actions, ReadsLine snapshot settings frame line actions := by
  cases means : settings.meaning (Source.lineText line) with
  | dropped =>
    refine ⟨[.lineRead], {
      run := fun below => .single (.dropped ahead means)
      scan_eq := ?_
      events := by simp [Frame.lineEvents, means]
      files := by simp [Frame.lineSources, means, Action.filesOpened]
      lines := by simp [Frame.lineSources, means, Action.linesRead] }⟩
    intro σ handler progress
    rw [ahead, scan]
    simp [means, Frame.past, ahead, Progress.act]
  | nameless =>
    refine ⟨_, {
      run := fun below => .single (.nameless ahead means)
      scan_eq := ?_
      events := by simp [Frame.lineEvents, means]
      files := by simp [Frame.lineSources, means, Action.filesOpened]
      lines := by simp [Frame.lineSources, means, Action.linesRead] }⟩
    intro σ handler progress
    rw [ahead, scan]
    simp [means, Frame.past, ahead, Progress.act]
  | directive name =>
    obtain ⟨actions, reads⟩ := deeper frame.location.next (frame.path.includedFrom ⟨name⟩)
    refine ⟨_, {
      run := fun below => .trans (.single (.followed ahead means)) (reads.run _)
      scan_eq := ?_
      events := by simpa [Frame.lineEvents, means] using reads.events
      files := by simpa [Frame.lineSources, means, Action.filesOpened] using reads.files
      lines := by
        simpa [Frame.lineSources, means, Action.linesRead, Nat.add_comm 1] using reads.lines }⟩
    intro σ handler progress
    rw [ahead, scan, Progress.replay_append, ← reads.visit_eq]
    simp [means, Frame.past, Frame.path, Location.next, ahead, Progress.act]
  | content content =>
    refine ⟨_, {
      run := fun below => .single (.delivered ahead means)
      scan_eq := ?_
      events := by simp [Frame.lineEvents, means]
      files := by simp [Frame.lineSources, means, Action.filesOpened]
      lines := by simp [Frame.lineSources, means, Action.linesRead] }⟩
    intro σ handler progress
    rw [ahead, scan]
    simp [means, Frame.past, ahead, Progress.act]

/-- What reading on in an open file comes to, given what the files that it may name come to. -/
theorem exists_scans (frame : Frame)
    (deeper : ∀ here path, ∃ actions,
      Reads snapshot settings (frame.chain.extended here frame.identity) path actions) :
    ∃ actions, Scans snapshot settings frame actions := by
  induction left : frame.lines generalizing frame with
  | nil =>
    cases failure : frame.fault with
    | none =>
      refine ⟨[], {
        run := fun below => .single (.ended left failure)
        scan_eq := ?_
        events := by simp [Frame.events, left, failure]
        files := by simp [Frame.sources, left, Action.filesOpened]
        lines := by simp [Frame.sources, left, Action.linesRead] }⟩
      intro σ handler progress
      rw [left, failure, scan]
      rfl
    | some fault =>
      refine ⟨_, {
        run := fun below => .single (.failed left failure)
        scan_eq := ?_
        events := by simp [Frame.events, left, failure]
        files := by simp [Frame.sources, left, Action.filesOpened]
        lines := by simp [Frame.sources, left, Action.linesRead] }⟩
      intro σ handler progress
      rw [left, failure, scan]
      rfl
  | cons line rest ih =>
    obtain ⟨first, reads⟩ := exists_readsLine left deeper
    have onward : frame.past.lines = rest := by simp [Frame.past, left]
    obtain ⟨more, scans⟩ := ih frame.past deeper onward
    exact ⟨first ++ more, scans.cons left reads⟩

/-- Every file comes to some list of actions. The induction is on the identities that are not in the
chain: a file that opens takes its own away. -/
theorem exists_reads (snapshot : Snapshot) (settings : Settings) (chain : Chain) (path : Path) :
    ∃ actions, Reads snapshot settings chain path actions := by
  induction measure : snapshot.remaining chain.identities using Nat.strongRecOn
    generalizing chain path with
  | ind size ih =>
    cases found : chain.find? (snapshot.identity path) with
    | some link =>
      refine ⟨_, {
        run := fun frames => .single (.loop found)
        visit_eq := ?_
        events := by
          rw [Expansion.ofFile_of_found found]
          rfl
        files := by
          rw [Expansion.sources_of_found found]
          rfl
        lines := by
          rw [Expansion.sources_of_found found]
          rfl }⟩
      intro σ handler progress
      rw [visit]
      split <;> simp_all [Progress.act]
    | none =>
      cases content : snapshot.source path with
      | error fault =>
        refine ⟨_, {
          run := fun frames => .single (.unopened found content)
          visit_eq := ?_
          events := by
            rw [Expansion.ofFile_of_unopened found content]
            rfl
          files := by
            rw [Expansion.sources_of_unopened found content]
            rfl
          lines := by
            rw [Expansion.sources_of_unopened found content]
            rfl }⟩
        intro σ handler progress
        rw [visit]
        split
        · simp_all
        · split <;> simp_all [Progress.act]
      | ok source =>
        have fresh := Chain.find?_eq_none_iff.1 found
        have smaller := Snapshot.remaining_lt content fresh
        have deeper : ∀ here path', ∃ actions, Reads snapshot settings
            (chain.extended here (snapshot.identity path)) path' actions := by
          intro here path'
          apply ih _ _ _ _ rfl
          rw [← measure, Chain.identities_extended]
          exact smaller
        obtain ⟨actions, scans⟩ :=
          exists_scans (.first snapshot settings chain path source) deeper
        refine ⟨.opened (settings.note chain) path :: actions, {
          run := fun frames => .trans (.single (.opened found content)) (scans.run frames)
          visit_eq := ?_
          events := ?_
          files := ?_
          lines := ?_ }⟩
        · intro σ handler progress
          rw [visit]
          split
          · simp_all
          · split
            · simp_all
            · next source' opens =>
              obtain rfl : source = source' := by simpa [content] using opens
              exact scans.scan_eq handler (progress.opened (settings.note chain) path)
        · rw [Expansion.ofFile_of_opened found content, ← scans.events]
          rfl
        · rw [Expansion.sources_of_opened found content, List.length_cons, ← scans.files]
          exact List.countP_cons_of_pos rfl
        · rw [Expansion.sources_of_opened found content, List.flatMap_cons, List.length_append]
          exact scans.lines

end

/-! ## Whole parses -/

/-- A handler that answers like `handler`, and keeps the calls that it gets. -/
def Handler.logged {σ : Type} (handler : Handler σ) : Handler (σ × List (Text × Location)) where
  deliver state line location :=
    let (next, refusal) := handler.deliver state.1 line location
    ((next, state.2 ++ [(line, location)]), refusal)

/-- The log is what has been delivered, and the handler fares as without it. -/
theorem Handler.after_logged {σ : Type} (handler : Handler σ) (state : σ)
    (log lines : List (Text × Location)) :
    handler.logged.after (state, log) lines = (handler.after state lines, log ++ lines) := by
  induction lines generalizing state log with
  | nil => simp [after]
  | cons call rest ih =>
    have onward := ih (handler.deliver state call.1 call.2).1 (log ++ [call])
    simpa [after, logged] using onward

section

variable (snapshot : Snapshot) (settings : Settings)

/-- The calls that a parse makes to its handler, in order. -/
def calls {σ : Type} (handler : Handler σ) (homes : Homes) (root : Path) (state : σ) :
    List (Text × Location) :=
  (parse snapshot settings handler.logged homes root (state, [])).state.2

/-- The actions are all that parsing the file named `root` comes to. -/
structure Parses (homes : Homes) (root : Path) (actions : List Action) : Prop where
  /-- The small steps do them. -/
  run : ∀ path, homes.resolve root = .ok path →
    Run snapshot settings (.entering {} path []) actions (.reading [])
  /-- `parse` makes of a state what they make of it. -/
  parse_eq : ∀ {σ : Type} (handler : Handler σ) (state : σ),
    parse snapshot settings handler homes root state =
      ({ state } : Progress σ).replay handler actions
  /-- What is seen of them is the expansion. -/
  events : Action.events actions = Expansion.ofRoot snapshot settings homes root
  /-- They open and read the files that the directives lead to. -/
  tally : ⟨Action.filesOpened actions, Action.linesRead actions,
    (Event.deliveries (Action.events actions)).length⟩ =
      Expansion.tally snapshot settings homes root

end

section

variable {snapshot : Snapshot} {settings : Settings}

/-- Every parse comes to some list of actions. -/
theorem exists_parses (snapshot : Snapshot) (settings : Settings) (homes : Homes) (root : Path) :
    ∃ actions, Parses snapshot settings homes root actions := by
  cases resolved : homes.resolve root with
  | ok path =>
    obtain ⟨actions, reads⟩ := exists_reads snapshot settings {} path
    have seen : Action.events actions = Expansion.ofRoot snapshot settings homes root := by
      simpa [Expansion.ofRoot, resolved] using reads.events
    refine ⟨actions, {
      run := ?_
      parse_eq := ?_
      events := seen
      tally := by simp [Expansion.tally, resolved, reads.files, reads.lines, seen] }⟩
    · intro path' resolved'
      obtain rfl : path = path' := by simpa [resolved] using resolved'
      exact reads.run []
    · intro σ handler state
      simpa [parse, resolved] using reads.visit_eq handler { state }
  | error cause =>
    refine ⟨[.recorded (.unexpanded (settings.note {}) root.text cause)], {
      run := by simp [resolved]
      parse_eq := ?_
      events := by simp [Expansion.ofRoot, resolved]
      tally := by
        simp [Expansion.tally, Expansion.ofRoot, resolved, Action.filesOpened,
          Action.linesRead] }⟩
    intro σ handler state
    simp [parse, resolved, Progress.act]

/-- The problems that a parse leaves. -/
theorem Parses.problems_eq {σ : Type} {homes : Homes} {root : Path} {actions : List Action}
    (parses : Parses snapshot settings homes root actions) (handler : Handler σ) (state : σ) :
    (parse snapshot settings handler homes root state).problems.toList =
      Event.problems handler state (Action.events actions) := by
  rw [parses.parse_eq, Progress.problems_replay]
  rfl

/-- So they are those that the expansion comes to. -/
theorem problems_parse {σ : Type} (handler : Handler σ) (homes : Homes) (root : Path) (state : σ) :
    (parse snapshot settings handler homes root state).problems.toList =
      Event.problems handler state (Expansion.ofRoot snapshot settings homes root) := by
  obtain ⟨actions, parses⟩ := exists_parses snapshot settings homes root
  rw [parses.problems_eq, parses.events]

/-- The state that a parse leaves its handler in. -/
theorem state_parse {σ : Type} (handler : Handler σ) (homes : Homes) (root : Path) (state : σ) :
    (parse snapshot settings handler homes root state).state =
      handler.after state (Event.deliveries (Expansion.ofRoot snapshot settings homes root)) := by
  obtain ⟨actions, parses⟩ := exists_parses snapshot settings homes root
  rw [parses.parse_eq, Progress.state_replay, parses.events]

/-- The calls of a parse are the deliveries of the expansion. -/
theorem calls_eq {σ : Type} (handler : Handler σ) (homes : Homes) (root : Path) (state : σ) :
    calls snapshot settings handler homes root state =
      Event.deliveries (Expansion.ofRoot snapshot settings homes root) := by
  rw [calls, state_parse, Handler.after_logged, List.nil_append]

/-- A parse is the expansion of its root, put to work: the handler is called once for every
delivery, in order, each time in the state that the calls before it have led to; the problems are
those of the expansion, with each refusal where its delivery stands; and the counters are those of
the expansion. -/
theorem parse_agrees {σ : Type} (snapshot : Snapshot) (settings : Settings) (handler : Handler σ)
    (homes : Homes) (root : Path) (state : σ) :
    let events := Expansion.ofRoot snapshot settings homes root
    let progress := parse snapshot settings handler homes root state
    calls snapshot settings handler homes root state = Event.deliveries events ∧
      progress.state = handler.after state (Event.deliveries events) ∧
      progress.problems.toList = Event.problems handler state events ∧
      progress.tally = Expansion.tally snapshot settings homes root := by
  intro events progress
  obtain ⟨actions, parses⟩ := exists_parses snapshot settings homes root
  refine ⟨calls_eq handler homes root state, state_parse handler homes root state, ?_, ?_⟩
  · rw [parses.problems_eq, parses.events]
  · have replayed := Progress.tally_replay handler { state } actions
    rw [← parses.parse_eq] at replayed
    rw [← parses.tally]
    simpa using replayed

end

end Splice
