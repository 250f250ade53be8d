import Splice.Proofs.Independence

/-!
# Accounting

How the counters and the problems of a parse add up. Every line that is read comes to one thing: it
is dropped, delivered, or a directive, and a directive opens a file or is answered by one problem.
The name of the root is asked for like a directive that no line holds, hence the one in the balance
(`parse_accounted`).

The balance holds of every file, whatever led to it. It is shown for the expansion, line by line,
by induction on how deep files can nest.
-/

namespace Splice

/-- Whether a line is read and then dropped. -/
def Settings.drops (settings : Settings) (line : List UInt8) : Bool :=
  settings.stripComment (Source.lineText line) = [] && !settings.keepBlankLines

/-- A line is dropped when that is what it means. -/
theorem Settings.drops_iff {settings : Settings} {line : List UInt8} :
    settings.drops line = true ↔ settings.meaning (Source.lineText line) = .dropped := by
  rw [Settings.meaning_eq_dropped_iff]
  simp [drops]

/-- A line that means anything else is kept. -/
theorem Settings.drops_eq_false {settings : Settings} {line : List UInt8}
    (means : settings.meaning (Source.lineText line) ≠ .dropped) : settings.drops line = false := by
  rwa [← Bool.not_eq_true, Settings.drops_iff]

/-- Whether a problem is what has become of a directive, or of the root. -/
def Problem.isOutcome (problem : Problem) : Bool :=
  match problem.kind with
  | .unexpanded | .loop | .unopened | .nameless => true
  | .refused | .unreadable => false

namespace Event

/-- How many lines the events account for: those delivered, and those that came to a problem. -/
def outcomes (events : List Event) : Nat :=
  (deliveries events).length + (recordings events).countP Problem.isOutcome

/-- How often the events report that a file could not be read to its end. -/
def failures (events : List Event) : Nat :=
  (recordings events).countP (·.kind = .unreadable)

@[simp] theorem outcomes_nil : outcomes [] = 0 := rfl

@[simp] theorem failures_nil : failures [] = 0 := rfl

@[simp] theorem outcomes_append (first rest : List Event) :
    outcomes (first ++ rest) = outcomes first + outcomes rest := by
  simp only [outcomes, deliveries_append, recordings_append, List.length_append,
    List.countP_append]
  omega

@[simp] theorem failures_append (first rest : List Event) :
    failures (first ++ rest) = failures first + failures rest := by
  simp [failures]

/-- A failure to read is no outcome of a line, and there is one at most. -/
theorem outcomes_unreadable (location : Location) (fault : Option Fault) :
    outcomes (fault.toList.map fun fault => .recorded (.unreadable location fault)) = 0 ∧
      failures (fault.toList.map fun fault => .recorded (.unreadable location fault)) ≤ 1 := by
  cases fault <;> simp [outcomes, failures, Problem.isOutcome, Problem.kind]

end Event

/-! ## One file -/

/-- The lines of all the given files. -/
def Source.allLines (opened : List Source) : List (List UInt8) :=
  opened.flatMap Source.lines

@[simp] theorem Source.allLines_nil : Source.allLines [] = [] := rfl

@[simp] theorem Source.allLines_cons (source : Source) (rest : List Source) :
    Source.allLines (source :: rest) = source.lines ++ Source.allLines rest := rfl

@[simp] theorem Source.allLines_append (first rest : List Source) :
    Source.allLines (first ++ rest) = Source.allLines first ++ Source.allLines rest :=
  List.flatMap_append

/-- What a file comes to adds up: the files that are opened for it, with their lines, against the
events that are seen of it. -/
structure Balanced (settings : Settings) (opened : List Source) (events : List Event) : Prop where
  /-- Every line, and the request for the file itself, comes to one thing. -/
  outcomes : (Source.allLines opened).length + 1 =
    Event.outcomes events + (Source.allLines opened).countP settings.drops + opened.length
  /-- Every failure is that of a file that was opened. -/
  failures : Event.failures events ≤ opened.length

/-- What some lines of an open file come to adds up, likewise. Nothing was asked for but by the
lines themselves. -/
structure LinesBalanced (settings : Settings) (lines : List (List UInt8)) (opened : List Source)
    (events : List Event) : Prop where
  /-- Each of the lines, and each line of the files that they lead to, comes to one thing. -/
  outcomes : lines.length + (Source.allLines opened).length =
    Event.outcomes events + lines.countP settings.drops +
      (Source.allLines opened).countP settings.drops + opened.length
  /-- Every failure is that of a file that was opened. -/
  failures : Event.failures events ≤ opened.length

/-- No lines come to nothing. -/
theorem LinesBalanced.nil {settings : Settings} : LinesBalanced settings [] [] [] where
  outcomes := rfl
  failures := Nat.le_refl 0

/-- Lines and then more lines add up if both do. -/
theorem LinesBalanced.append {settings : Settings} {lines more : List (List UInt8)}
    {opened others : List Source} {events later : List Event}
    (first : LinesBalanced settings lines opened events)
    (second : LinesBalanced settings more others later) :
    LinesBalanced settings (lines ++ more) (opened ++ others) (events ++ later) where
  outcomes := by
    have one := first.outcomes
    have two := second.outcomes
    simp only [Source.allLines_append, List.length_append, List.countP_append,
      Event.outcomes_append]
    omega
  failures := by
    have one := first.failures
    have two := second.failures
    rw [Event.failures_append, List.length_append]
    omega

section

variable {snapshot : Snapshot} {settings : Settings}

@[simp] theorem Frame.lines_first (chain : Chain) (path : Path) (source : Source) :
    (Frame.first snapshot settings chain path source).lines = source.lines := rfl

/-- One line adds up if the files that it may lead to do. -/
theorem Frame.line_balanced {frame : Frame}
    (deeper : ∀ here target, Balanced settings
      (Expansion.sources snapshot settings (frame.chain.extended here frame.identity) target)
      (Expansion.ofFile snapshot settings (frame.chain.extended here frame.identity) target))
    (line : List UInt8) (number : Nat) :
    LinesBalanced settings [line] (frame.lineSources snapshot settings line number)
      (frame.lineEvents snapshot settings line number) := by
  cases means : settings.meaning (Source.lineText line) with
  | dropped =>
    have dropped := Settings.drops_iff.2 means
    constructor <;> simp [lineEvents, lineSources, means, dropped]
  | nameless =>
    have kept : settings.drops line = false := Settings.drops_eq_false (by simp [means])
    constructor <;>
      simp [lineEvents, lineSources, means, kept, Event.outcomes, Event.failures,
        Problem.isOutcome, Problem.kind]
  | directive name =>
    have kept : settings.drops line = false := Settings.drops_eq_false (by simp [means])
    have nested := deeper (frame.lineAt number) (frame.path.includedFrom ⟨name⟩)
    constructor
    · simpa [lineEvents, lineSources, means, kept, Nat.add_comm 1] using nested.outcomes
    · simpa [lineEvents, lineSources, means] using nested.failures
  | content content =>
    have kept : settings.drops line = false := Settings.drops_eq_false (by simp [means])
    constructor <;> simp [lineEvents, lineSources, means, kept, Event.outcomes, Event.failures]

/-- All lines of an open file add up if the files that they may lead to do. -/
theorem Frame.lines_balanced {frame : Frame}
    (deeper : ∀ here target, Balanced settings
      (Expansion.sources snapshot settings (frame.chain.extended here frame.identity) target)
      (Expansion.ofFile snapshot settings (frame.chain.extended here frame.identity) target))
    (lines : List (List UInt8)) (number : Nat) :
    LinesBalanced settings lines
      ((lines.zipIdx number).flatMap
        fun (line, number) => frame.lineSources snapshot settings line number)
      ((lines.zipIdx number).flatMap
        fun (line, number) => frame.lineEvents snapshot settings line number) := by
  induction lines generalizing number with
  | nil => exact .nil
  | cons line rest ih => exact (frame.line_balanced deeper line number).append (ih (number + 1))

/-- What has not been read of an open file adds up if the files that it may lead to do. -/
theorem Frame.rest_balanced {frame : Frame}
    (deeper : ∀ here target, Balanced settings
      (Expansion.sources snapshot settings (frame.chain.extended here frame.identity) target)
      (Expansion.ofFile snapshot settings (frame.chain.extended here frame.identity) target)) :
    frame.lines.length + (Source.allLines (frame.sources snapshot settings)).length =
        Event.outcomes (frame.events snapshot settings) + frame.lines.countP settings.drops +
          (Source.allLines (frame.sources snapshot settings)).countP settings.drops +
          (frame.sources snapshot settings).length ∧
      Event.failures (frame.events snapshot settings) ≤
        (frame.sources snapshot settings).length + 1 := by
  let last := frame.lineAt (frame.location.line + frame.lines.length + 1)
  obtain ⟨seen, lines, events⟩ : ∃ seen,
      LinesBalanced settings frame.lines (frame.sources snapshot settings) seen ∧
        frame.events snapshot settings =
          seen ++ frame.fault.toList.map fun fault => .recorded (.unreadable last fault) :=
    ⟨_, frame.lines_balanced deeper frame.lines (frame.location.line + 1), rfl⟩
  have failed := Event.outcomes_unreadable last frame.fault
  have outcomes := lines.outcomes
  have failures := lines.failures
  rw [events, Event.outcomes_append, Event.failures_append, failed.1]
  omega

/-- A file adds up, however it was reached. -/
theorem Expansion.balanced (snapshot : Snapshot) (settings : Settings) (chain : Chain)
    (path : Path) :
    Balanced settings (sources snapshot settings chain path)
      (ofFile snapshot settings chain path) := by
  induction chain, path using Expansion.induction snapshot with
  | found chain path link isOpen =>
    rw [sources_of_found isOpen, ofFile_of_found isOpen]
    constructor <;> simp [Event.outcomes, Event.failures, Problem.isOutcome, Problem.kind]
  | unopened chain path fault new fails =>
    rw [sources_of_unopened new fails, ofFile_of_unopened new fails]
    constructor <;> simp [Event.outcomes, Event.failures, Problem.isOutcome, Problem.kind]
  | opened chain path source new opens deeper =>
    rw [sources_of_opened new opens, ofFile_of_opened new opens]
    obtain ⟨outcomes, failures⟩ :=
      (Frame.first snapshot settings chain path source).rest_balanced deeper
    rw [Frame.lines_first] at outcomes
    constructor
    · rw [Source.allLines_cons, List.length_append, List.countP_append, List.length_cons]
      omega
    · rw [List.length_cons]
      omega

/-! ## Whole parses -/

/-- The files that a parse opens. -/
def Expansion.opened (snapshot : Snapshot) (settings : Settings) (homes : Homes) (root : Path) :
    List Source :=
  match homes.resolve root with
  | .ok path => sources snapshot settings {} path
  | .error _ => []

/-- The lines that a parse reads: all lines of the files that it opens. -/
def Expansion.linesRead (snapshot : Snapshot) (settings : Settings) (homes : Homes) (root : Path) :
    List (List UInt8) :=
  Source.allLines (opened snapshot settings homes root)

/-- How many problems of a kind have been recorded. -/
def Progress.count {σ : Type} (progress : Progress σ) (kind : Problem.Kind) : Nat :=
  progress.problems.toList.countP (·.kind = kind)

/-- How a parse that reads the lines `read` and makes the calls `calls` adds up. -/
structure Accounted {σ : Type} (settings : Settings) (read : List (List UInt8))
    (calls : List (Text × Location)) (progress : Progress σ) : Prop where
  /-- The lines that are counted are those that are read. -/
  linesRead_eq : progress.tally.linesRead = read.length
  /-- Each line that is read, and the root, comes to one thing: it is delivered, it is dropped
  because nothing is left of it, it names no file, it opens one, it leads back into an open one, or
  what it names does not open; a root may also have no path. -/
  balance : progress.tally.linesRead + 1 =
    progress.tally.linesParsed + read.countP settings.drops + progress.count .nameless +
      progress.tally.filesVisited + progress.count .loop + progress.count .unopened +
      progress.count .unexpanded
  /-- Nothing is dropped where blank lines are kept. -/
  none_dropped : settings.keepBlankLines = true → read.countP settings.drops = 0
  /-- Every call of the handler is counted. -/
  linesParsed_eq : progress.tally.linesParsed = calls.length
  /-- No line is refused more than once. -/
  refused_le : progress.count .refused ≤ progress.tally.linesParsed
  /-- No file fails more than once. -/
  unreadable_le : progress.count .unreadable ≤ progress.tally.filesVisited
  /-- Where no file opens, nothing is read, and the root's is the only problem. -/
  of_unvisited : progress.tally.filesVisited = 0 →
    progress.tally.linesRead = 0 ∧ ∃ problem, progress.problems.toList = [problem] ∧
      (problem.kind = .unopened ∨ problem.kind = .unexpanded)

/-- Outcomes are counted kind by kind. -/
theorem Problem.countP_isOutcome (problems : List Problem) :
    problems.countP Problem.isOutcome =
      problems.countP (·.kind = .nameless) + problems.countP (·.kind = .loop) +
        problems.countP (·.kind = .unopened) + problems.countP (·.kind = .unexpanded) := by
  induction problems with
  | nil => rfl
  | cons problem rest ih =>
    cases same : problem.kind <;> simp [Problem.isOutcome, same, ih] <;> omega

/-- The whole of a parse adds up. -/
theorem Expansion.root_balanced (homes : Homes) (root : Path) :
    Balanced settings (opened snapshot settings homes root)
      (ofRoot snapshot settings homes root) := by
  cases resolved : homes.resolve root with
  | ok path => simpa [opened, ofRoot, resolved] using balanced snapshot settings {} path
  | error cause =>
    constructor <;>
      simp [opened, ofRoot, resolved, Event.outcomes, Event.failures, Problem.isOutcome,
        Problem.kind]

/-- The root opens, and its lines come to what they come to; or it does not, and there is one
problem, which is the root's. -/
theorem Expansion.root_opens_or_fails (snapshot : Snapshot) (settings : Settings) (homes : Homes)
    (root : Path) :
    (∃ path source, homes.resolve root = .ok path ∧ snapshot.source path = .ok source ∧
      opened snapshot settings homes root =
        source :: (Frame.first snapshot settings {} path source).sources snapshot settings ∧
      ofRoot snapshot settings homes root =
        (Frame.first snapshot settings {} path source).events snapshot settings) ∨
    (opened snapshot settings homes root = [] ∧
      ∃ problem, ofRoot snapshot settings homes root = [.recorded problem] ∧
        (problem.kind = .unopened ∨ problem.kind = .unexpanded)) := by
  cases resolved : homes.resolve root with
  | error cause =>
    right
    refine ⟨?_, .unexpanded (settings.note {}) root.text cause, ?_, .inr rfl⟩
    · simp only [opened, resolved]
    · simp only [ofRoot, resolved]
  | ok path =>
    have new : ({} : Chain).find? (snapshot.identity path) = none := rfl
    cases content : snapshot.source path with
    | error fault =>
      right
      refine ⟨?_, .unopened (settings.note {}) path fault, ?_, .inl rfl⟩
      · simp only [opened, resolved, sources_of_unopened new content]
      · simp only [ofRoot, resolved, ofFile_of_unopened new content]
    | ok source =>
      left
      refine ⟨path, source, rfl, content, ?_, ?_⟩
      · simp only [opened, resolved, sources_of_opened new content]
      · simp only [ofRoot, resolved, ofFile_of_opened new content]

/-- So where no file opens, there is one problem. -/
theorem Expansion.ofRoot_of_unvisited {homes : Homes} {root : Path}
    (unvisited : opened snapshot settings homes root = []) :
    ∃ problem, ofRoot snapshot settings homes root = [.recorded problem] ∧
      (problem.kind = .unopened ∨ problem.kind = .unexpanded) := by
  obtain ⟨_, _, -, -, opens, -⟩ | ⟨-, fails⟩ := root_opens_or_fails snapshot settings homes root
  · rw [unvisited] at opens
    cases opens
  · exact fails

/-- Problems other than refusals are counted as the expansion records them. -/
theorem count_parse {σ : Type} (handler : Handler σ) (homes : Homes) (root : Path) (state : σ)
    {kind : Problem.Kind} (other : kind ≠ .refused) :
    (parse snapshot settings handler homes root state).count kind =
      (Event.recordings (Expansion.ofRoot snapshot settings homes root)).countP
        (·.kind = kind) := by
  rw [← filter_problems_parse_ne_refused homes root handler state, List.countP_filter]
  refine List.countP_congr fun problem _ => ?_
  simp only [decide_eq_true_eq, Bool.and_eq_true]
  exact ⟨fun same => ⟨same, same ▸ other⟩, And.left⟩

/-- The counters of a parse and its problems add up. -/
theorem parse_accounted {σ : Type} (snapshot : Snapshot) (settings : Settings)
    (handler : Handler σ) (homes : Homes) (root : Path) (state : σ) :
    Accounted settings (Expansion.linesRead snapshot settings homes root)
      (calls snapshot settings handler homes root state)
      (parse snapshot settings handler homes root state) := by
  let progress := parse snapshot settings handler homes root state
  let opened := Expansion.opened snapshot settings homes root
  let events := Expansion.ofRoot snapshot settings homes root
  have read : Expansion.linesRead snapshot settings homes root = Source.allLines opened := rfl
  have balanced : Balanced settings opened events := Expansion.root_balanced homes root
  have tally : progress.tally = Expansion.tally snapshot settings homes root :=
    tally_parse homes root handler state
  have files : progress.tally.filesVisited = opened.length := congrArg Tally.filesVisited tally
  have lines : progress.tally.linesRead = (Source.allLines opened).length :=
    congrArg Tally.linesRead tally
  have parsed : progress.tally.linesParsed = (Event.deliveries events).length :=
    congrArg Tally.linesParsed tally
  have count (kind : Problem.Kind) (other : kind ≠ .refused) :
      progress.count kind = (Event.recordings events).countP (·.kind = kind) :=
    count_parse handler homes root state other
  exact {
    linesRead_eq := lines
    balance := by
      have outcomes := balanced.outcomes
      rw [Event.outcomes, Problem.countP_isOutcome] at outcomes
      rw [lines, parsed, files, count .nameless (by decide), count .loop (by decide),
        count .unopened (by decide), count .unexpanded (by decide), read]
      omega
    none_dropped := by
      intro keep
      exact List.countP_eq_zero.2 fun line _ => by simp [Settings.drops, keep]
    linesParsed_eq := by rw [parsed, calls_eq]
    refused_le := by
      rw [Progress.count, List.countP_eq_length_filter,
        filter_problems_parse_eq_refused homes root handler state, parsed, ← calls_eq handler]
      exact handler.length_refusals_le _ _
    unreadable_le := by
      rw [count .unreadable (by decide), files]
      exact balanced.failures
    of_unvisited := by
      intro unvisited
      have none : opened = [] := List.length_eq_zero_iff.1 (files.symm.trans unvisited)
      obtain ⟨problem, only, kind⟩ := Expansion.ofRoot_of_unvisited none
      obtain ⟨all, parses⟩ := exists_parses snapshot settings homes root
      refine ⟨by rw [lines, none]; rfl, problem, ?_, kind⟩
      rw [parses.problems_eq, parses.events, only]
      rfl }

end

end Splice
