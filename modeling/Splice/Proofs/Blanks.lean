import Splice.Proofs.Origin
import Splice.Proofs.Accounting
import Splice.Proofs.Stepping

/-!
# Blank lines

To keep blank lines is to add them and nothing else. A parse that drops them makes the calls that
are left of the other parse's when those of empty lines are left out, reads the same files and
lines, and leaves the same problems but for refusals of empty lines (`blanks_only_added`).

The two parses are compared in their expansions. Which refusals are of empty lines can be told from
their locations, as lines at one location are the same line.
-/

namespace Splice

/-! ## The meaning of a line -/

namespace Settings

/-- The settings with blank lines kept or dropped. -/
def keeping (settings : Settings) (keep : Bool) : Settings :=
  { settings with keepBlankLines := keep }

variable {settings : Settings} {text : Text}

@[simp] theorem note_keeping (keep : Bool) (chain : Chain) :
    (settings.keeping keep).note chain = settings.note chain := rfl

@[simp] theorem stripComment_keeping (keep : Bool) (text : Text) :
    (settings.keeping keep).stripComment text = settings.stripComment text := rfl

@[simp] theorem target?_keeping (keep : Bool) (text : Text) :
    (settings.keeping keep).target? text = settings.target? text := rfl

/-- A blank line is dropped, or it is delivered as an empty one. -/
theorem meaning_of_blank (blank : settings.stripComment text = []) :
    (settings.keeping false).meaning text = .dropped ∧
      (settings.keeping true).meaning text = .content [] := by
  constructor
  · exact meaning_eq_dropped_iff.2 ⟨blank, rfl⟩
  · refine meaning_eq_content_iff.2 ⟨blank.symm, ?_, fun _ => rfl⟩
    rw [stripComment_keeping, blank, target?_nil]

/-- Any other line means the same. -/
theorem meaning_of_full (full : settings.stripComment text ≠ []) :
    (settings.keeping false).meaning text = (settings.keeping true).meaning text := by
  simp only [meaning, stripComment_keeping, full, false_and, ↓reduceIte, target?_keeping]

end Settings

/-! ## What a file comes to -/

/-- Whether an empty line is delivered. -/
def Event.isBlank : Event → Bool
  | .delivered line _ => line = []
  | .recorded _ => false

@[simp] theorem Event.isBlank_delivered (line : Text) (location : Location) :
    (delivered line location).isBlank = decide (line = []) := rfl

@[simp] theorem Event.isBlank_recorded (problem : Problem) :
    (recorded problem).isBlank = false := rfl

section

variable {snapshot : Snapshot} {settings : Settings}

/-- Without the empty lines that a file delivers if they are kept, it comes to what it comes to if
they are dropped. The same files are opened. -/
structure SameButBlanks (snapshot : Snapshot) (settings : Settings) (chain : Chain) (path : Path) :
    Prop where
  events_eq : Expansion.ofFile snapshot (settings.keeping false) chain path =
    (Expansion.ofFile snapshot (settings.keeping true) chain path).filter (!·.isBlank)
  sources_eq : Expansion.sources snapshot (settings.keeping false) chain path =
    Expansion.sources snapshot (settings.keeping true) chain path

/-- So does a line if the files that it may lead to do. -/
theorem Frame.line_sameButBlanks {frame : Frame}
    (deeper : ∀ here target,
      SameButBlanks snapshot settings (frame.chain.extended here frame.identity) target)
    (line : List UInt8) (number : Nat) :
    frame.lineEvents snapshot (settings.keeping false) line number =
        (frame.lineEvents snapshot (settings.keeping true) line number).filter (!·.isBlank) ∧
      frame.lineSources snapshot (settings.keeping false) line number =
        frame.lineSources snapshot (settings.keeping true) line number := by
  by_cases blank : settings.stripComment (Source.lineText line) = []
  · obtain ⟨dropped, kept⟩ := Settings.meaning_of_blank blank
    simp [lineEvents, lineSources, dropped, kept]
  · have same := Settings.meaning_of_full blank
    unfold lineEvents lineSources
    rw [same]
    cases means : (settings.keeping true).meaning (Source.lineText line) with
    | dropped => exact ⟨rfl, rfl⟩
    | nameless => exact ⟨rfl, rfl⟩
    | directive name => exact ⟨(deeper _ _).events_eq, (deeper _ _).sources_eq⟩
    | content text =>
      obtain ⟨rfl, -⟩ := Settings.meaning_eq_content_iff.1 means
      simp [blank]

/-- However a file was reached, keeping its blank lines adds them and nothing else. -/
theorem Expansion.sameButBlanks (snapshot : Snapshot) (settings : Settings) (chain : Chain)
    (path : Path) : SameButBlanks snapshot settings chain path := by
  induction chain, path using Expansion.induction snapshot with
  | found chain path link isOpen =>
    constructor
    · rw [ofFile_of_found isOpen, ofFile_of_found isOpen]
      rfl
    · rw [sources_of_found isOpen, sources_of_found isOpen]
  | unopened chain path fault new fails =>
    constructor
    · rw [ofFile_of_unopened new fails, ofFile_of_unopened new fails]
      rfl
    · rw [sources_of_unopened new fails, sources_of_unopened new fails]
  | opened chain path source new opens deeper =>
    let frame := Frame.first snapshot settings chain path source
    have line := frame.line_sameButBlanks deeper
    constructor
    · have failure : (frame.fault.toList.map fun fault => Event.recorded (.unreadable
          (frame.lineAt (frame.location.line + frame.lines.length + 1)) fault)).filter
            (!·.isBlank) = _ := List.filter_eq_self.2 fun event isIn => by
        obtain ⟨fault, -, rfl⟩ := List.mem_map.1 isIn
        rfl
      rw [ofFile_of_opened new opens, ofFile_of_opened new opens]
      change frame.events snapshot (settings.keeping false) =
        (frame.events snapshot (settings.keeping true)).filter (!·.isBlank)
      rw [Frame.events, Frame.events, List.filter_append, failure, List.filter_flatMap]
      simp only [line]
    · rw [sources_of_opened new opens, sources_of_opened new opens]
      change source :: frame.sources snapshot (settings.keeping false) =
        source :: frame.sources snapshot (settings.keeping true)
      simp only [Frame.sources, line]

/-- So does a root. -/
theorem Expansion.ofRoot_keeping (homes : Homes) (root : Path) :
    ofRoot snapshot (settings.keeping false) homes root =
      (ofRoot snapshot (settings.keeping true) homes root).filter (!·.isBlank) := by
  unfold ofRoot
  cases homes.resolve root with
  | ok path => exact (sameButBlanks snapshot settings {} path).events_eq
  | error cause => rfl

/-- The files that are opened are the same, and so are their lines. -/
theorem Expansion.tally_keeping (snapshot : Snapshot) (settings : Settings) (homes : Homes)
    (root : Path) :
    (tally snapshot (settings.keeping false) homes root).filesVisited =
        (tally snapshot (settings.keeping true) homes root).filesVisited ∧
      (tally snapshot (settings.keeping false) homes root).linesRead =
        (tally snapshot (settings.keeping true) homes root).linesRead := by
  unfold tally
  cases homes.resolve root with
  | ok path => simp only [(sameButBlanks snapshot settings {} path).sources_eq, and_self]
  | error cause => exact ⟨rfl, rfl⟩

end

/-! ## What a handler makes of it -/

/-- A handler answers by the line and its location alone. Its state may still change. -/
def Handler.Steady {σ : Type} (handler : Handler σ) : Prop :=
  ∀ one other line location,
    (handler.deliver one line location).2 = (handler.deliver other line location).2

/-- The problem that an event is, or comes to if its line is refused. -/
def Event.problem? (answer : Text → Location → Option Refusal) : Event → Option Problem
  | .delivered line location => (answer line location).map (.refused location)
  | .recorded problem => some problem

/-- The problems that events come to are found one by one if the handler is steady. -/
theorem Event.problems_of_steady {σ : Type} {handler : Handler σ} (steady : handler.Steady)
    (start state : σ) (events : List Event) :
    problems handler state events =
      events.filterMap (problem? fun line location => (handler.deliver start line location).2) := by
  induction events generalizing state with
  | nil => rfl
  | cons event rest ih =>
    cases event with
    | delivered line location =>
      rw [problems_delivered, ih, steady state start, List.filterMap_cons, problem?]
      cases (handler.deliver start line location).2 <;> rfl
    | recorded problem => exact congrArg (problem :: ·) (ih state)

/-- Whether a problem is the refusal of an empty line, when the handler is given certain lines. -/
def Problem.refusesBlank (given : List (Text × Location)) : Problem → Bool
  | .refused location _ => ([], location) ∈ given
  | _ => false

/-- Of a delivery, the refusal is left out where the location is that of an empty line. -/
theorem Event.filter_problem?_delivered (answer : Text → Location → Option Refusal)
    (given : List (Text × Location)) (line : Text) (location : Location) :
    ((delivered line location).problem? answer).filter (!·.refusesBlank given) =
      if ([], location) ∈ given then none else (delivered line location).problem? answer := by
  rw [problem?]
  cases answer line location with
  | none => simp
  | some cause => by_cases blank : ([], location) ∈ given <;> simp [Problem.refusesBlank, blank]

/-- Other problems are left in. -/
theorem Problem.refusesBlank_eq_false {problem : Problem} (other : problem.kind ≠ .refused)
    (given : List (Text × Location)) : problem.refusesBlank given = false := by
  cases problem with
  | refused location cause => exact absurd rfl other
  | _ => rfl

/-- Deliveries without the empty ones are those of the events without the blank ones. -/
theorem Event.deliveries_filter_isBlank (events : List Event) :
    deliveries (events.filter (!·.isBlank)) = (deliveries events).filter (·.1 ≠ []) := by
  induction events with
  | nil => rfl
  | cons event rest ih =>
    cases event with
    | delivered line location =>
      by_cases empty : line = [] <;> simpa [empty] using ih
    | recorded problem => simpa using ih

/-! ## Whole parses -/

section

variable {snapshot : Snapshot} {settings : Settings}

/-- Lines that are given at one location are the same. -/
theorem eq_of_mem_calls {σ : Type} {handler : Handler σ} {homes : Homes} {root : Path} {state : σ}
    {line other : Text} {location : Location}
    (call : (line, location) ∈ calls snapshot settings handler homes root state)
    (call' : (other, location) ∈ calls snapshot settings handler homes root state) :
    line = other := by
  obtain ⟨all, parses⟩ := exists_parses snapshot settings homes root
  have told {line : Text} (call : (line, location) ∈ calls snapshot settings handler homes root
      state) := (parses.delivered_true ((parses.mem_calls_iff handler state).1 call)).2.2
  obtain ⟨read, ⟨source, opens, isLine⟩, rfl⟩ := told call
  obtain ⟨read', ⟨source', opens', isLine'⟩, rfl⟩ := told call'
  obtain rfl : source = source' := Except.ok.inj (opens.symm.trans opens')
  obtain rfl : read = read' := Option.some.inj (isLine.symm.trans isLine')
  rfl

variable {σ : Type} (handler : Handler σ) (homes : Homes) (root : Path) (state : σ)

/-- Every call of a parse is counted. -/
theorem linesParsed_parse :
    (parse snapshot settings handler homes root state).tally.linesParsed =
      (calls snapshot settings handler homes root state).length := by
  rw [tally_parse, calls_eq]
  rfl

/-- Without the empty lines, the calls are those of a parse that drops them. -/
theorem calls_keeping :
    calls snapshot (settings.keeping false) handler homes root state =
      (calls snapshot (settings.keeping true) handler homes root state).filter (·.1 ≠ []) := by
  rw [calls_eq, calls_eq, Expansion.ofRoot_keeping, Event.deliveries_filter_isBlank]

/-- Without the refusals of empty lines, so are the problems. -/
theorem problems_keeping (steady : handler.Steady) :
    let kept := calls snapshot (settings.keeping true) handler homes root state
    (parse snapshot (settings.keeping false) handler homes root state).problems.toList =
      (parse snapshot (settings.keeping true) handler homes root state).problems.toList.filter
        (!·.refusesBlank kept) := by
  intro kept
  rw [problems_parse, problems_parse, Event.problems_of_steady steady state,
    Event.problems_of_steady steady state, Expansion.ofRoot_keeping, List.filterMap_filter,
    List.filter_filterMap]
  refine List.filterMap_congr fun event isIn => ?_
  cases event with
  | delivered line location =>
    have call : (line, location) ∈ kept := by
      rw [show kept = _ from calls_eq handler homes root state]
      exact Event.mem_deliveries.2 isIn
    have blank : ([], location) ∈ kept ↔ line = [] :=
      ⟨eq_of_mem_calls call, fun empty => empty ▸ call⟩
    rw [Event.filter_problem?_delivered, Event.isBlank_delivered]
    by_cases empty : line = [] <;> simp [blank, empty]
  | recorded problem =>
    have kind : problem.kind ≠ .refused :=
      Expansion.kind_ne_refused problem (List.mem_filterMap.2 ⟨_, isIn, rfl⟩)
    rw [Event.problem?, Option.filter_some_pos]
    · rfl
    · rw [Problem.refusesBlank_eq_false kind]
      rfl

end

/-- Two parses of a root, of which the first drops blank lines and the second keeps them. -/
structure BlanksAdded {σ : Type} (dropped kept : Progress σ)
    (given added : List (Text × Location)) :
    Prop where
  /-- The calls of the first are those of the second with lines that are not empty, in order. -/
  calls_eq : given = added.filter (·.1 ≠ [])
  /-- Both open as many files. -/
  filesVisited_eq : dropped.tally.filesVisited = kept.tally.filesVisited
  /-- Both read as many lines. -/
  linesRead_eq : dropped.tally.linesRead = kept.tally.linesRead
  /-- The empty lines are what the second delivers besides. -/
  linesParsed_eq : kept.tally.linesParsed =
    dropped.tally.linesParsed + added.countP (·.1 = [])
  /-- An empty line is told from others by its location, -/
  apart : ∀ line location, (line, location) ∈ added → ([], location) ∈ added → line = []
  /-- and without the refusals at such locations, the problems are the same, in order. -/
  problems_eq : dropped.problems.toList = kept.problems.toList.filter (!·.refusesBlank added)

/-- Keeping blank lines adds blank lines and nothing else, for every handler that answers by the
line and its location alone. -/
theorem blanks_only_added {σ : Type} (snapshot : Snapshot) (settings : Settings)
    (handler : Handler σ) (homes : Homes) (root : Path) (state : σ) (steady : handler.Steady) :
    BlanksAdded
      (parse snapshot (settings.keeping false) handler homes root state)
      (parse snapshot (settings.keeping true) handler homes root state)
      (calls snapshot (settings.keeping false) handler homes root state)
      (calls snapshot (settings.keeping true) handler homes root state) := by
  obtain ⟨files, lines⟩ := Expansion.tally_keeping snapshot settings homes root
  refine ⟨calls_keeping handler homes root state, ?_, ?_, ?_, fun line location => eq_of_mem_calls,
    problems_keeping handler homes root state steady⟩
  · rw [tally_parse, tally_parse, files]
  · rw [tally_parse, tally_parse, lines]
  · rw [linesParsed_parse, linesParsed_parse, calls_keeping, ← List.countP_eq_length_filter,
      Nat.add_comm, List.length_eq_countP_add_countP (·.1 = [])]
    simp

/-- Two files with blank lines around a directive and in what it leads to. -/
def spaced : List Observation :=
  [⟨⟨['/', 'a']⟩, some ⟨['/', 'a']⟩, .ok (.ofBytes (Utf8.encode "\nx\n#include b\n \n".toList))⟩,
    ⟨⟨['/', 'b']⟩, some ⟨['/', 'b']⟩, .ok (.ofBytes (Utf8.encode "// r\ny".toList))⟩]

/-- With their blank lines, of which each is refused, they come to three more lines. -/
theorem spaced_blanks_added :
    let spaced := Snapshot.ofObservations spaced
    let handler := Handler.collect fun line => if line = [] then some ⟨['n', 'o'], []⟩ else none
    let homes : Homes := ⟨none, .ok []⟩
    let settings : Settings := {}
    handler.Steady ∧
      (calls spaced (settings.keeping true) handler homes ⟨['/', 'a']⟩ #[]).map Prod.fst =
        [[], ['x'], [], ['y'], []] ∧
      BlanksAdded
        (parse spaced (settings.keeping false) handler homes ⟨['/', 'a']⟩ #[])
        (parse spaced (settings.keeping true) handler homes ⟨['/', 'a']⟩ #[])
        (calls spaced (settings.keeping false) handler homes ⟨['/', 'a']⟩ #[])
        (calls spaced (settings.keeping true) handler homes ⟨['/', 'a']⟩ #[]) := by
  have given : (calls (.ofObservations spaced) (Settings.keeping {} true)
      (.collect fun line => if line = [] then some ⟨['n', 'o'], []⟩ else none) ⟨none, .ok []⟩
      ⟨['/', 'a']⟩ #[]).map Prod.fst = [[], ['x'], [], ['y'], []] := by
    rw [calls, (parses_doneWithin (n := 12) (by decide)).parse_eq]
    decide
  intro spaced handler homes settings
  have steady : handler.Steady := fun _ _ _ _ => rfl
  exact ⟨steady, given, blanks_only_added spaced settings handler homes ⟨['/', 'a']⟩ #[] steady⟩

end Splice
