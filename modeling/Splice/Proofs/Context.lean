import Splice.Proofs.Independence

/-!
# Sub-parses

What reading a file comes to does not depend on how the file was reached, but for one thing: which
files are being expanded already (`visit_by_ancestors`). The order of the directives that led to it,
how often and from where each file was named, what has been counted and recorded before: none of it
is to be seen in the lines that are delivered, in what is counted on top, or in the kinds of the
problems. Notes say how a file was reached, and a loop says where it closes; these do differ.

`visit` only ever adds to what has been gathered, and what it adds is read off the expansion.
-/

namespace Splice

/-! ## What visits add -/

/-- Counters of one stretch of a parse on top of those before it. -/
instance : Add Tally where
  add before more :=
    { filesVisited := before.filesVisited + more.filesVisited
      linesRead := before.linesRead + more.linesRead
      linesParsed := before.linesParsed + more.linesParsed }

section

variable (snapshot : Snapshot) (settings : Settings)

/-- The counters of the file at `path`, reached through `chain`. -/
def Expansion.fileTally (chain : Chain) (path : Path) : Tally where
  filesVisited := (sources snapshot settings chain path).length
  linesRead := ((sources snapshot settings chain path).flatMap Source.lines).length
  linesParsed := (Event.deliveries (ofFile snapshot settings chain path)).length

/-- The calls that reading the file at `path`, reached through `chain`, makes to a handler. -/
def visitCalls {σ : Type} (handler : Handler σ) (chain : Chain) (path : Path) (state : σ) :
    List (Text × Location) :=
  (visit snapshot settings handler.logged chain path { state := (state, []) }).state.2

end

section

variable {σ : Type} {snapshot : Snapshot} {settings : Settings} (handler : Handler σ)
  (chain : Chain) (path : Path) (progress : Progress σ)

/-- The handler is left in the state that the deliveries lead to. -/
theorem state_visit :
    (visit snapshot settings handler chain path progress).state =
      handler.after progress.state
        (Event.deliveries (Expansion.ofFile snapshot settings chain path)) := by
  obtain ⟨actions, reads⟩ := exists_reads snapshot settings chain path
  rw [reads.visit_eq, Progress.state_replay, reads.events]

/-- The problems of the file come after those before it. -/
theorem problems_visit :
    (visit snapshot settings handler chain path progress).problems.toList =
      progress.problems.toList ++ Event.problems handler progress.state
        (Expansion.ofFile snapshot settings chain path) := by
  obtain ⟨actions, reads⟩ := exists_reads snapshot settings chain path
  rw [reads.visit_eq, Progress.problems_replay, reads.events]

/-- The counters of the file come on top of those before it. -/
theorem tally_visit :
    (visit snapshot settings handler chain path progress).tally =
      progress.tally + Expansion.fileTally snapshot settings chain path := by
  obtain ⟨actions, reads⟩ := exists_reads snapshot settings chain path
  rw [reads.visit_eq, Progress.tally_replay, reads.files, reads.lines, reads.events]
  rfl

/-- The calls are the deliveries of the expansion. -/
theorem visitCalls_eq (state : σ) :
    visitCalls snapshot settings handler chain path state =
      Event.deliveries (Expansion.ofFile snapshot settings chain path) := by
  rw [visitCalls, state_visit, Handler.after_logged, List.nil_append]

end

/-! ## Where the context shows -/

/-- A location without the note on how its file was reached. -/
def Location.withoutNote (location : Location) : Location :=
  { location with note := [] }

/-- Calls without the notes on how their files were reached. -/
def withoutNotes (calls : List (Text × Location)) : List (Text × Location) :=
  calls.map fun (line, location) => (line, location.withoutNote)

/-- A link of which only the file is left that it leads back to. -/
def Link.withoutDirective (link : Link) : Link :=
  { path := ⟨[]⟩, line := 0, identity := link.identity }

/-- A problem without its note and, if it is a loop, without the directive at which that closes. -/
def Problem.withoutContext : Problem → Problem
  | .unexpanded _ name cause => .unexpanded [] name cause
  | .loop _ path link => .loop [] path link.withoutDirective
  | .unopened _ path cause => .unopened [] path cause
  | .nameless location => .nameless location.withoutNote
  | .refused location cause => .refused location.withoutNote cause
  | .unreadable location cause => .unreadable location.withoutNote cause

/-- An event without the context of the file that it is about. -/
def Event.withoutContext : Event → Event
  | .delivered line location => .delivered line location.withoutNote
  | .recorded problem => .recorded problem.withoutContext

/-- A handler pays no heed to how a file was reached. One that looks at lines alone does not. -/
def Handler.IgnoresNotes {σ : Type} (handler : Handler σ) : Prop :=
  ∀ state line location partner, location.withoutNote = partner.withoutNote →
    handler.deliver state line location = handler.deliver state line partner

@[simp] theorem Problem.kind_withoutContext (problem : Problem) :
    problem.withoutContext.kind = problem.kind := by
  cases problem <;> rfl

@[simp] theorem Event.deliveries_map_withoutContext (events : List Event) :
    deliveries (events.map withoutContext) = withoutNotes (deliveries events) := by
  induction events with
  | nil => rfl
  | cons event rest ih => cases event <;> simpa [withoutContext, withoutNotes] using ih

/-- A note more or less on a line makes no difference to a handler that pays no heed to it. -/
theorem Handler.IgnoresNotes.deliver_withoutNote {σ : Type} {handler : Handler σ}
    (ignores : handler.IgnoresNotes) (state : σ) (line : Text) (location : Location) :
    handler.deliver state line location.withoutNote = handler.deliver state line location :=
  ignores state line _ _ rfl

/-- So it comes to the same state without notes, -/
theorem Handler.IgnoresNotes.after_withoutNotes {σ : Type} {handler : Handler σ}
    (ignores : handler.IgnoresNotes) (state : σ) (calls : List (Text × Location)) :
    handler.after state (withoutNotes calls) = handler.after state calls := by
  induction calls generalizing state with
  | nil => rfl
  | cons call rest ih =>
    have onward := ih (handler.deliver state call.1 call.2).1
    simpa [after, withoutNotes, ignores.deliver_withoutNote] using onward

/-- and its refusals are the same problems but for their notes. -/
theorem Handler.IgnoresNotes.problems_withoutContext {σ : Type} {handler : Handler σ}
    (ignores : handler.IgnoresNotes) (state : σ) (events : List Event) :
    Event.problems handler state (events.map Event.withoutContext) =
      (Event.problems handler state events).map Problem.withoutContext := by
  induction events generalizing state with
  | nil => rfl
  | cons event rest ih =>
    cases event with
    | recorded problem => simp [Event.withoutContext, Event.problems, ih]
    | delivered line location =>
      cases answer : (handler.deliver state line location).2 <;>
        simp [Event.withoutContext, Event.problems, ignores.deliver_withoutNote, answer, ih,
          Problem.withoutContext]

/-! ## Chains of the same files -/

/-- Directives are being followed in the same files, whatever their order and their number. -/
def Chain.SameFiles (chain other : Chain) : Prop :=
  ∀ identity, identity ∈ chain.identities ↔ identity ∈ other.identities

namespace Chain.SameFiles

variable {chain other : Chain}

/-- They are after another directive has been followed in one of them. -/
theorem extended (same : chain.SameFiles other) (here here' : Location) (identity : Identity) :
    (chain.extended here identity).SameFiles (other.extended here' identity) := by
  intro item
  simp only [identities_extended, List.mem_append, same item]

/-- What is new to one is new to the other. -/
theorem find?_eq_none (same : chain.SameFiles other) {identity : Identity}
    (new : chain.find? identity = none) : other.find? identity = none := by
  rw [find?_eq_none_iff] at new ⊢
  rwa [← same identity]

/-- What is being expanded in one is being expanded in the other, as the same file. -/
theorem exists_find?_eq_some (same : chain.SameFiles other) {identity : Identity} {link : Link}
    (found : chain.find? identity = some link) :
    ∃ link', other.find? identity = some link' ∧
      link'.withoutDirective = link.withoutDirective := by
  cases found' : other.find? identity with
  | none =>
    have new : chain.find? identity = none := find?_eq_none (fun item => (same item).symm) found'
    rw [new] at found
    cases found
  | some link' =>
    have isFile : link.identity = identity := by simpa using List.find?_some found
    have isFile' : link'.identity = identity := by simpa using List.find?_some found'
    exact ⟨link', rfl, by rw [Link.withoutDirective, isFile', ← isFile]; rfl⟩

end Chain.SameFiles

section

variable (snapshot : Snapshot) (settings : Settings)

/-- Reached through either chain, the file at `path` comes to the same but for the context. -/
structure Expansion.Agrees (chain other : Chain) (path : Path) : Prop where
  events_eq : (ofFile snapshot settings chain path).map Event.withoutContext =
    (ofFile snapshot settings other path).map Event.withoutContext
  sources_eq : sources snapshot settings chain path = sources snapshot settings other path

end

section

variable {snapshot : Snapshot} {settings : Settings} {chain other : Chain} {path : Path}
  (source : Source)

/-- One line of a file comes to the same if the files that it may lead to do. -/
theorem Frame.line_agrees
    (deeper : ∀ here here' target, Expansion.Agrees snapshot settings
      (chain.extended here (snapshot.identity path))
      (other.extended here' (snapshot.identity path)) target)
    (line : List UInt8) (number : Nat) :
    let frame := first snapshot settings chain path source
    let partner := first snapshot settings other path source
    (frame.lineEvents snapshot settings line number).map Event.withoutContext =
        (partner.lineEvents snapshot settings line number).map Event.withoutContext ∧
      frame.lineSources snapshot settings line number =
        partner.lineSources snapshot settings line number := by
  intro frame partner
  cases means : settings.meaning (Source.lineText line) with
  | directive name =>
    have nested := deeper (frame.lineAt number) (partner.lineAt number) (path.includedFrom ⟨name⟩)
    simp only [lineEvents, lineSources, means]
    exact ⟨nested.events_eq, nested.sources_eq⟩
  | _ => constructor <;> simp only [lineEvents, lineSources, means] <;> rfl

/-- So does the whole file. -/
theorem Frame.agrees
    (deeper : ∀ here here' target, Expansion.Agrees snapshot settings
      (chain.extended here (snapshot.identity path))
      (other.extended here' (snapshot.identity path)) target) :
    let frame := first snapshot settings chain path source
    let partner := first snapshot settings other path source
    (frame.events snapshot settings).map Event.withoutContext =
        (partner.events snapshot settings).map Event.withoutContext ∧
      frame.sources snapshot settings = partner.sources snapshot settings := by
  intro frame partner
  have lines : frame.lines = partner.lines := rfl
  have number : frame.location.line = partner.location.line := rfl
  constructor
  · have line (line : List UInt8) (number : Nat) :
        (frame.lineEvents snapshot settings line number).map Event.withoutContext =
          (partner.lineEvents snapshot settings line number).map Event.withoutContext :=
      (line_agrees source deeper line number).1
    simp only [events, List.map_append, List.map_flatMap, line, lines, number, List.map_map]
    rfl
  · have line (line : List UInt8) (number : Nat) :
        frame.lineSources snapshot settings line number =
          partner.lineSources snapshot settings line number :=
      (line_agrees source deeper line number).2
    simp only [sources, line, lines, number]

end

/-- What a file comes to depends on its chain only through the files in it. -/
theorem Expansion.agrees (snapshot : Snapshot) (settings : Settings) {chain other : Chain}
    (same : chain.SameFiles other) (path : Path) : Agrees snapshot settings chain other path := by
  induction chain, path using Expansion.induction snapshot generalizing other with
  | found chain path link isOpen =>
    obtain ⟨link', isOpen', closes⟩ := same.exists_find?_eq_some isOpen
    constructor
    · rw [ofFile_of_found isOpen, ofFile_of_found isOpen']
      simp [Event.withoutContext, Problem.withoutContext, closes]
    · rw [sources_of_found isOpen, sources_of_found isOpen']
  | unopened chain path fault new fails =>
    have new' := same.find?_eq_none new
    constructor
    · rw [ofFile_of_unopened new fails, ofFile_of_unopened new' fails]
      rfl
    · rw [sources_of_unopened new fails, sources_of_unopened new' fails]
  | opened chain path source new opens deeper =>
    have new' := same.find?_eq_none new
    obtain ⟨events, sources⟩ := Frame.agrees source fun here here' target =>
      deeper here target (same.extended here here' _)
    constructor
    · rw [ofFile_of_opened new opens, ofFile_of_opened new' opens, events]
    · rw [sources_of_opened new opens, sources_of_opened new' opens, sources]

/-! ## Sub-parses -/

/-- The same calls are made to any handler, whatever state it is in. -/
theorem visitCalls_congr {σ τ : Type} (snapshot : Snapshot) (settings : Settings)
    {chain other : Chain} (same : chain.SameFiles other) (path : Path) (handler : Handler σ)
    (partner : Handler τ) (state : σ) (start : τ) :
    withoutNotes (visitCalls snapshot settings handler chain path state) =
      withoutNotes (visitCalls snapshot settings partner other path start) := by
  rw [visitCalls_eq, visitCalls_eq, ← Event.deliveries_map_withoutContext,
    (Expansion.agrees snapshot settings same path).events_eq, Event.deliveries_map_withoutContext]

/-- A sub-parse depends on its surroundings only through the files that are being expanded. Let two
chains follow directives in the same files, and let a file be read through either, whatever has been
counted and recorded before, with a handler in the same state that pays no heed to notes. The
handler is given the same lines from the same places in the same order, and is left in the same
state; the counters grow by the same amounts; as many problems are added, which are of the same
kinds in order, and differ only in their notes and in where loops close. So a file that is named
twice in one file is delivered alike both times, whatever handler it is delivered to. -/
theorem visit_by_ancestors {σ : Type} (snapshot : Snapshot) (settings : Settings)
    (handler : Handler σ) (ignores : handler.IgnoresNotes) (path : Path) (chain other : Chain)
    (same : chain.SameFiles other) (progress progress' : Progress σ)
    (state : progress.state = progress'.state) :
    let left := visit snapshot settings handler chain path progress
    let right := visit snapshot settings handler other path progress'
    withoutNotes (visitCalls snapshot settings handler chain path progress.state) =
        withoutNotes (visitCalls snapshot settings handler other path progress'.state) ∧
      left.state = right.state ∧
      (∃ more, left.tally = progress.tally + more ∧ right.tally = progress'.tally + more) ∧
      (∃ found found', left.problems.toList = progress.problems.toList ++ found ∧
        right.problems.toList = progress'.problems.toList ++ found' ∧
        found.map Problem.kind = found'.map Problem.kind ∧
        found.map Problem.withoutContext = found'.map Problem.withoutContext) ∧
      ∀ (τ : Type) (any : Handler τ) (first second : τ) (here again : Location)
          (identity : Identity),
        withoutNotes
            (visitCalls snapshot settings any (chain.extended here identity) path first) =
          withoutNotes
            (visitCalls snapshot settings any (chain.extended again identity) path second) := by
  intro left right
  obtain ⟨events, sources⟩ := Expansion.agrees snapshot settings same path
  have delivered := congrArg Event.deliveries events
  simp only [Event.deliveries_map_withoutContext] at delivered
  refine ⟨visitCalls_congr snapshot settings same path handler handler _ _, ?_, ?_, ?_, ?_⟩
  · rw [state_visit, state_visit, ← ignores.after_withoutNotes, delivered,
      ignores.after_withoutNotes, state]
  · have counted := congrArg List.length delivered
    simp only [withoutNotes, List.length_map] at counted
    refine ⟨_, tally_visit handler chain path progress, ?_⟩
    rw [tally_visit, Expansion.fileTally, Expansion.fileTally, sources, counted]
  · refine ⟨_, _, problems_visit .., problems_visit .., ?_⟩
    have bare : (Event.problems handler progress.state
          (Expansion.ofFile snapshot settings chain path)).map Problem.withoutContext =
        (Event.problems handler progress'.state
          (Expansion.ofFile snapshot settings other path)).map Problem.withoutContext := by
      rw [← ignores.problems_withoutContext, ← ignores.problems_withoutContext, events, state]
    have kinds := congrArg (List.map Problem.kind) bare
    simp only [List.map_map, Function.comp_def, Problem.kind_withoutContext] at kinds
    exact ⟨kinds, bare⟩
  · intro τ any first second here again identity
    have reached : (chain.extended here identity).SameFiles (chain.extended again identity) :=
      .extended (fun _ => Iff.rfl) here again identity
    exact visitCalls_congr snapshot settings reached path any any first second

/-- A file of a ring is reached from the other one, or through a link to that and from elsewhere
before. Either way its line does not fit into a small sink, and it leads back. -/
theorem ring_by_ancestors :
    let ring := Snapshot.ofObservations ring
    let back : Identity := [.root, .name ['a']]
    let chain : Chain := ⟨[⟨⟨['/', 'a']⟩, 1, back⟩]⟩
    let other : Chain := ⟨[⟨⟨['/', 'l']⟩, 7, back⟩, ⟨⟨['/', 'a']⟩, 3, back⟩]⟩
    let progress : Progress Sink := { state := { capacity := some 1 } }
    let progress' : Progress Sink := { progress with tally.linesRead := 8 }
    let left := visit ring {} Handler.echo chain ⟨['/', 'b']⟩ progress
    let right := visit ring {} Handler.echo other ⟨['/', 'b']⟩ progress'
    Handler.echo.IgnoresNotes ∧ chain.SameFiles other ∧ progress.state = progress'.state ∧
      withoutNotes (visitCalls ring {} Handler.echo chain ⟨['/', 'b']⟩ progress.state) =
        withoutNotes (visitCalls ring {} Handler.echo other ⟨['/', 'b']⟩ progress'.state) ∧
      left.state = right.state ∧
      (∃ more, left.tally = progress.tally + more ∧ right.tally = progress'.tally + more) ∧
      ∃ found found', left.problems.toList = progress.problems.toList ++ found ∧
        right.problems.toList = progress'.problems.toList ++ found' ∧
        found.map Problem.kind = found'.map Problem.kind ∧
        found.map Problem.withoutContext = found'.map Problem.withoutContext := by
  intro ring back chain other progress progress' left right
  have ignores : Handler.echo.IgnoresNotes := fun _ _ _ _ _ => rfl
  have same : chain.SameFiles other := by
    intro identity
    simp [chain, other, Chain.identities]
  obtain ⟨calls, state, counters, problems, -⟩ :=
    visit_by_ancestors ring {} Handler.echo ignores ⟨['/', 'b']⟩ chain other same progress progress'
      rfl
  exact ⟨ignores, same, rfl, calls, state, counters, problems⟩

end Splice
