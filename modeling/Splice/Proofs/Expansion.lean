import Splice.Reading

/-!
# Expansions

What a file stands for once its directives are replaced by what they name: a list of events, line
by line and depth first. Nothing is threaded through it; no counters, no handler, no location that
moves along. A line's number is its place in the file.

`Event.problems` and `Event.deliveries` say what a list of events comes to for a given handler.
-/

namespace Splice

/-- What a caller or a handler sees of a parse. -/
inductive Event where
  /-- A line goes to the handler. -/
  | delivered (line : Text) (location : Location)
  /-- Something is wrong that the handler has no part in. -/
  | recorded (problem : Problem)
  deriving DecidableEq, Repr

namespace Event

/-- The lines that events deliver. -/
def deliveries (events : List Event) : List (Text × Location) :=
  events.filterMap fun
    | .delivered line location => some (line, location)
    | .recorded _ => none

@[simp] theorem deliveries_nil : deliveries [] = [] := rfl

@[simp] theorem deliveries_delivered (line : Text) (location : Location) (rest : List Event) :
    deliveries (.delivered line location :: rest) = (line, location) :: deliveries rest := rfl

@[simp] theorem deliveries_recorded (problem : Problem) (rest : List Event) :
    deliveries (.recorded problem :: rest) = deliveries rest := rfl

/-- A line is delivered exactly when some event delivers it. -/
@[simp] theorem mem_deliveries {events : List Event} {line : Text} {location : Location} :
    (line, location) ∈ deliveries events ↔ .delivered line location ∈ events := by
  induction events with
  | nil => simp
  | cons event rest ih => cases event <;> simp [ih]

/-- The problems that events come to when `handler` starts in `state`: a refused delivery becomes a
problem where it stands. -/
def problems {σ : Type} (handler : Handler σ) (state : σ) : List Event → List Problem
  | [] => []
  | .recorded problem :: rest => problem :: problems handler state rest
  | .delivered line location :: rest =>
    let (next, refusal) := handler.deliver state line location
    (refusal.toList.map (.refused location)) ++ problems handler next rest

/-- A delivery comes to its refusal, if it is refused, and goes on in the state after it. -/
theorem problems_delivered {σ : Type} (handler : Handler σ) (state : σ) (line : Text)
    (location : Location) (rest : List Event) :
    problems handler state (.delivered line location :: rest) =
      (handler.deliver state line location).2.toList.map (.refused location) ++
        problems handler (handler.deliver state line location).1 rest := rfl

/-- A recorded problem is left. -/
theorem mem_problems_of_recorded {σ : Type} {handler : Handler σ} {state : σ} {events : List Event}
    {problem : Problem} (recorded : .recorded problem ∈ events) :
    problem ∈ problems handler state events := by
  induction events generalizing state with
  | nil => cases recorded
  | cons event rest ih =>
    cases event with
    | delivered line location =>
      have later : .recorded problem ∈ rest := by simpa using recorded
      exact List.mem_append_right _ (ih later)
    | recorded first =>
      rcases List.mem_cons.1 recorded with same | later
      · cases same
        exact List.mem_cons_self
      · exact List.mem_cons_of_mem _ (ih later)

/-- What is left has been recorded, or is the refusal of a delivery. -/
theorem recorded_or_refused_of_mem_problems {σ : Type} {handler : Handler σ} {state : σ}
    {events : List Event} {problem : Problem} (left : problem ∈ problems handler state events) :
    .recorded problem ∈ events ∨
      ∃ line location cause, problem = .refused location cause ∧
        .delivered line location ∈ events := by
  induction events generalizing state with
  | nil => cases left
  | cons event rest ih =>
    cases event with
    | delivered line location =>
      rcases List.mem_append.1 left with now | later
      · obtain ⟨cause, _, rfl⟩ := List.mem_map.1 now
        exact .inr ⟨line, location, cause, rfl, List.mem_cons_self⟩
      · rcases ih later with recorded | ⟨line', location', cause, same, delivered⟩
        · exact .inl (List.mem_cons_of_mem _ recorded)
        · exact .inr ⟨line', location', cause, same, List.mem_cons_of_mem _ delivered⟩
    | recorded first =>
      rcases List.mem_cons.1 left with rfl | later
      · exact .inl List.mem_cons_self
      · rcases ih later with recorded | ⟨line', location', cause, same, delivered⟩
        · exact .inl (List.mem_cons_of_mem _ recorded)
        · exact .inr ⟨line', location', cause, same, List.mem_cons_of_mem _ delivered⟩

end Event

/-- The state of a handler after it has been given lines. -/
def Handler.after {σ : Type} (handler : Handler σ) (state : σ)
    (lines : List (Text × Location)) : σ :=
  lines.foldl (fun state (line, location) => (handler.deliver state line location).1) state

namespace Expansion

variable (snapshot : Snapshot) (settings : Settings)

/-- The events of the file at `path`, reached through `chain`: one problem if it is being expanded
already or does not open, else those of its lines in order, and a problem if the reading fails. -/
def ofFile (chain : Chain) (path : Path) : List Event :=
  match _found : chain.find? (snapshot.identity path) with
  | some link => [.recorded (.loop (settings.note chain) path link)]
  | none =>
    match _opened : snapshot.source path with
    | .error fault => [.recorded (.unopened (settings.note chain) path fault)]
    | .ok source =>
      let here (number : Nat) : Location :=
        { source := path, line := number, note := settings.note chain }
      (source.lines.zipIdx 1).flatMap (fun (line, number) =>
        let text := Source.lineText line
        match settings.meaning text with
        | .dropped => []
        | .nameless => [.recorded (.nameless ((here number).withContent text))]
        | .directive name =>
          ofFile (chain.extended (here number) (snapshot.identity path))
            (path.includedFrom ⟨name⟩)
        | .content line => [.delivered line (here number)]) ++
      source.fault.toList.map fun fault =>
        .recorded (.unreadable (here (source.lines.length + 1)) fault)
termination_by snapshot.remaining chain.identities
decreasing_by
  rw [Chain.identities_extended]
  exact Snapshot.remaining_lt _opened (Chain.find?_eq_none_iff.1 _found)

/-- The files that are opened for the file at `path`, reached through `chain`: itself first, then
those that its directives lead to, each as often as it is entered. -/
def sources (chain : Chain) (path : Path) : List Source :=
  match _found : chain.find? (snapshot.identity path) with
  | some _ => []
  | none =>
    match _opened : snapshot.source path with
    | .error _ => []
    | .ok source =>
      source :: (source.lines.zipIdx 1).flatMap fun (line, number) =>
        match settings.meaning (Source.lineText line) with
        | .directive name =>
          let here : Location := { source := path, line := number, note := settings.note chain }
          sources (chain.extended here (snapshot.identity path)) (path.includedFrom ⟨name⟩)
        | _ => []
termination_by snapshot.remaining chain.identities
decreasing_by
  rw [Chain.identities_extended]
  exact Snapshot.remaining_lt _opened (Chain.find?_eq_none_iff.1 _found)

/-- What holds of a file that is being expanded already, of one that does not open, and of one that
opens provided that it holds of every file its directives may lead to, holds of every file. -/
@[elab_as_elim]
theorem induction (snapshot : Snapshot) {motive : Chain → Path → Prop}
    (found : ∀ chain path link, chain.find? (snapshot.identity path) = some link →
      motive chain path)
    (unopened : ∀ chain path fault, chain.find? (snapshot.identity path) = none →
      snapshot.source path = .error fault → motive chain path)
    (opened : ∀ chain path source, chain.find? (snapshot.identity path) = none →
      snapshot.source path = .ok source →
      (∀ here target, motive (chain.extended here (snapshot.identity path)) target) →
      motive chain path)
    (chain : Chain) (path : Path) : motive chain path := by
  induction measure : snapshot.remaining chain.identities using Nat.strongRecOn
    generalizing chain path with
  | ind size ih =>
    cases isOpen : chain.find? (snapshot.identity path) with
    | some link => exact found chain path link isOpen
    | none =>
      cases content : snapshot.source path with
      | error fault => exact unopened chain path fault isOpen content
      | ok source =>
        refine opened chain path source isOpen content fun here target => ?_
        have smaller := Snapshot.remaining_lt content (Chain.find?_eq_none_iff.1 isOpen)
        rw [measure, ← Chain.identities_extended chain here] at smaller
        exact ih _ smaller _ _ rfl

/-- The events of a parse: those of the root file, or one problem if its name cannot be
expanded. -/
def ofRoot (homes : Homes) (root : Path) : List Event :=
  match homes.resolve root with
  | .ok path => ofFile snapshot settings {} path
  | .error cause => [.recorded (.unexpanded (settings.note {}) root.text cause)]

/-- The counters of a parse: the files that are opened, all their lines, and the lines that are
delivered. -/
def tally (homes : Homes) (root : Path) : Tally :=
  let opened :=
    match homes.resolve root with
    | .ok path => sources snapshot settings {} path
    | .error _ => []
  { filesVisited := opened.length
    linesRead := (opened.flatMap Source.lines).length
    linesParsed := (Event.deliveries (ofRoot snapshot settings homes root)).length }

end Expansion

end Splice
