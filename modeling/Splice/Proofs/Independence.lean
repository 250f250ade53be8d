import Splice.Proofs.Nesting

/-!
# Independence

What a handler answers changes nothing but its own refusals. Two handlers of any kind are given the
same lines, the counters come out alike, and so do all problems other than refusals; the refusals of
each are those of the lines that it was given, in order (`parse_independent`).

Here are also the kinds of problems, by which problems are sorted and counted, and what a parse
leaves in terms of its expansion.
-/

namespace Splice

/-- What kind of problem something is. -/
inductive Problem.Kind where
  | unexpanded
  | loop
  | unopened
  | nameless
  | refused
  | unreadable
  deriving DecidableEq, Repr

/-- The kind of a problem. -/
def Problem.kind : Problem → Problem.Kind
  | .unexpanded .. => .unexpanded
  | .loop .. => .loop
  | .unopened .. => .unopened
  | .nameless .. => .nameless
  | .refused .. => .refused
  | .unreadable .. => .unreadable

/-- The refusals of a handler that starts in `state` and is given lines. -/
def Handler.refusals {σ : Type} (handler : Handler σ) (state : σ) :
    List (Text × Location) → List Problem
  | [] => []
  | (line, location) :: rest =>
    let (next, refusal) := handler.deliver state line location
    refusal.toList.map (.refused location) ++ handler.refusals next rest

theorem Handler.refusals_cons {σ : Type} (handler : Handler σ) (state : σ) (line : Text)
    (location : Location) (rest : List (Text × Location)) :
    handler.refusals state ((line, location) :: rest) =
      (handler.deliver state line location).2.toList.map (.refused location) ++
        handler.refusals (handler.deliver state line location).1 rest := rfl

/-- Each line is refused at most once. -/
theorem Handler.length_refusals_le {σ : Type} (handler : Handler σ) (state : σ)
    (lines : List (Text × Location)) : (handler.refusals state lines).length ≤ lines.length := by
  induction lines generalizing state with
  | nil => exact Nat.le_refl 0
  | cons call rest ih =>
    obtain ⟨line, location⟩ := call
    have now : (handler.deliver state line location).2.toList.length ≤ 1 := by
      cases (handler.deliver state line location).2 <;> simp
    have later := ih (handler.deliver state line location).1
    rw [refusals_cons, List.length_append, List.length_map, List.length_cons]
    omega

/-- A handler that takes every line refuses none. -/
theorem Handler.refusals_eq_nil {σ : Type} {handler : Handler σ}
    (takes : ∀ state line location, (handler.deliver state line location).2 = none) (state : σ)
    (lines : List (Text × Location)) : handler.refusals state lines = [] := by
  induction lines generalizing state with
  | nil => rfl
  | cons call rest ih =>
    obtain ⟨line, location⟩ := call
    simp [refusals_cons, takes, ih]

namespace Event

/-- The problems that events record. -/
def recordings (events : List Event) : List Problem :=
  events.filterMap fun
    | .delivered .. => none
    | .recorded problem => some problem

@[simp] theorem recordings_nil : recordings [] = [] := rfl

@[simp] theorem recordings_delivered (line : Text) (location : Location) (rest : List Event) :
    recordings (.delivered line location :: rest) = recordings rest := rfl

@[simp] theorem recordings_recorded (problem : Problem) (rest : List Event) :
    recordings (.recorded problem :: rest) = problem :: recordings rest := rfl

@[simp] theorem recordings_append (first rest : List Event) :
    recordings (first ++ rest) = recordings first ++ recordings rest :=
  List.filterMap_append

@[simp] theorem deliveries_append (first rest : List Event) :
    deliveries (first ++ rest) = deliveries first ++ deliveries rest :=
  List.filterMap_append

variable {σ : Type} (handler : Handler σ)

/-- Without the refusals, what is left of events is what they record. -/
theorem filter_problems_ne_refused (state : σ) (events : List Event) :
    (problems handler state events).filter (·.kind ≠ .refused) =
      (recordings events).filter (·.kind ≠ .refused) := by
  induction events generalizing state with
  | nil => rfl
  | cons event rest ih =>
    cases event with
    | delivered line location =>
      cases answer : (handler.deliver state line location).2 <;>
        simpa [problems, answer, Problem.kind] using ih _
    | recorded problem =>
      simp only [problems, recordings_recorded, List.filter_cons, ih]

/-- Where no refusal is recorded, the refusals that are left are the handler's own. -/
theorem filter_problems_eq_refused {events : List Event}
    (foreign : ∀ problem ∈ recordings events, problem.kind ≠ .refused) (state : σ) :
    (problems handler state events).filter (·.kind = .refused) =
      handler.refusals state (deliveries events) := by
  induction events generalizing state with
  | nil => rfl
  | cons event rest ih =>
    cases event with
    | delivered line location =>
      have later := ih foreign (handler.deliver state line location).1
      cases answer : (handler.deliver state line location).2 <;>
        simpa [problems, Handler.refusals_cons, answer, Problem.kind] using later
    | recorded problem =>
      rw [recordings_recorded, List.forall_mem_cons] at foreign
      simpa [problems, foreign.1] using ih foreign.2 state

end Event

/-! ## What a parse leaves -/

section

variable {snapshot : Snapshot} {settings : Settings} {homes : Homes} {root : Path}

/-- A step records no refusal: those are left to the handler. -/
theorem Step.recorded_kind_ne {position next : Position} {actions : List Action}
    {problem : Problem} (step : Step snapshot settings position actions next)
    (done : .recorded problem ∈ actions) : problem.kind ≠ .refused := by
  cases step <;> simp_all [Problem.kind]

/-- The expansion of a root records no refusal. -/
theorem Expansion.kind_ne_refused :
    ∀ problem ∈ Event.recordings (Expansion.ofRoot snapshot settings homes root),
      problem.kind ≠ .refused := by
  intro problem isIn
  obtain ⟨all, parses⟩ := exists_parses snapshot settings homes root
  have seen : .recorded problem ∈ Action.events all := by
    obtain ⟨event, isEvent, records⟩ := List.mem_filterMap.1 isIn
    cases event with
    | delivered => cases records
    | recorded => simpa [parses.events, Option.some.inj records] using isEvent
  rcases parses.exists_step seen with ⟨position, actions, next, _, step, seen'⟩ | other
  · exact step.recorded_kind_ne (Action.recorded_mem_events.1 seen')
  · obtain ⟨_, _, same⟩ := other
    cases same
    simp [Problem.kind]

variable (homes root) {σ : Type} (handler : Handler σ) (state : σ)

/-- The counters of a parse are those of the expansion. -/
theorem tally_parse :
    (parse snapshot settings handler homes root state).tally =
      Expansion.tally snapshot settings homes root := by
  obtain ⟨all, parses⟩ := exists_parses snapshot settings homes root
  rw [parses.parse_eq, Progress.tally_replay, ← parses.tally]
  simp

/-- The problems of a parse other than refusals are those that the expansion records. -/
theorem filter_problems_parse_ne_refused :
    (parse snapshot settings handler homes root state).problems.toList.filter
        (·.kind ≠ .refused) =
      Event.recordings (Expansion.ofRoot snapshot settings homes root) := by
  obtain ⟨all, parses⟩ := exists_parses snapshot settings homes root
  rw [parses.problems_eq, Event.filter_problems_ne_refused, parses.events]
  exact List.filter_eq_self.2 fun problem isIn => by
    simpa using Expansion.kind_ne_refused problem isIn

/-- The refusals of a parse are those of the lines that the handler was given. -/
theorem filter_problems_parse_eq_refused :
    (parse snapshot settings handler homes root state).problems.toList.filter
        (·.kind = .refused) =
      handler.refusals state (calls snapshot settings handler homes root state) := by
  obtain ⟨all, parses⟩ := exists_parses snapshot settings homes root
  rw [parses.problems_eq, parses.events, calls_eq]
  exact Event.filter_problems_eq_refused handler Expansion.kind_ne_refused state

end

/-- A handler cannot influence a parse. Two handlers, whatever their states and answers, are called
for the same lines at the same locations in the same order; the counters are the same; the problems
are the same, in the same order, once refusals are left out; and the refusals of each are, in order,
the locations of the calls that it refused, with its own causes. -/
theorem parse_independent {σ τ : Type} (snapshot : Snapshot) (settings : Settings) (homes : Homes)
    (root : Path) (one : Handler σ) (other : Handler τ) (state : σ) (start : τ) :
    let left := parse snapshot settings one homes root state
    let right := parse snapshot settings other homes root start
    let given := calls snapshot settings one homes root state
    given = calls snapshot settings other homes root start ∧
      left.tally = right.tally ∧
      left.problems.toList.filter (·.kind ≠ .refused) =
        right.problems.toList.filter (·.kind ≠ .refused) ∧
      left.problems.toList.filter (·.kind = .refused) = one.refusals state given ∧
      right.problems.toList.filter (·.kind = .refused) = other.refusals start given := by
  intro left right given
  have same : given = calls snapshot settings other homes root start := by
    rw [calls_eq, ← calls_eq one homes root state]
  refine ⟨same, ?_, ?_, ?_, ?_⟩
  · rw [tally_parse, tally_parse]
  · rw [filter_problems_parse_ne_refused, filter_problems_parse_ne_refused]
  · exact filter_problems_parse_eq_refused homes root one state
  · rw [same]
    exact filter_problems_parse_eq_refused homes root other start

end Splice
