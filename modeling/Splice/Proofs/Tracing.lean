import Splice.Proofs.Accounting

/-!
# Tracing

What the log says of a parse is what the parse did (`trace_faithful`). Each problem is noted where
it is recorded, so the problems in the log are those that are returned, in their order, which is
that of the expansion of the root; each file that opens is noted once; and the note that a directive
is followed comes right before what became of it, which is a file that opens, a loop, or a file that
does not open.

All of this is read off the actions of the parse. They are noted one by one, and a refusal is noted
where its line is delivered (`Action.notes`). Between following a directive and entering the file
that it names there is no step, which is why nothing can come between their notes.
-/

namespace Splice

namespace Trace

/-- The problem that a note is of, where it is of one. -/
def problem? : Trace → Option Problem
  | .recorded problem => some problem
  | .reading .. | .including .. => none

/-- Whether a note is of a file that has opened. -/
def isReading : Trace → Bool
  | .reading .. => true
  | .including .. | .recorded _ => false

/-- Whether a note is of a directive that is followed. -/
def isIncluding : Trace → Bool
  | .including .. => true
  | .reading .. | .recorded _ => false

/-- A note of what became of a directive that names the file at `target`: with the directive,
`chain` leads there. -/
inductive Answers (settings : Settings) (chain : Chain) (target : Path) : Trace → Prop where
  | opened : Answers settings chain target (.reading (settings.note chain) target)
  | loop (link : Link) :
    Answers settings chain target (.recorded (.loop (settings.note chain) target link))
  | unopened (fault : Fault) :
    Answers settings chain target (.recorded (.unopened (settings.note chain) target fault))

end Trace

namespace Action

variable {σ : Type} (handler : Handler σ)

/-- What is noted of an action when `handler` is in `state`. -/
def note? (state : σ) : Action → Option Trace
  | .opened note path => some (.reading note path)
  | .lineRead => none
  | .followed location target => some (.including location target)
  | .recorded problem => some (.recorded problem)
  | .delivered line location =>
    (handler.deliver state line location).2.map fun cause => .recorded (.refused location cause)

/-- The state that an action leads the handler to. -/
def next (state : σ) : Action → σ
  | .delivered line location => (handler.deliver state line location).1
  | .opened .. | .lineRead | .followed .. | .recorded _ => state

/-- What is noted of actions when `handler` starts in `state`. -/
def notes (state : σ) : List Action → List Trace
  | [] => []
  | action :: rest => (note? handler state action).toList ++ notes (next handler state action) rest

/-- How many directives are followed. -/
def directivesFollowed (actions : List Action) : Nat :=
  actions.countP fun
    | .followed .. => true
    | _ => false

/-- The problems among the notes are those that the actions come to. -/
theorem filterMap_problem?_notes (state : σ) (actions : List Action) :
    (notes handler state actions).filterMap Trace.problem? =
      Event.problems handler state (events actions) := by
  induction actions generalizing state with
  | nil => rfl
  | cons action rest ih =>
    rw [notes, List.filterMap_append, ih]
    cases action with
    | delivered line location =>
      cases answer : (handler.deliver state line location).2 <;>
        simp [note?, next, Event.problems, answer, Trace.problem?]
    | _ => rfl

/-- What is noted of certain actions, and of no others, is noted as often as they are done. -/
theorem countP_notes {shown : Trace → Bool} {done : Action → Bool}
    (once : ∀ state action, (note? handler state action).any shown = done action)
    (state : σ) (actions : List Action) :
    (notes handler state actions).countP shown = actions.countP done := by
  induction actions generalizing state with
  | nil => rfl
  | cons action rest ih =>
    rw [notes, List.countP_append, ih, List.countP_cons, ← once state action, Nat.add_comm]
    cases note? handler state action <;> simp

/-- Each file that opens is noted. -/
theorem countP_isReading_notes (state : σ) (actions : List Action) :
    (notes handler state actions).countP Trace.isReading = filesOpened actions := by
  refine countP_notes handler (fun state action => ?_) state actions
  cases action with
  | delivered line location =>
    cases answer : (handler.deliver state line location).2 <;>
      simp [note?, answer, Trace.isReading]
  | _ => rfl

/-- Each directive that is followed is noted. -/
theorem countP_isIncluding_notes (state : σ) (actions : List Action) :
    (notes handler state actions).countP Trace.isIncluding = directivesFollowed actions := by
  refine countP_notes handler (fun state action => ?_) state actions
  cases action with
  | delivered line location =>
    cases answer : (handler.deliver state line location).2 <;>
      simp [note?, answer, Trace.isIncluding]
  | _ => rfl

/-- What is noted of actions is noted of one of them. -/
theorem exists_of_mem_notes {state : σ} {actions : List Action} {step : Trace}
    (noted : step ∈ notes handler state actions) :
    ∃ action ∈ actions, ∃ earlier, note? handler earlier action = some step := by
  induction actions generalizing state with
  | nil => cases noted
  | cons action rest ih =>
    rcases List.mem_append.1 noted with now | later
    · exact ⟨action, List.mem_cons_self, state, Option.mem_toList.1 now⟩
    · obtain ⟨action, isIn, earlier, noted⟩ := ih later
      exact ⟨action, List.mem_cons_of_mem _ isIn, earlier, noted⟩

/-- Only of a file that opens is it noted that it is read. -/
theorem eq_opened_of_note? {state : σ} {action : Action} {note : Text} {path : Path}
    (noted : note? handler state action = some (.reading note path)) :
    action = .opened note path := by
  cases action <;> simp_all [note?]

/-- Only of a directive is it noted that it is followed. -/
theorem eq_followed_of_note? {state : σ} {action : Action} {location : Location} {target : Path}
    (noted : note? handler state action = some (.including location target)) :
    action = .followed location target := by
  cases action <;> simp_all [note?]

end Action

/-! ## What a parse notes -/

namespace Progress

variable {σ : Type} (handler : Handler σ)

theorem trace_act (progress : Progress σ) (action : Action) :
    (progress.act handler action).trace.toList =
      progress.trace.toList ++ (Action.note? handler progress.state action).toList := by
  cases action with
  | delivered line location =>
    cases answer : (handler.deliver progress.state line location).2 <;>
      simp [act, delivered, record, Action.note?, answer]
  | _ => simp [act, opened, lineRead, traced, record, Action.note?]

theorem state_act (progress : Progress σ) (action : Action) :
    (progress.act handler action).state = Action.next handler progress.state action := by
  cases action with
  | delivered line location => exact state_delivered handler progress line location
  | _ => rfl

/-- The trace is what is noted of the actions. -/
theorem trace_replay (progress : Progress σ) (actions : List Action) :
    (progress.replay handler actions).trace.toList =
      progress.trace.toList ++ Action.notes handler progress.state actions := by
  induction actions generalizing progress with
  | nil => exact (List.append_nil _).symm
  | cons action rest ih =>
    rw [replay_cons, ih, trace_act, state_act, List.append_assoc]
    rfl

end Progress

section

variable {snapshot : Snapshot} {settings : Settings} {homes : Homes} {root : Path}

/-! ## What a directive comes to -/

/-- Whether a problem is the answer to a request for a file. -/
def Problem.isAnswer (problem : Problem) : Bool :=
  match problem.kind with
  | .unexpanded | .loop | .unopened => true
  | .nameless | .refused | .unreadable => false

/-- How many requests for a file are answered: it opens, or there is a problem. -/
def Action.answers (actions : List Action) : Nat :=
  filesOpened actions + (Event.recordings (events actions)).countP Problem.isAnswer

@[simp] theorem Action.directivesFollowed_append (first rest : List Action) :
    directivesFollowed (first ++ rest) = directivesFollowed first + directivesFollowed rest :=
  List.countP_append

@[simp] theorem Action.answers_append (first rest : List Action) :
    answers (first ++ rest) = answers first + answers rest := by
  simp only [answers, filesOpened_append, events_append, Event.recordings_append,
    List.countP_append]
  omega

/-- How many requests for a file are open. -/
def Position.requests : Position → Nat
  | .entering .. => 1
  | .reading _ => 0

/-- In one step, requests are made by directives and met by answers. -/
theorem Step.requests_eq {position next : Position} {actions : List Action}
    (step : Step snapshot settings position actions next) :
    position.requests + Action.directivesFollowed actions =
      Action.answers actions + next.requests := by
  cases step <;> rfl

/-- So they are in a run. -/
theorem Run.requests_eq {start final : Position} {actions : List Action}
    (run : Run snapshot settings start actions final) :
    start.requests + Action.directivesFollowed actions =
      Action.answers actions + final.requests := by
  induction run with
  | refl => exact Nat.add_comm _ _
  | step _ step ih =>
    have now := step.requests_eq
    rw [Action.directivesFollowed_append, Action.answers_append]
    omega

/-- A directive is followed in the step that reads its line. -/
theorem Step.following {position next : Position} {first last : List Action} {location : Location}
    {target : Path}
    (step : Step snapshot settings position (first ++ .followed location target :: last) next) :
    ∃ frame below, position = .reading (frame :: below) ∧ first = [.lineRead] ∧ last = [] ∧
      location = frame.location.next ∧
      next = .entering (frame.chain.extended location frame.identity) target
        (frame.past :: below) := by
  generalize done : first ++ .followed location target :: last = actions at step
  have isIn : .followed location target ∈ actions := by simp [← done]
  cases step with
  | followed ahead means =>
    cases first with
    | nil => simp at done
    | cons _ first =>
      cases first with
      | nil =>
        obtain ⟨rfl, ⟨rfl, rfl⟩, rfl⟩ : _ ∧ (_ ∧ _) ∧ _ := by simpa using done
        exact ⟨_, _, rfl, rfl, rfl, rfl, rfl⟩
      | cons _ _ => simp at done
  | _ => simp at isIn

/-- A file that is about to be entered is entered or refused in one step, and that is noted. -/
theorem Step.answer {chain : Chain} {path : Path} {frames : List Frame} {next : Position}
    {actions : List Action}
    (step : Step snapshot settings (.entering chain path frames) actions next) :
    ∃ action note, actions = [action] ∧ note.Answers settings chain path ∧
      ∀ {σ : Type} (handler : Handler σ) (state : σ),
        Action.note? handler state action = some note := by
  cases step with
  | loop _ => exact ⟨_, _, rfl, .loop _, fun _ _ => rfl⟩
  | unopened _ _ => exact ⟨_, _, rfl, .unopened _, fun _ _ => rfl⟩
  | opened _ _ => exact ⟨_, _, rfl, .opened, fun _ _ => rfl⟩

/-- The trace of a parse is what is noted of all that it does. -/
theorem Parses.trace_eq {σ : Type} {all : List Action}
    (parses : Parses snapshot settings homes root all) (handler : Handler σ) (state : σ) :
    (parse snapshot settings handler homes root state).trace.toList =
      Action.notes handler state all := by
  rw [parses.parse_eq, Progress.trace_replay]
  rfl

/-- Of a root without a path, that is all that is noted. -/
theorem Parses.notes_of_unresolved {σ : Type} {all : List Action} {cause : HomeFault}
    (parses : Parses snapshot settings homes root all)
    (resolved : homes.resolve root = .error cause) (handler : Handler σ) (state : σ) :
    Action.notes handler state all =
      [.recorded (.unexpanded (settings.note {}) root.text cause)] := by
  rw [← parses.trace_eq, parse, resolved]
  rfl

/-- What is noted of a parse is noted of a step that it comes to, or it says that the root has no
path. -/
theorem Parses.exists_step_of_noted {σ : Type} {all : List Action} {handler : Handler σ} {state : σ}
    {note : Trace} (parses : Parses snapshot settings homes root all)
    (noted : note ∈ Action.notes handler state all) :
    (∃ position actions next, Reached snapshot settings homes root position ∧
      Step snapshot settings position actions next ∧
      ∃ action ∈ actions, ∃ earlier, Action.note? handler earlier action = some note) ∨
    ∃ cause, note = .recorded (.unexpanded (settings.note {}) root.text cause) := by
  cases resolved : homes.resolve root with
  | ok path =>
    obtain ⟨action, done, earlier, isNote⟩ := Action.exists_of_mem_notes handler noted
    obtain ⟨before, position, actions, next, run, step, isIn⟩ :=
      (parses.run path resolved).exists_step_of_mem done
    exact .inl ⟨position, actions, next, ⟨path, before, resolved, run⟩, step, action, isIn,
      earlier, isNote⟩
  | error cause =>
    rw [parses.notes_of_unresolved resolved, List.mem_singleton] at noted
    exact .inr ⟨cause, noted⟩

/-- In a whole parse, the root and every file that a directive names are asked for and answered. -/
theorem Parses.requests_eq {all : List Action}
    (parses : Parses snapshot settings homes root all) :
    1 + Action.directivesFollowed all = Action.answers all := by
  cases resolved : homes.resolve root with
  | ok path => simpa [Position.requests] using (parses.run path resolved).requests_eq
  | error cause =>
    have notes := parses.notes_of_unresolved resolved Handler.discard ()
    have followed := Action.countP_isIncluding_notes Handler.discard () all
    have opened := Action.countP_isReading_notes Handler.discard () all
    rw [notes] at followed opened
    rw [← followed, Action.answers, ← opened, parses.events, Expansion.ofRoot, resolved]
    rfl

end

end Splice
