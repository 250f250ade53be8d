import Splice.Reading

/-!
# Executions

A parse in small steps. A `Position` holds the files that are open, innermost first, and perhaps a
file that is about to be entered; a `Step` leads from one position to the next and says what is done
on the way. Positions know nothing of the handler or of what has been gathered: `Progress.replay`
says what a list of actions makes of both.

The relation says what each line and each file can lead to, and every invariant of a parse is
derived from it. That complete runs are what `visit` and `scan` compute is not shown here.
-/

namespace Splice

/-- Something that a parse does. -/
inductive Action where
  /-- A file opens. -/
  | opened (note : Text) (path : Path)
  /-- A line is read. -/
  | lineRead
  /-- A directive is followed. -/
  | followed (location : Location) (target : Path)
  /-- A problem is recorded that the handler has no part in. -/
  | recorded (problem : Problem)
  /-- A line is delivered. -/
  | delivered (line : Text) (location : Location)
  deriving DecidableEq, Repr

namespace Progress

variable {σ : Type} (handler : Handler σ)

/-- The progress after one action. -/
def act (progress : Progress σ) : Action → Progress σ
  | .opened note path => progress.opened note path
  | .lineRead => progress.lineRead
  | .followed location target => progress.traced (.including location target)
  | .recorded problem => progress.record problem
  | .delivered line location => progress.delivered handler line location

/-- The progress after a list of actions. -/
def replay (progress : Progress σ) (actions : List Action) : Progress σ :=
  actions.foldl (act handler) progress

@[simp] theorem replay_nil (progress : Progress σ) : progress.replay handler [] = progress := rfl

@[simp] theorem replay_cons (progress : Progress σ) (action : Action) (rest : List Action) :
    progress.replay handler (action :: rest) = (progress.act handler action).replay handler rest :=
  rfl

@[simp] theorem replay_append (progress : Progress σ) (first rest : List Action) :
    progress.replay handler (first ++ rest) = (progress.replay handler first).replay handler rest :=
  List.foldl_append

end Progress

/-- An open file: how it was reached, and how far it has been read. -/
structure Frame where
  /-- The directives that led to the file. -/
  chain : Chain
  /-- What the file is known by. -/
  identity : Identity
  /-- The failure that reading it ends in, if it does. -/
  fault : Option Fault
  /-- The line that was read last. -/
  location : Location
  /-- The lines that have not been read. -/
  lines : List (List UInt8)

namespace Frame

/-- The path by which the file was opened. -/
def path (frame : Frame) : Path :=
  frame.location.source

/-- A file that has just opened. -/
def first (snapshot : Snapshot) (settings : Settings) (chain : Chain) (path : Path)
    (source : Source) : Frame :=
  ⟨chain, snapshot.identity path, source.fault, { source := path, note := settings.note chain },
    source.lines⟩

/-- The file after its next line has been read. -/
def past (frame : Frame) : Frame :=
  { frame with location := frame.location.next, lines := frame.lines.tail }

/-- The directive on the line that was read last, as a link of a chain. -/
def link (frame : Frame) : Link :=
  ⟨frame.path, frame.location.line, frame.identity⟩

@[simp] theorem past_chain (frame : Frame) : frame.past.chain = frame.chain := rfl

@[simp] theorem past_identity (frame : Frame) : frame.past.identity = frame.identity := rfl

@[simp] theorem past_fault (frame : Frame) : frame.past.fault = frame.fault := rfl

@[simp] theorem past_path (frame : Frame) : frame.past.path = frame.path := rfl

@[simp] theorem past_location (frame : Frame) : frame.past.location = frame.location.next := rfl

@[simp] theorem link_identity (frame : Frame) : frame.link.identity = frame.identity := rfl

end Frame

/-- A moment of a parse. -/
inductive Position where
  /-- The file at `path`, reached through `chain`, is about to be entered. -/
  | entering (chain : Chain) (path : Path) (frames : List Frame)
  /-- The innermost open file is being read; when none is open, the parse is over. -/
  | reading (frames : List Frame)

/-- The open files, innermost first. -/
def Position.frames : Position → List Frame
  | .entering _ _ frames | .reading frames => frames

section

variable (snapshot : Snapshot) (settings : Settings)

/-- One step of a parse, with what it does. -/
inductive Step : Position → List Action → Position → Prop where
  | loop {chain path frames link}
      (found : chain.find? (snapshot.identity path) = some link) :
      Step (.entering chain path frames) [.recorded (.loop (settings.note chain) path link)]
        (.reading frames)
  | unopened {chain path frames fault}
      (new : chain.find? (snapshot.identity path) = none)
      (fails : snapshot.source path = .error fault) :
      Step (.entering chain path frames) [.recorded (.unopened (settings.note chain) path fault)]
        (.reading frames)
  | opened {chain path frames source}
      (new : chain.find? (snapshot.identity path) = none)
      (opens : snapshot.source path = .ok source) :
      Step (.entering chain path frames) [.opened (settings.note chain) path]
        (.reading (.first snapshot settings chain path source :: frames))
  | dropped {frame below line rest}
      (ahead : frame.lines = line :: rest)
      (means : settings.meaning (Source.lineText line) = .dropped) :
      Step (.reading (frame :: below)) [.lineRead] (.reading (frame.past :: below))
  | nameless {frame below line rest}
      (ahead : frame.lines = line :: rest)
      (means : settings.meaning (Source.lineText line) = .nameless) :
      Step (.reading (frame :: below))
        [.lineRead, .recorded (.nameless (frame.location.next.withContent (Source.lineText line)))]
        (.reading (frame.past :: below))
  | followed {frame below line rest name}
      (ahead : frame.lines = line :: rest)
      (means : settings.meaning (Source.lineText line) = .directive name) :
      Step (.reading (frame :: below))
        [.lineRead, .followed frame.location.next (frame.path.includedFrom ⟨name⟩)]
        (.entering (frame.chain.extended frame.location.next frame.identity)
          (frame.path.includedFrom ⟨name⟩) (frame.past :: below))
  | delivered {frame below line rest content}
      (ahead : frame.lines = line :: rest)
      (means : settings.meaning (Source.lineText line) = .content content) :
      Step (.reading (frame :: below)) [.lineRead, .delivered content frame.location.next]
        (.reading (frame.past :: below))
  | ended {frame below}
      (atEnd : frame.lines = []) (sound : frame.fault = none) :
      Step (.reading (frame :: below)) [] (.reading below)
  | failed {frame below fault}
      (atEnd : frame.lines = []) (fails : frame.fault = some fault) :
      Step (.reading (frame :: below)) [.recorded (.unreadable frame.location.next fault)]
        (.reading below)

/-- Zero or more steps, with everything that they do. -/
inductive Run : Position → List Action → Position → Prop where
  | refl {position} : Run position [] position
  | step {start actions position more next}
      (prior : Run start actions position) (step : Step snapshot settings position more next) :
      Run start (actions ++ more) next

end

variable {snapshot : Snapshot} {settings : Settings}

/-- From one position there is at most one step. -/
theorem Step.unique {position left right : Position} {actions others : List Action}
    (one : Step snapshot settings position actions left)
    (other : Step snapshot settings position others right) :
    actions = others ∧ left = right := by
  cases one with
  | loop found =>
    cases other with
    | loop found' => simp_all
    | unopened new _ => simp_all
    | opened new _ => simp_all
  | unopened new fails =>
    cases other with
    | loop found => simp_all
    | unopened _ fails' => simp_all
    | opened _ opens => simp_all
  | opened new opens =>
    cases other with
    | loop found => simp_all
    | unopened _ fails => simp_all
    | opened _ opens' => simp_all
  | dropped ahead means => cases other <;> simp_all
  | nameless ahead means => cases other <;> simp_all
  | followed ahead means => cases other <;> simp_all
  | delivered ahead means => cases other <;> simp_all
  | ended atEnd sound => cases other <;> simp_all
  | failed atEnd fails => cases other <;> simp_all

/-- Once no file is open there is nothing left to do. -/
theorem Step.not_of_done {actions : List Action} {next : Position} :
    ¬ Step snapshot settings (.reading []) actions next := by
  intro step
  cases step

namespace Run

/-- A single step is a run. -/
theorem single {position next : Position} {actions : List Action}
    (step : Step snapshot settings position actions next) :
    Run snapshot settings position actions next := by
  simpa using Run.step .refl step

/-- Two runs that meet make one. -/
theorem trans {start middle final : Position} {actions more : List Action}
    (first : Run snapshot settings start actions middle)
    (second : Run snapshot settings middle more final) :
    Run snapshot settings start (actions ++ more) final := by
  induction second with
  | refl => simpa using first
  | step _ step ih =>
    rw [← List.append_assoc]
    exact .step ih step

/-- A run is empty or has a first step. -/
theorem head {start final : Position} {actions : List Action}
    (run : Run snapshot settings start actions final) :
    (actions = [] ∧ start = final) ∨
      ∃ first next rest, Step snapshot settings start first next ∧
        Run snapshot settings next rest final ∧ actions = first ++ rest := by
  induction run with
  | refl => exact .inl ⟨rfl, rfl⟩
  | @step actions position more next prior step ih =>
    right
    rcases ih with ⟨rfl, rfl⟩ | ⟨first, second, rest, start, onward, rfl⟩
    · exact ⟨more, next, [], step, .refl, by simp⟩
    · exact ⟨first, second, rest ++ more, start, .step onward step, by simp⟩

/-- Every run is the beginning of the run to the end. -/
theorem completes {start position : Position} {actions all : List Action}
    (run : Run snapshot settings start actions position)
    (complete : Run snapshot settings start all (.reading [])) :
    ∃ rest, Run snapshot settings position rest (.reading []) ∧ all = actions ++ rest := by
  induction run with
  | refl => exact ⟨all, complete, rfl⟩
  | step prior step ih =>
    obtain ⟨rest, onward, rfl⟩ := ih
    rcases onward.head with ⟨_, rfl⟩ | ⟨first, second, rest, start, onward, rfl⟩
    · exact absurd step Step.not_of_done
    · obtain ⟨rfl, rfl⟩ := step.unique start
      exact ⟨rest, onward, by simp⟩

/-- There is one run to the end, and it is over when it gets there. -/
theorem unique {start : Position} {actions others : List Action}
    (run : Run snapshot settings start actions (.reading []))
    (other : Run snapshot settings start others (.reading [])) : actions = others := by
  obtain ⟨rest, onward, rfl⟩ := run.completes other
  rcases onward.head with ⟨rfl, _⟩ | ⟨_, _, _, step, _⟩
  · exact (List.append_nil actions).symm
  · exact absurd step Step.not_of_done

/-- What a run does is done by one of its steps. -/
theorem exists_step_of_mem {start final : Position} {actions : List Action} {action : Action}
    (run : Run snapshot settings start actions final) (done : action ∈ actions) :
    ∃ before position more next, Run snapshot settings start before position ∧
      Step snapshot settings position more next ∧ action ∈ more := by
  induction run with
  | refl => cases done
  | step prior step ih =>
    rcases List.mem_append.1 done with earlier | now
    · exact ih earlier
    · exact ⟨_, _, _, _, prior, step, now⟩

end Run

end Splice
