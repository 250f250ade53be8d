import Splice.Proofs.Agreement

/-!
# Stepping

The steps of a parse can be made one after the other. `Position.step?` finds the step that there is
from a position (`step?_eq_some_iff`), and a parse that is over after some number of steps does what
they do (`parses_doneWithin`). So what a parse of a small tree comes to can be computed, although
`visit` and `scan` recur on what has not been opened yet.

The relation is still what a step is. How many steps a parse takes is not said here.
-/

namespace Splice

variable (snapshot : Snapshot) (settings : Settings)

namespace Position

/-- The step from a position, if the parse is not over: what is done, and where that leads. -/
def step? : Position → Option (List Action × Position)
  | .entering chain path frames =>
    match chain.find? (snapshot.identity path), snapshot.source path with
    | some link, _ => some ([.recorded (.loop (settings.note chain) path link)], .reading frames)
    | none, .error fault =>
      some ([.recorded (.unopened (settings.note chain) path fault)], .reading frames)
    | none, .ok source =>
      some ([.opened (settings.note chain) path],
        .reading (.first snapshot settings chain path source :: frames))
  | .reading [] => none
  | .reading (frame :: below) =>
    let here := frame.location.next
    match frame.lines, frame.fault with
    | [], none => some ([], .reading below)
    | [], some fault => some ([.recorded (.unreadable here fault)], .reading below)
    | line :: _, _ =>
      let text := Source.lineText line
      match settings.meaning text with
      | .dropped => some ([.lineRead], .reading (frame.past :: below))
      | .nameless =>
        some ([.lineRead, .recorded (.nameless (here.withContent text))],
          .reading (frame.past :: below))
      | .directive name =>
        let target := frame.path.includedFrom ⟨name⟩
        some ([.lineRead, .followed here target],
          .entering (frame.chain.extended here frame.identity) target (frame.past :: below))
      | .content content =>
        some ([.lineRead, .delivered content here], .reading (frame.past :: below))

variable {snapshot settings}

/-- What is found is a step, and every step is found. -/
theorem step?_eq_some_iff {position next : Position} {actions : List Action} :
    position.step? snapshot settings = some (actions, next) ↔
      Step snapshot settings position actions next := by
  constructor
  · intro found
    unfold step? at found
    split at found
    · split at found
      all_goals
        obtain ⟨rfl, rfl⟩ := by simpa using found
      · exact .loop ‹_›
      · exact .unopened ‹_› ‹_›
      · exact .opened ‹_› ‹_›
    · cases found
    · split at found
      · obtain ⟨rfl, rfl⟩ := by simpa using found
        exact .ended ‹_› ‹_›
      · obtain ⟨rfl, rfl⟩ := by simpa using found
        exact .failed ‹_› ‹_›
      · dsimp only at found
        split at found
        all_goals
          obtain ⟨rfl, rfl⟩ := by simpa using found
        · exact .dropped ‹_› ‹_›
        · exact .nameless ‹_› ‹_›
        · exact .followed ‹_› ‹_›
        · exact .delivered ‹_› ‹_›
  · intro step
    cases step <;> simp [step?, *]

/-- Whether a parse is over when it comes there. -/
def isOver : Position → Bool
  | .reading [] => true
  | _ => false

@[simp] theorem isOver_iff {position : Position} :
    position.isOver = true ↔ position = .reading [] := by
  unfold isOver
  split <;> simp_all

variable (snapshot settings) in
/-- The position after so many steps, and what has been done on the way. Once the parse is over, it
stays where it is. -/
def stepped : Nat → Position → List Action × Position
  | 0, position => ([], position)
  | n + 1, position =>
    match position.step? snapshot settings with
    | none => ([], position)
    | some (actions, next) =>
      let (more, final) := stepped n next
      (actions ++ more, final)

/-- Steps that are made one after the other are a run. -/
theorem run_stepped (n : Nat) (position : Position) :
    Run snapshot settings position (stepped snapshot settings n position).1
      (stepped snapshot settings n position).2 := by
  induction n generalizing position with
  | zero => exact .refl
  | succ n ih =>
    rw [stepped]
    split
    · exact .refl
    · next actions next found =>
      exact .trans (.single (step?_eq_some_iff.1 found)) (ih next)

end Position

/-- What a parse does in its first steps, and whether it is over after them. -/
def doneWithin (n : Nat) (homes : Homes) (root : Path) : List Action × Bool :=
  match homes.resolve root with
  | .error _ => ([], false)
  | .ok path =>
    let (actions, final) := Position.stepped snapshot settings n (.entering {} path [])
    (actions, final.isOver)

variable {snapshot settings}

/-- A parse that is over has done all that it does. -/
theorem parses_doneWithin {n : Nat} {homes : Homes} {root : Path}
    (done : (doneWithin snapshot settings n homes root).2 = true) :
    Parses snapshot settings homes root (doneWithin snapshot settings n homes root).1 := by
  obtain ⟨all, parses⟩ := exists_parses snapshot settings homes root
  unfold doneWithin at done ⊢
  cases resolved : homes.resolve root with
  | error cause => simp [resolved] at done
  | ok path =>
    simp only [resolved, Position.isOver_iff] at done ⊢
    have run : Run snapshot settings _ _ _ := Position.run_stepped n (.entering {} path [])
    rw [done] at run
    rw [run.unique (parses.run path resolved)]
    exact parses

end Splice
