import Splice.Proofs.Accounting
import Splice.Proofs.Lines
import Splice.Proofs.Origin
import Splice.Proofs.Simulation
import Splice.Proofs.Stepping

/-!
# Faults

A fault costs the file or the line that it names, and nothing else. A file system is mended by
putting an empty file where nothing opens, and in place of a file that fails the lines that come
before the failure (`Snapshot.Mended`). The parse of the mended file system is that of the faulty
one without its faults, step by step (`Step.mended`): a handler is given the same lines, and the
problems are the same but for those that say what did not open or could not be read
(`faults_local`).

An empty file that is put where nothing opened could be mistaken for an open file if it had the
identity of one. It is asked that it has not, nor had the path before.
-/

namespace Splice

/-! ## Mended files -/

/-- What is to be read in place of a source: the source itself, or where it fails, the lines that it
yields before it does. -/
inductive Source.Mended : Source → Source → Prop where
  | intact {source} (sound : source.fault = none) : Mended source source
  | cut {source fault partner} (fails : source.fault = some fault)
      (content : partner.content = source.lines.flatten) (sound : partner.fault = none) :
      Mended source partner

namespace Source.Mended

variable {source partner : Source}

/-- No line is lost or gained. -/
theorem lines_eq (mended : source.Mended partner) : partner.lines = source.lines := by
  cases mended with
  | intact => rfl
  | cut fails content => exact lines_of_content_eq fails content

/-- The failure is gone. -/
theorem fault_eq (mended : source.Mended partner) : partner.fault = none := by
  cases mended with
  | intact sound => exact sound
  | cut _ _ sound => exact sound

end Source.Mended

section

variable (settings : Settings) (homes : Homes) (root : Path)

/-- The root, and what the directives of its files lead to. -/
def Snapshot.Leads (snapshot : Snapshot) (path : Path) : Prop :=
  ∃ links, Trail snapshot settings homes root links path

/-- `other` is `one` without its faults. It matters only where the directives of the root lead. -/
structure Snapshot.Mended (one other : Snapshot) : Prop where
  /-- Where nothing opens there is an empty file. -/
  unopened : ∀ path fault, one.Leads settings homes root path → one.source path = .error fault →
    ∃ source, other.source path = .ok source ∧ source.content = [] ∧ source.fault = none
  /-- What opens is still there, up to its failure if it has one. -/
  opened : ∀ path source, one.Leads settings homes root path → one.source path = .ok source →
    other.canonical? path = one.canonical? path ∧
      ∃ partner, other.source path = .ok partner ∧ source.Mended partner
  /-- What does not open is not known as a file that does, before or after. -/
  apart : ∀ path fault file source, one.Leads settings homes root path →
    one.Leads settings homes root file → one.source path = .error fault →
    one.source file = .ok source →
    one.identity path ≠ one.identity file ∧ other.identity path ≠ other.identity file

end

/-! ## What is left of a parse -/

/-- An action where there are no faults: a file opens that did not, and no failure is recorded. -/
def Action.mended? : Action → Option Action
  | .recorded (.unopened note path _) => some (.opened note path)
  | .recorded (.unreadable ..) => none
  | action => some action

/-- Whether a problem is a fault of the file system. -/
def Problem.isFault (problem : Problem) : Bool :=
  problem.kind = .unopened || problem.kind = .unreadable

/-- The events, less the problems that are faults. -/
def Event.withoutFaults (events : List Event) : List Event :=
  events.filter fun
    | .delivered .. => true
    | .recorded problem => !problem.isFault

@[simp] theorem Event.withoutFaults_append (first rest : List Event) :
    withoutFaults (first ++ rest) = withoutFaults first ++ withoutFaults rest :=
  List.filter_append ..

namespace Action

/-- What becomes of one action: without the fault it is seen no more, it reads as many lines, and it
opens a file if it did or said that none opens. -/
theorem mended_single (action : Action) :
    events ([action].filterMap mended?) = Event.withoutFaults (events [action]) ∧
      linesRead ([action].filterMap mended?) = linesRead [action] ∧
      filesOpened ([action].filterMap mended?) =
        filesOpened [action] +
          (Event.recordings (events [action])).countP (·.kind = .unopened) := by
  cases action with
  | recorded problem => cases problem <;> exact ⟨rfl, rfl, rfl⟩
  | opened | lineRead | followed | delivered => exact ⟨rfl, rfl, rfl⟩

/-- What becomes of actions, likewise. -/
theorem mended_all (actions : List Action) :
    events (actions.filterMap mended?) = Event.withoutFaults (events actions) ∧
      linesRead (actions.filterMap mended?) = linesRead actions ∧
      filesOpened (actions.filterMap mended?) =
        filesOpened actions + (Event.recordings (events actions)).countP (·.kind = .unopened) := by
  induction actions with
  | nil => exact ⟨rfl, rfl, rfl⟩
  | cons action rest ih =>
    obtain ⟨seen, read, opened⟩ := mended_single action
    obtain ⟨seen', read', opened'⟩ := ih
    rw [← List.singleton_append, List.filterMap_append]
    refine ⟨?_, ?_, ?_⟩
    · rw [events_append, events_append, Event.withoutFaults_append, seen, seen']
    · rw [linesRead_append, linesRead_append, read, read']
    · rw [filesOpened_append, filesOpened_append, events_append, Event.recordings_append,
        List.countP_append, opened, opened']
      omega

end Action

namespace Event

variable (events : List Event)

/-- The same lines are delivered. -/
@[simp] theorem deliveries_withoutFaults :
    deliveries (withoutFaults events) = deliveries events := by
  induction events with
  | nil => rfl
  | cons event rest ih =>
    cases event with
    | delivered line location => simpa [withoutFaults] using ih
    | recorded problem =>
      cases isFault : problem.isFault <;> simpa [withoutFaults, isFault] using ih

/-- A refusal is no fault, so it is left where it stood. -/
theorem problems_withoutFaults {σ : Type} (handler : Handler σ) (state : σ) :
    problems handler state (withoutFaults events) =
      (problems handler state events).filter fun problem => !problem.isFault := by
  induction events generalizing state with
  | nil => rfl
  | cons event rest ih =>
    cases event with
    | delivered line location =>
      have onward := ih (handler.deliver state line location).1
      cases answer : (handler.deliver state line location).2 <;>
        simpa [withoutFaults, problems, answer, Problem.isFault, Problem.kind] using onward
    | recorded problem =>
      have onward := ih state
      cases isFault : problem.isFault <;>
        simpa [withoutFaults, problems, isFault] using onward

end Event

/-! ## Step by step -/

/-- An open file that will not fail. -/
def Frame.mended (frame : Frame) : Frame :=
  { frame with fault := none }

/-- A moment of a parse, with open files that will not fail. -/
def Position.mended : Position → Position
  | .entering chain path frames => .entering chain path (frames.map Frame.mended)
  | .reading frames => .reading (frames.map Frame.mended)

section

variable {one other : Snapshot} {settings : Settings} {homes : Homes} {root : Path}

/-- Directives lead from the root to a file that is about to be entered, and to those that are open
meanwhile. -/
theorem Nested.leads {frames : List Frame} {path : Path}
    (nested : Nested one settings homes root frames path) :
    one.Leads settings homes root path ∧
      ∀ frame ∈ frames, one.Leads settings homes root frame.path := by
  refine ⟨⟨_, nested.trail⟩, ?_⟩
  induction nested with
  | root resolved => simp
  | inner outer _ _ ih => exact List.forall_mem_cons.2 ⟨⟨_, outer.trail⟩, ih⟩

/-- An identity that no open file has is not found among them. -/
theorem Chain.find?_ofFrames_eq_none {frames : List Frame} {identity : Identity}
    (new : ∀ frame ∈ frames, identity ≠ frame.identity) :
    (Chain.ofFrames frames).find? identity = none := by
  refine Chain.find?_eq_none_iff.2 fun isIn => ?_
  obtain ⟨frame, isOpen, same⟩ : ∃ frame ∈ frames, frame.identity = identity := by
    simpa using isIn
  exact new frame isOpen same.symm

namespace Snapshot.Mended

variable (mended : one.Mended settings homes root other)
include mended

/-- A file that opens is known as before. -/
theorem identity_eq {path : Path} {source : Source} (leads : one.Leads settings homes root path)
    (opens : one.source path = .ok source) : other.identity path = one.identity path := by
  rw [identity, identity, (mended.opened path source leads opens).1]

/-- An open file is known in the mended file system as it is here. -/
theorem identity_of_open {chain : Chain} {path : Path} {frames : List Frame} {frame : Frame}
    (reached : Reached one settings homes root (.entering chain path frames))
    (isOpen : frame ∈ frames) :
    one.Leads settings homes root frame.path ∧ frame.identity = one.identity frame.path ∧
      other.identity frame.path = one.identity frame.path ∧
      ∃ source, one.source frame.path = .ok source := by
  obtain ⟨identified, source, opens⟩ := reached.frames_distinct.2 frame isOpen
  have leads := reached.sound.2.leads.2 frame isOpen
  exact ⟨leads, identified, mended.identity_eq leads opens, source, opens⟩

/-- What does not open is no open file, in either file system. -/
theorem new_of_unopened {chain : Chain} {path : Path} {frames : List Frame} {fault : Fault}
    (reached : Reached one settings homes root (.entering chain path frames))
    (fails : one.source path = .error fault) :
    chain.find? (one.identity path) = none ∧ chain.find? (other.identity path) = none := by
  obtain ⟨rfl, nested⟩ := reached.sound
  have unknown : ∀ frame ∈ frames,
      one.identity path ≠ frame.identity ∧ other.identity path ≠ frame.identity := by
    intro frame isOpen
    obtain ⟨leads, identified, same, source, opens⟩ := mended.identity_of_open reached isOpen
    have apart := mended.apart path fault frame.path source nested.leads.1 leads fails opens
    rwa [same, ← identified] at apart
  exact ⟨Chain.find?_ofFrames_eq_none fun frame isOpen => (unknown frame isOpen).1,
    Chain.find?_ofFrames_eq_none fun frame isOpen => (unknown frame isOpen).2⟩

/-- A file that has just opened is the same in the mended file system, and will not fail. -/
theorem first_eq {chain : Chain} {path : Path} {source partner : Source}
    (leads : one.Leads settings homes root path) (opens : one.source path = .ok source)
    (mends : source.Mended partner) :
    Frame.first other settings chain path partner =
      (Frame.first one settings chain path source).mended := by
  simp only [Frame.first, Frame.mended, mended.identity_eq leads opens, mends.lines_eq,
    mends.fault_eq]

end Snapshot.Mended

/-- Each step is made in the mended file system as well, less its fault. A file that does not open
is read to its end at once, as there is nothing in it; a failure is the end of the file. -/
theorem Step.mended {position next : Position} {actions : List Action}
    (mended : one.Mended settings homes root other)
    (reached : Reached one settings homes root position)
    (step : Step one settings position actions next) :
    Run other settings position.mended (actions.filterMap Action.mended?) next.mended := by
  cases step with
  | @loop chain path frames link found =>
    cases content : one.source path with
    | error fault =>
      have new := (mended.new_of_unopened reached content).1
      rw [new] at found
      cases found
    | ok source =>
      rw [← mended.identity_eq reached.sound.2.leads.1 content] at found
      exact .single (.loop found)
  | @unopened chain path frames fault _ fails =>
    have new := (mended.new_of_unopened reached fails).2
    obtain ⟨source, opens, empty, sound⟩ :=
      mended.unopened path fault reached.sound.2.leads.1 fails
    have atEnd : (Frame.first other settings chain path source).lines = [] :=
      Source.lines_of_content_nil empty
    exact .trans (.single (.opened new opens)) (.single (.ended atEnd sound))
  | @opened chain path frames source new opens =>
    have leads := reached.sound.2.leads.1
    obtain ⟨-, partner, opens', mends⟩ := mended.opened path source leads opens
    rw [← mended.identity_eq leads opens] at new
    have onward : Run other settings _ _ (.reading (_ :: frames.map Frame.mended)) :=
      .single (.opened new opens')
    rw [mended.first_eq leads opens mends] at onward
    exact onward
  | @dropped frame _ line rest ahead means =>
    have ahead : frame.mended.lines = line :: rest := ahead
    exact .single (.dropped ahead means)
  | @nameless frame _ line rest ahead means =>
    have ahead : frame.mended.lines = line :: rest := ahead
    exact .single (.nameless ahead means)
  | @followed frame _ line rest _ ahead means =>
    have ahead : frame.mended.lines = line :: rest := ahead
    exact .single (.followed ahead means)
  | @delivered frame _ line rest _ ahead means =>
    have ahead : frame.mended.lines = line :: rest := ahead
    exact .single (.delivered ahead means)
  | @ended frame _ atEnd _ =>
    have atEnd : frame.mended.lines = [] := atEnd
    exact .single (.ended atEnd rfl)
  | @failed frame _ _ atEnd _ =>
    have atEnd : frame.mended.lines = [] := atEnd
    exact .single (.ended atEnd rfl)

/-- What a whole parse does, it does in the mended file system, less the faults. -/
theorem Parses.mended {actions others : List Action} {path : Path}
    (mended : one.Mended settings homes root other) (resolved : homes.resolve root = .ok path)
    (parses : Parses one settings homes root actions)
    (parses' : Parses other settings homes root others) :
    others = actions.filterMap Action.mended? := by
  let compare (actions others : List Action) : Prop :=
    others = actions.filterMap Action.mended?
  have append {first first' rest rest' : List Action} (one : compare first first')
      (two : compare rest rest') : compare (first ++ rest) (first' ++ rest') := by
    simp only [compare] at one two ⊢
    rw [one, two, List.filterMap_append]
  exact Parses.simulate Position.mended compare rfl append
    (fun reached step => ⟨_, step.mended mended reached, rfl⟩) rfl rfl resolved resolved parses
    parses'

end

/-! ## Whole parses -/

/-- Faults stay local. Take a parse whose root has a path, and the same parse where the faults that
it can meet are mended. A handler gets the same calls with the same locations, and is left in the
same state. As many lines are read and delivered, and each file opens that did, as well as each that
did not. The problems are the same, in the same order, less those that were faults. -/
theorem faults_local {σ : Type} (one other : Snapshot) (settings : Settings) (homes : Homes)
    (root path : Path) (resolved : homes.resolve root = .ok path)
    (mended : one.Mended settings homes root other) (handler : Handler σ) (state : σ) :
    let before := parse one settings handler homes root state
    let after := parse other settings handler homes root state
    calls other settings handler homes root state = calls one settings handler homes root state ∧
      after.state = before.state ∧
      after.tally.linesRead = before.tally.linesRead ∧
      after.tally.linesParsed = before.tally.linesParsed ∧
      after.tally.filesVisited = before.tally.filesVisited + before.count .unopened ∧
      after.problems.toList =
        before.problems.toList.filter (fun problem => !problem.isFault) := by
  intro before after
  obtain ⟨actions, parses⟩ := exists_parses one settings homes root
  obtain ⟨others, parses'⟩ := exists_parses other settings homes root
  obtain rfl := parses.mended mended resolved parses'
  obtain ⟨seen, read, opened⟩ := Action.mended_all actions
  have delivered : Event.deliveries (Expansion.ofRoot other settings homes root) =
      Event.deliveries (Expansion.ofRoot one settings homes root) := by
    rw [← parses'.events, ← parses.events, seen, Event.deliveries_withoutFaults]
  have tally := Progress.tally_replay handler { state } actions
  have tally' := Progress.tally_replay handler { state } (actions.filterMap Action.mended?)
  rw [← parses.parse_eq] at tally
  rw [← parses'.parse_eq, seen, Event.deliveries_withoutFaults, read, opened] at tally'
  refine ⟨?_, ?_, ?_, ?_, ?_, ?_⟩
  · rw [calls_eq, calls_eq, delivered]
  · rw [state_parse, state_parse, delivered]
  · rw [tally, tally']
  · rw [tally, tally']
  · rw [tally, tally', count_parse handler homes root state (by decide), ← parses.events]
    exact (Nat.add_assoc ..).symm
  · rw [parses.problems_eq, parses'.problems_eq, seen, Event.problems_withoutFaults]

/-! ## A broken tree -/

/-- Where directives cannot lead out of a list of paths that has the root, they lead to none but
these. -/
theorem Snapshot.Leads.mem_of_closed {snapshot : Snapshot} {settings : Settings} {homes : Homes}
    {root path : Path} {paths : List Path} (leads : snapshot.Leads settings homes root path)
    (starts : ∀ path ∈ (homes.resolve root).toOption, path ∈ paths)
    (closed : ∀ path ∈ paths, ∀ source ∈ (snapshot.source path).toOption, ∀ line ∈ source.lines,
      ∀ name ∈ settings.target? (settings.stripComment (Source.lineText line)),
        path.includedFrom ⟨name⟩ ∈ paths) : path ∈ paths := by
  obtain ⟨links, trail⟩ := leads
  induction trail with
  | root resolved => exact starts _ (by simp [resolved, Except.toOption])
  | @inner links path number target _ directs ih =>
    obtain ⟨source, line, name, opens, isLine, names, -, rfl⟩ := directs
    refine closed path ih source (by simp [opens, Except.toOption]) line ?_ name names
    cases number with
    | zero => cases isLine
    | succ index => exact List.mem_of_getElem? isLine

/-- A file that includes one that is not there, and one whose reading fails in its second line. The
latter includes what is not there as well. -/
def broken : List Observation :=
  let first := Source.ofBytes (Utf8.encode "#include b\n#include d\nx\n".toList)
  let failing : Source := ⟨[.data (Utf8.encode "#include b\ny".toList)], some (.system 5)⟩
  [⟨⟨['/', 'a']⟩, some ⟨['/', 'a']⟩, .ok first⟩, ⟨⟨['/', 'd']⟩, some ⟨['/', 'd']⟩, .ok failing⟩]

/-- The same with an empty file in place of the missing one, and what there is of the other. -/
def repaired : List Observation :=
  let first := Source.ofBytes (Utf8.encode "#include b\n#include d\nx\n".toList)
  let whole := Source.ofBytes (Utf8.encode "#include b\n".toList)
  [⟨⟨['/', 'a']⟩, some ⟨['/', 'a']⟩, .ok first⟩, ⟨⟨['/', 'b']⟩, some ⟨['/', 'b']⟩, .ok ⟨[], none⟩⟩,
    ⟨⟨['/', 'd']⟩, some ⟨['/', 'd']⟩, .ok whole⟩]

/-- The directives in the broken tree lead to three paths. -/
theorem mem_of_leads_broken {path : Path}
    (leads : (Snapshot.ofObservations broken).Leads {} ⟨none, .ok []⟩ ⟨['/', 'a']⟩ path) :
    path ∈ [(⟨['/', 'a']⟩ : Path), ⟨['/', 'b']⟩, ⟨['/', 'd']⟩] :=
  leads.mem_of_closed (by decide +kernel) (by decide +kernel)

/-- The repaired tree is the broken one without its faults. -/
theorem mended_broken :
    (Snapshot.ofObservations broken).Mended {} ⟨none, .ok []⟩ ⟨['/', 'a']⟩
      (.ofObservations repaired) where
  unopened path fault leads fails := by
    have isIn := mem_of_leads_broken leads
    simp only [List.mem_cons, List.not_mem_nil, or_false] at isIn
    obtain rfl | rfl | rfl := isIn
    · cases fails
    · exact ⟨⟨[], none⟩, rfl, rfl, rfl⟩
    · cases fails
  opened path source leads opens := by
    have isIn := mem_of_leads_broken leads
    simp only [List.mem_cons, List.not_mem_nil, or_false] at isIn
    obtain rfl | rfl | rfl := isIn
    · obtain rfl := Except.ok.inj opens
      exact ⟨rfl, _, rfl, .intact rfl⟩
    · cases opens
    · obtain rfl := Except.ok.inj opens
      exact ⟨rfl, _, rfl, .cut rfl (by decide +kernel) rfl⟩
  apart path fault file source leads leads' fails opens := by
    have isIn := mem_of_leads_broken leads
    have isIn' := mem_of_leads_broken leads'
    simp only [List.mem_cons, List.not_mem_nil, or_false] at isIn isIn'
    obtain rfl | rfl | rfl := isIn
    · cases fails
    · obtain rfl | rfl | rfl := isIn'
      · decide
      · cases opens
      · decide
    · cases fails

/-- Three faults at two depths are gone once the tree is repaired, and nothing else is. -/
theorem broken_faults_local :
    let one := Snapshot.ofObservations broken
    let other := Snapshot.ofObservations repaired
    let homes : Homes := ⟨none, .ok []⟩
    let root : Path := ⟨['/', 'a']⟩
    let before := parse one {} Handler.discard homes root ()
    let after := parse other {} Handler.discard homes root ()
    homes.resolve root = .ok root ∧ one.Mended {} homes root other ∧
      before.problems.toList.map Problem.kind = [.unopened, .unopened, .unreadable] ∧
      calls other {} Handler.discard homes root () = calls one {} Handler.discard homes root () ∧
      after.state = before.state ∧
      after.tally.linesRead = before.tally.linesRead ∧
      after.tally.linesParsed = before.tally.linesParsed ∧
      after.tally.filesVisited = before.tally.filesVisited + before.count .unopened ∧
      after.problems.toList =
        before.problems.toList.filter (fun problem => !problem.isFault) := by
  intro one other homes root before after
  have kinds : (parse one {} Handler.discard homes root ()).problems.toList.map Problem.kind =
      [.unopened, .unopened, .unreadable] := by
    rw [(parses_doneWithin (n := 12) (by decide)).parse_eq]
    decide
  exact ⟨rfl, mended_broken, kinds,
    faults_local one other {} homes root root rfl mended_broken Handler.discard ()⟩

end Splice
