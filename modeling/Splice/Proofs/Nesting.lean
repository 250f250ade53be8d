import Mathlib.Data.Set.Card
import Splice.Observation
import Splice.Proofs.Agreement

/-!
# Nesting

How the open files of a parse are nested in one another. In every position that a parse comes to,
each open file stands at a directive that names the file above it (`Nested`), and its chain is made
of exactly those directives. `Step.sound` shows that each step keeps this; what is said later about
chains, notes and links is read off it.

It follows that no file is open twice, and so how deep files can nest (`parse_bounded`).
-/

namespace Splice

/-- The line of the given number, with its ending. Lines are numbered from one. -/
def Source.line? (source : Source) : Nat → Option (List UInt8)
  | 0 => none
  | number + 1 => source.lines[number]?

/-- The directives that are being followed in open files, which are given innermost first. -/
def Chain.ofFrames (frames : List Frame) : Chain :=
  ⟨(frames.map Frame.link).reverse⟩

@[simp] theorem Chain.ofFrames_nil : Chain.ofFrames [] = {} := rfl

theorem Chain.ofFrames_cons (frame : Frame) (below : List Frame) :
    Chain.ofFrames (frame :: below) =
      (Chain.ofFrames below).extended frame.location frame.identity := by
  simp [Chain.ofFrames, Chain.extended, Frame.link, Frame.path]

@[simp] theorem Chain.identities_ofFrames (frames : List Frame) :
    (Chain.ofFrames frames).identities = (frames.map Frame.identity).reverse := by
  simp [Chain.ofFrames, Chain.identities]

section

variable (snapshot : Snapshot) (settings : Settings)

/-- Line `number` of the file at `path` is a directive, and it names the file at `target`. -/
def Directs (path : Path) (number : Nat) (target : Path) : Prop :=
  ∃ source line name, snapshot.source path = .ok source ∧ source.line? number = some line ∧
    settings.target? (settings.stripComment (Source.lineText line)) = some name ∧ name ≠ [] ∧
    path.includedFrom ⟨name⟩ = target

/-- How an open file relates to the snapshot and to the files below it. -/
structure Frame.Stands (frame : Frame) (below : List Frame) : Prop where
  /-- It was reached through the directives that are followed below it. -/
  chain_eq : frame.chain = Chain.ofFrames below
  /-- It is known by its canonical path. -/
  identity_eq : frame.identity = snapshot.identity frame.path
  /-- It is not open below. -/
  new : frame.identity ∉ below.map Frame.identity
  /-- It is spoken of as its chain says. -/
  note_eq : frame.location.note = settings.note frame.chain
  /-- No line is on record. -/
  content_eq : frame.location.content = none
  /-- It holds what opening its path yields, from the line after the last that was read. -/
  source : ∃ source, snapshot.source frame.path = .ok source ∧ frame.fault = source.fault ∧
    frame.location.line ≤ source.lines.length ∧
    frame.lines = source.lines.drop frame.location.line

/-- Open files, innermost first, lead from the root to a path: each stands at a directive that names
the one above it, and the innermost at one that names the path. -/
inductive Nested (homes : Homes) (root : Path) : List Frame → Path → Prop where
  | root {path} (resolved : homes.resolve root = .ok path) : Nested homes root [] path
  | inner {frame below target}
      (outer : Nested homes root below frame.path)
      (stands : frame.Stands snapshot settings below)
      (directs : Directs snapshot settings frame.path frame.location.line target) :
      Nested homes root (frame :: below) target

/-- The invariant of a parse. -/
def Position.Sound (homes : Homes) (root : Path) : Position → Prop
  | .entering chain path frames =>
    chain = Chain.ofFrames frames ∧ Nested snapshot settings homes root frames path
  | .reading [] => True
  | .reading (frame :: below) =>
    frame.Stands snapshot settings below ∧ Nested snapshot settings homes root below frame.path

/-- The positions that the parse of `root` comes to. -/
def Reached (homes : Homes) (root : Path) (position : Position) : Prop :=
  ∃ path actions, homes.resolve root = .ok path ∧
    Run snapshot settings (.entering {} path []) actions position

end

variable {snapshot : Snapshot} {settings : Settings} {homes : Homes} {root : Path}

namespace Frame

variable {frame : Frame} {below : List Frame}

/-- A file that has just opened stands at its beginning. -/
theorem stands_first {path : Path} {source : Source}
    (new : (Chain.ofFrames below).find? (snapshot.identity path) = none)
    (opens : snapshot.source path = .ok source) :
    (first snapshot settings (Chain.ofFrames below) path source).Stands snapshot settings
      below where
  chain_eq := rfl
  identity_eq := rfl
  new := by simpa [first] using Chain.find?_eq_none_iff.1 new
  note_eq := rfl
  content_eq := rfl
  source := ⟨source, opens, rfl, Nat.zero_le _, rfl⟩

/-- A file stands as well after another line has been read. -/
theorem Stands.past {line : List UInt8} {rest : List (List UInt8)}
    (stands : frame.Stands snapshot settings below) (ahead : frame.lines = line :: rest) :
    frame.past.Stands snapshot settings below where
  chain_eq := stands.chain_eq
  identity_eq := stands.identity_eq
  new := stands.new
  note_eq := stands.note_eq
  content_eq := rfl
  source := by
    obtain ⟨source, opens, failure, _, left⟩ := stands.source
    have more : frame.location.line < source.lines.length := by
      have some := congrArg List.length left
      simp only [ahead, List.length_cons, List.length_drop] at some
      omega
    refine ⟨source, opens, failure, more, ?_⟩
    simp [Frame.past, left, Location.next]

/-- The next line of a file that stands is the one whose number comes next. -/
theorem Stands.line_ahead {line : List UInt8} {rest : List (List UInt8)}
    (stands : frame.Stands snapshot settings below) (ahead : frame.lines = line :: rest) :
    ∃ source, snapshot.source frame.path = .ok source ∧
      source.line? (frame.location.line + 1) = some line := by
  obtain ⟨source, opens, _, _, left⟩ := stands.source
  refine ⟨source, opens, ?_⟩
  have atLine : (source.lines.drop frame.location.line)[0]? = some line := by
    rw [← left, ahead]
    rfl
  simpa [Source.line?] using atLine

end Frame

/-! ## Steps keep the invariant -/

/-- Every step keeps the invariant. -/
theorem Step.sound {position next : Position} {actions : List Action}
    (step : Step snapshot settings position actions next)
    (sound : position.Sound snapshot settings homes root) :
    next.Sound snapshot settings homes root := by
  -- Without the file that was to be entered, the innermost open one is read on.
  have resumed {path : Path} : ∀ {frames : List Frame},
      Nested snapshot settings homes root frames path →
        (Position.reading frames).Sound snapshot settings homes root
    | [], _ => trivial
    | _ :: _, .inner outer stands _ => ⟨stands, outer⟩
  cases step with
  | loop found => exact resumed sound.2
  | unopened new fails => exact resumed sound.2
  | opened new opens =>
    obtain ⟨rfl, nested⟩ := sound
    exact ⟨Frame.stands_first new opens, nested⟩
  | dropped ahead means => exact ⟨sound.1.past ahead, sound.2⟩
  | nameless ahead means => exact ⟨sound.1.past ahead, sound.2⟩
  | followed ahead means =>
    obtain ⟨stands, nested⟩ := sound
    obtain ⟨source, opens, isLine⟩ := stands.line_ahead ahead
    obtain ⟨names, named⟩ := Settings.meaning_eq_directive_iff.1 means
    refine ⟨?_, .inner nested (stands.past ahead) ⟨source, _, _, opens, isLine, names, named, rfl⟩⟩
    rw [Chain.ofFrames_cons, stands.chain_eq]
    rfl
  | delivered ahead means => exact ⟨sound.1.past ahead, sound.2⟩
  | ended atEnd intact => exact resumed sound.2
  | failed atEnd fails => exact resumed sound.2

/-- The invariant holds wherever a parse comes to. -/
theorem Reached.sound {position : Position}
    (reached : Reached snapshot settings homes root position) :
    position.Sound snapshot settings homes root := by
  obtain ⟨path, actions, resolved, run⟩ := reached
  induction run with
  | refl => exact ⟨rfl, .root resolved⟩
  | step _ step ih => exact step.sound ih

/-- A parse goes on from where it has come to. -/
theorem Reached.step {position next : Position} {actions : List Action}
    (reached : Reached snapshot settings homes root position)
    (step : Step snapshot settings position actions next) :
    Reached snapshot settings homes root next := by
  obtain ⟨path, before, resolved, run⟩ := reached
  exact ⟨path, before ++ actions, resolved, .step run step⟩

/-- Wherever a parse has come to, it goes on to the end. -/
theorem Reached.completes {position : Position} {all : List Action}
    (reached : Reached snapshot settings homes root position)
    (parses : Parses snapshot settings homes root all) :
    ∃ before rest, Run snapshot settings position rest (.reading []) ∧ all = before ++ rest := by
  obtain ⟨path, before, resolved, run⟩ := reached
  obtain ⟨rest, onward, split⟩ := run.completes (parses.run path resolved)
  exact ⟨before, rest, onward, split⟩

/-- What a step does that a parse comes to is among what the parse does. -/
theorem Reached.mem_of_step {position next : Position} {all actions : List Action} {action : Action}
    (reached : Reached snapshot settings homes root position)
    (parses : Parses snapshot settings homes root all)
    (step : Step snapshot settings position actions next) (done : action ∈ actions) :
    action ∈ all := by
  obtain ⟨before, rest, onward, rfl⟩ := reached.completes parses
  rcases onward.head with ⟨_, rfl⟩ | ⟨first, _, more, start, _, rfl⟩
  · exact absurd step Step.not_of_done
  · obtain ⟨rfl, rfl⟩ := step.unique start
    exact List.mem_append_right _ (List.mem_append_left _ done)

/-- What is seen of a parse is seen of a step that it comes to, or it says that the root has no
path. -/
theorem Parses.exists_step {all : List Action} {event : Event}
    (parses : Parses snapshot settings homes root all) (seen : event ∈ Action.events all) :
    (∃ position actions next, Reached snapshot settings homes root position ∧
      Step snapshot settings position actions next ∧ event ∈ Action.events actions) ∨
    ∃ cause, homes.resolve root = .error cause ∧
      event = .recorded (.unexpanded (settings.note {}) root.text cause) := by
  cases resolved : homes.resolve root with
  | ok path =>
    obtain ⟨action, done, isEvent⟩ := List.mem_filterMap.1 seen
    obtain ⟨before, position, actions, next, run, step, isDone⟩ :=
      (parses.run path resolved).exists_step_of_mem done
    have seen' : event ∈ Action.events actions := List.mem_filterMap.2 ⟨action, isDone, isEvent⟩
    exact .inl ⟨position, actions, next, ⟨path, before, resolved, run⟩, step, seen'⟩
  | error cause =>
    rw [parses.events, Expansion.ofRoot, resolved] at seen
    exact .inr ⟨cause, rfl, List.mem_singleton.1 seen⟩

/-! ## What the invariant says of the open files -/

namespace Nested

variable {frames : List Frame} {path : Path}

/-- No file is open twice. -/
theorem nodup (nested : Nested snapshot settings homes root frames path) :
    (frames.map Frame.identity).Nodup := by
  induction nested with
  | root resolved => exact List.nodup_nil
  | inner _ stands _ ih => exact List.nodup_cons.2 ⟨stands.new, ih⟩

/-- Every open file has been opened by its path, and is known by it. -/
theorem opened (nested : Nested snapshot settings homes root frames path) :
    ∀ frame ∈ frames, frame.identity = snapshot.identity frame.path ∧
      ∃ source, snapshot.source frame.path = .ok source := by
  induction nested with
  | root resolved => simp
  | inner _ stands _ ih =>
    obtain ⟨source, opens, _⟩ := stands.source
    intro frame isOpen
    rcases List.mem_cons.1 isOpen with rfl | isBelow
    · exact ⟨stands.identity_eq, source, opens⟩
    · exact ih frame isBelow

end Nested

/-- Of the files that are open at any moment, no two are the same, and each has been opened by its
path. -/
theorem Reached.frames_distinct {position : Position}
    (reached : Reached snapshot settings homes root position) :
    (position.frames.map Frame.identity).Nodup ∧
      ∀ frame ∈ position.frames, frame.identity = snapshot.identity frame.path ∧
        ∃ source, snapshot.source frame.path = .ok source := by
  have sound := reached.sound
  match position, sound with
  | .entering _ _ _, ⟨_, nested⟩ => exact ⟨nested.nodup, nested.opened⟩
  | .reading [], _ => exact ⟨List.nodup_nil, by simp [Position.frames]⟩
  | .reading (frame :: below), ⟨stands, nested⟩ =>
    obtain ⟨source, opens, _⟩ := stands.source
    refine ⟨List.nodup_cons.2 ⟨stands.new, nested.nodup⟩, fun other isOpen => ?_⟩
    rcases List.mem_cons.1 isOpen with rfl | isBelow
    · exact ⟨stands.identity_eq, source, opens⟩
    · exact nested.opened other isBelow

/-! ## Runs end -/

/-- One position comes right after another. -/
def Position.Follows (snapshot : Snapshot) (settings : Settings)
    (later earlier : Position) : Prop :=
  ∃ actions, Step snapshot settings earlier actions later

/-- Where a run comes to an end, steps run out. The induction goes along the run, so it carries the
end back to the beginning; each step is the only one from its position. -/
theorem Run.acc {position final : Position} {actions : List Action}
    (run : Run snapshot settings position actions final)
    (ends : Acc (Position.Follows snapshot settings) final) :
    Acc (Position.Follows snapshot settings) position := by
  induction run with
  | refl => exact ends
  | step _ step ih =>
    refine ih ⟨_, fun other ⟨others, step'⟩ => ?_⟩
    obtain ⟨_, rfl⟩ := step.unique step'
    exact ends

/-! ## Depth -/

/-- The canonical paths of the files that open. -/
def Snapshot.canonicalPaths (snapshot : Snapshot) : Set (List Component) :=
  { steps | ∃ path source canonical, snapshot.source path = .ok source ∧
    snapshot.canonical? path = some canonical ∧ canonical.components = steps }

/-- There are finitely many canonical paths of files that open. -/
theorem Snapshot.finite_canonicalPaths (snapshot : Snapshot) : snapshot.canonicalPaths.Finite := by
  apply (List.finite_toSet snapshot.identities).subset
  rintro steps ⟨path, source, canonical, opens, resolves, rfl⟩
  simpa [resolves] using snapshot.known opens

/-- Different canonical paths of files that open are no more than all of them. -/
theorem Snapshot.length_le_ncard {identities : List Identity} (distinct : identities.Nodup)
    (canonical : ∀ identity ∈ identities, identity ∈ snapshot.canonicalPaths) :
    identities.length ≤ snapshot.canonicalPaths.ncard := by
  classical
  rw [← List.toFinset_card_of_nodup distinct, ← Set.ncard_coe_finset]
  refine Set.ncard_le_ncard (fun identity isIn => ?_) snapshot.finite_canonicalPaths
  exact canonical identity (by simpa using isIn)

/-- Every path that opens has a canonical path. -/
def Snapshot.Resolves (snapshot : Snapshot) : Prop :=
  ∀ path source, snapshot.source path = .ok source →
    ∃ canonical, snapshot.canonical? path = some canonical

/-- Where every path that opens has a canonical path, an open file is known by its own. -/
theorem Reached.canonical {position : Position} (resolves : snapshot.Resolves)
    (reached : Reached snapshot settings homes root position) :
    ∀ frame ∈ position.frames, ∃ source canonical, snapshot.source frame.path = .ok source ∧
      snapshot.canonical? frame.path = some canonical ∧ canonical.components = frame.identity := by
  intro frame isOpen
  obtain ⟨identified, source, opens⟩ := reached.frames_distinct.2 frame isOpen
  obtain ⟨canonical, leads⟩ := resolves frame.path source opens
  exact ⟨source, canonical, opens, leads, by simp [identified, Snapshot.identity, leads]⟩

/-- That the parse of `root` ends, and how deep its files nest. -/
structure Bounded (snapshot : Snapshot) (settings : Settings) (homes : Homes) (root : Path) :
    Prop where
  /-- From the root, steps run out. -/
  ends : ∀ path, homes.resolve root = .ok path →
    Acc (Position.Follows snapshot settings) (.entering {} path [])
  /-- What they do until then is what `parse` does, whatever the handler. -/
  agrees : ∀ path, homes.resolve root = .ok path →
    ∃ actions, Run snapshot settings (.entering {} path []) actions (.reading []) ∧
      ∀ {σ : Type} (handler : Handler σ) (state : σ),
        parse snapshot settings handler homes root state =
          ({ state } : Progress σ).replay handler actions
  /-- When a file is about to be entered, the files in its chain are pairwise different, and each of
  them is open. -/
  distinct : ∀ chain path frames,
    Reached snapshot settings homes root (.entering chain path frames) →
    chain.identities.Nodup ∧
      ∀ identity ∈ chain.identities, ∃ frame ∈ frames, ∃ source canonical,
        snapshot.source frame.path = .ok source ∧
        snapshot.canonical? frame.path = some canonical ∧ canonical.components = identity
  /-- The files that open have finitely many canonical paths. -/
  finite : snapshot.canonicalPaths.Finite
  /-- Never are more files open than there are canonical paths of files that open. -/
  depth : ∀ position, Reached snapshot settings homes root position →
    position.frames.length ≤ snapshot.canonicalPaths.ncard

/-- However the files of a snapshot include one another: if every path that opens has a canonical
path, each parse ends, and its files nest no deeper than there are files. -/
theorem parse_bounded (snapshot : Snapshot) (settings : Settings) (homes : Homes) (root : Path)
    (resolves : snapshot.Resolves) : Bounded snapshot settings homes root where
  ends path resolved := by
    obtain ⟨actions, parses⟩ := exists_parses snapshot settings homes root
    refine (parses.run path resolved).acc ⟨_, fun _ ⟨_, step⟩ => ?_⟩
    exact absurd step Step.not_of_done
  agrees path resolved := by
    obtain ⟨actions, parses⟩ := exists_parses snapshot settings homes root
    exact ⟨actions, parses.run path resolved, parses.parse_eq⟩
  distinct chain path frames reached := by
    obtain ⟨rfl, nested⟩ := reached.sound
    refine ⟨by simpa using nested.nodup, fun identity isIn => ?_⟩
    obtain ⟨frame, isOpen, rfl⟩ : ∃ frame ∈ frames, frame.identity = identity := by
      simpa using isIn
    exact ⟨frame, isOpen, reached.canonical resolves frame isOpen⟩
  finite := snapshot.finite_canonicalPaths
  depth position reached := by
    rw [← List.length_map Frame.identity]
    refine Snapshot.length_le_ncard reached.frames_distinct.1 fun identity isIn => ?_
    obtain ⟨frame, isOpen, rfl⟩ := List.mem_map.1 isIn
    obtain ⟨source, canonical, opens, leads, same⟩ := reached.canonical resolves frame isOpen
    exact ⟨frame.path, source, canonical, opens, leads, same⟩

/-! ## A ring of files -/

/-- What opens in a snapshot of observations has been observed. -/
theorem Snapshot.exists_observation_of_source {observed : List Observation} {path : Path}
    {source : Source} (opens : (ofObservations observed).source path = .ok source) :
    ∃ observation ∈ observed,
      (ofObservations observed).canonical? path = observation.canonical? := by
  cases seen : observation? observed path with
  | none => simp [ofObservations, seen] at opens
  | some observation =>
    exact ⟨observation, List.mem_of_find?_eq_some seen, by simp [ofObservations, seen]⟩

/-- Where every observation has a canonical path, so has every path that opens. -/
theorem Snapshot.resolves_ofObservations {observed : List Observation}
    (resolved : ∀ observation ∈ observed, observation.canonical?.isSome) :
    (ofObservations observed).Resolves := by
  intro path source opens
  obtain ⟨observation, isIn, same⟩ := exists_observation_of_source opens
  obtain ⟨canonical, found⟩ := Option.isSome_iff_exists.1 (resolved observation isIn)
  exact ⟨canonical, same.trans found⟩

/-- Two files that include each other, the first of them by the name of a link. -/
def ring : List Observation :=
  let first := Source.ofBytes (Utf8.encode "#include b\n".toList)
  let second := Source.ofBytes (Utf8.encode "x\n#include ./l\n".toList)
  [⟨⟨['/', 'a']⟩, some ⟨['/', 'a']⟩, .ok first⟩, ⟨⟨['/', 'b']⟩, some ⟨['/', 'b']⟩, .ok second⟩,
    ⟨⟨['/', 'l']⟩, some ⟨['/', 'a']⟩, .ok first⟩]

/-- Every file of the ring has a canonical path. -/
theorem resolves_ring : (Snapshot.ofObservations ring).Resolves :=
  Snapshot.resolves_ofObservations (by simp [ring])

/-- The parse of a ring of files ends. -/
theorem ring_bounded :
    (Snapshot.ofObservations ring).Resolves ∧
      (⟨none, .ok []⟩ : Homes).resolve ⟨['/', 'a']⟩ = .ok ⟨['/', 'a']⟩ ∧
      Bounded (.ofObservations ring) {} ⟨none, .ok []⟩ ⟨['/', 'a']⟩ :=
  ⟨resolves_ring, rfl, parse_bounded _ _ _ _ resolves_ring⟩

end Splice
