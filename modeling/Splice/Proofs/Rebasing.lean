import Splice.Proofs.Loops
import Splice.Proofs.Path.Joined
import Splice.Proofs.Simulation
import Splice.Proofs.Stepping

/-!
# Rebasing

A root may be named from the working directory or from the top. Where the file system answers for a
relative path as for what it leads to from there (`Snapshot.SeenFrom`), both parses are one: step by
step each path of the one is that of the other, read from the working directory (`Step.anchored`).
So lines, counters and problems are the same but for how files are spelled
(`relative_like_absolute`).

The notes on how files were reached are spelled from paths as well; nothing is said of them.
-/

namespace Splice

/-! ## Seen from a directory -/

/-- A file system as it is seen from the working directory `base`. Only clean paths are ever looked
up, so nothing is asked of others. -/
structure Snapshot.SeenFrom (snapshot : Snapshot) (base : Path) : Prop where
  /-- The directory is named from the top. -/
  absolute : base.isAbsolute = true
  /-- A relative path leads where it leads when it is read from the directory. -/
  canonical_eq : ∀ path, path.isAbsolute = false → path.clean = path →
    snapshot.canonical? path = snapshot.canonical? (base.anchored path)
  /-- It opens as what it leads to. -/
  source_eq : ∀ path, path.isAbsolute = false → path.clean = path →
    snapshot.source path = snapshot.source (base.anchored path)
  /-- What opens has a canonical path. -/
  resolves : snapshot.Resolves
  /-- A canonical path is its own. -/
  settles : snapshot.Settles
  /-- It is clean. -/
  tidy : snapshot.Tidy
  /-- The current directory, the root and what ends in a step up are directories, which have no
  lines. -/
  directory : ∀ path source, path.clean = path →
    path = ⟨['.']⟩ ∨ path = ⟨['/']⟩ ∨ path.components.getLast? = some .up →
    snapshot.source path = .ok source → source.lines = []

namespace Snapshot.SeenFrom

variable {snapshot : Snapshot} {base path : Path} (seen : snapshot.SeenFrom base)
  (clean : path.clean = path)
include seen clean

/-- A clean path leads where it leads from the directory. -/
theorem canonical_anchored :
    snapshot.canonical? (base.anchored path) = snapshot.canonical? path := by
  cases start : path.isAbsolute with
  | true => rw [Path.anchored_of_isAbsolute base clean start]
  | false => exact (seen.canonical_eq path start clean).symm

/-- It opens as what it leads to. -/
theorem source_anchored : snapshot.source (base.anchored path) = snapshot.source path := by
  cases start : path.isAbsolute with
  | true => rw [Path.anchored_of_isAbsolute base clean start]
  | false => exact (seen.source_eq path start clean).symm

/-- A directive in a file that has lines leads to the same file from the directory. -/
theorem includedFrom_anchored {source : Source} (opens : snapshot.source path = .ok source)
    (some : source.lines ≠ []) (target : Path) :
    (base.anchored path).includedFrom target = base.anchored (path.includedFrom target) := by
  have isFile :
      ¬ (path = ⟨['.']⟩ ∨ path = ⟨['/']⟩ ∨ path.components.getLast? = Option.some .up) := by
    intro isDirectory
    exact some (seen.directory path source clean isDirectory opens)
  obtain here | top | up | ⟨text, below, named⟩ := Path.kept_cases clean
  · exact absurd (.inl here) isFile
  · exact absurd (.inr (.inl top)) isFile
  · exact absurd (.inr (.inr up)) isFile
  · exact Path.includedFrom_anchored base target clean named

end Snapshot.SeenFrom

/-! ## What is spelled from a directory -/

/-- A link, with its path read from a directory. -/
def Link.anchored (base : Path) (link : Link) : Link :=
  { link with path := base.anchored link.path }

/-- A chain, with its paths read from a directory. -/
def Chain.anchored (base : Path) (chain : Chain) : Chain :=
  ⟨chain.links.map (Link.anchored base)⟩

/-- Two locations are of the same line of a file, whose path is read from a directory in the second.
Their notes may be anything. -/
structure Location.Anchored (base : Path) (location partner : Location) : Prop where
  source_eq : partner.source = base.anchored location.source
  line_eq : partner.line = location.line
  content_eq : partner.content = location.content

/-- Two problems are of the same kind, and alike but for paths, which are read from a directory in
the second. None says that a root has no path. -/
inductive Problem.Anchored (base : Path) : Problem → Problem → Prop where
  | loop {note note' path link} :
      Anchored base (.loop note path link) (.loop note' (base.anchored path) (link.anchored base))
  | unopened {note note' path cause} :
      Anchored base (.unopened note path cause) (.unopened note' (base.anchored path) cause)
  | nameless {location partner} (same : location.Anchored base partner) :
      Anchored base (.nameless location) (.nameless partner)
  | refused {location partner cause} (same : location.Anchored base partner) :
      Anchored base (.refused location cause) (.refused partner cause)
  | unreadable {location partner cause} (same : location.Anchored base partner) :
      Anchored base (.unreadable location cause) (.unreadable partner cause)

/-- Two actions are alike but for paths. -/
inductive Action.Anchored (base : Path) : Action → Action → Prop where
  | opened {note note' path} :
      Anchored base (.opened note path) (.opened note' (base.anchored path))
  | lineRead : Anchored base .lineRead .lineRead
  | followed {location partner target} (same : location.Anchored base partner) :
      Anchored base (.followed location target) (.followed partner (base.anchored target))
  | recorded {problem partner} (same : problem.Anchored base partner) :
      Anchored base (.recorded problem) (.recorded partner)
  | delivered {line location partner} (same : location.Anchored base partner) :
      Anchored base (.delivered line location) (.delivered line partner)

/-- Two events are alike but for paths. -/
inductive Event.Anchored (base : Path) : Event → Event → Prop where
  | delivered {line location partner} (same : location.Anchored base partner) :
      Anchored base (.delivered line location) (.delivered line partner)
  | recorded {problem partner} (same : problem.Anchored base partner) :
      Anchored base (.recorded problem) (.recorded partner)

/-- An open file, by its path from a directory. -/
def Frame.anchored (base : Path) (settings : Settings) (frame : Frame) : Frame :=
  let chain := frame.chain.anchored base
  { frame with
    chain := chain
    location := { frame.location with
      source := base.anchored frame.path
      note := settings.note chain } }

/-- A moment of a parse, with all paths read from a directory. -/
def Position.anchored (base : Path) (settings : Settings) : Position → Position
  | .entering chain path frames =>
    .entering (chain.anchored base) (base.anchored path) (frames.map (Frame.anchored base settings))
  | .reading frames => .reading (frames.map (Frame.anchored base settings))

/-- The same link is found, if any. -/
@[simp] theorem Chain.find?_anchored (base : Path) (chain : Chain) (identity : Identity) :
    (chain.anchored base).find? identity = (chain.find? identity).map (Link.anchored base) :=
  List.find?_map

/-- Following a directive makes the same chain longer by the same link. -/
theorem Chain.extended_anchored {base : Path} {location partner : Location} (chain : Chain)
    (identity : Identity) (same : location.Anchored base partner) :
    (chain.anchored base).extended partner identity =
      (chain.extended location identity).anchored base := by
  simp [extended, anchored, Link.anchored, same.source_eq, same.line_eq]

/-- A line that has been read has the same successor. -/
theorem Location.Anchored.next {base : Path} {location partner : Location}
    (same : location.Anchored base partner) : location.next.Anchored base partner.next where
  source_eq := same.source_eq
  line_eq := congrArg (· + 1) same.line_eq
  content_eq := rfl

theorem Frame.anchored_location (base : Path) (settings : Settings) (frame : Frame) :
    frame.location.Anchored base (frame.anchored base settings).location := ⟨rfl, rfl, rfl⟩

/-! ## Step by step -/

section

variable {snapshot : Snapshot} {settings : Settings} {homes : Homes} {root base : Path}

/-- A file that is about to be entered has a clean path. -/
theorem Nested.clean {frames : List Frame} {path : Path}
    (nested : Nested snapshot settings homes root frames path) : path.clean = path := by
  cases nested with
  | root resolved => exact Homes.clean_of_resolve resolved
  | inner _ _ directs =>
    obtain ⟨_, _, _, _, _, _, _, rfl⟩ := directs
    exact Path.clean_includedFrom _ _

/-- A clean path without a canonical one is no open file. -/
theorem Reached.find?_eq_none {chain : Chain} {path other : Path} {frames : List Frame}
    (seen : snapshot.SeenFrom base)
    (reached : Reached snapshot settings homes root (.entering chain path frames))
    (clean : other.clean = other) (nowhere : snapshot.canonical? other = none) :
    chain.find? (snapshot.identity other) = none := by
  obtain ⟨rfl, -⟩ := reached.sound
  cases found : (Chain.ofFrames frames).find? (snapshot.identity other) with
  | none => rfl
  | some link =>
    -- With the identity of an open file it would spell a canonical path, which is its own.
    obtain ⟨_, _, _, _, _, leads', _⟩ :=
      reached.exists_open_of_find? seen.resolves seen.settles seen.tidy clean found
    rw [nowhere] at leads'
    cases leads'

/-- Whether a file is open does not depend on where its path is read from. -/
theorem Reached.find?_anchored {chain : Chain} {path : Path} {frames : List Frame}
    (seen : snapshot.SeenFrom base)
    (reached : Reached snapshot settings homes root (.entering chain path frames)) :
    (chain.anchored base).find? (snapshot.identity (base.anchored path)) =
      (chain.find? (snapshot.identity path)).map (Link.anchored base) := by
  have clean := reached.sound.2.clean
  have canonical := seen.canonical_anchored clean
  rw [Chain.find?_anchored]
  cases leads : snapshot.canonical? path with
  | some found =>
    rw [leads] at canonical
    simp only [Snapshot.identity, canonical, leads, Option.getD_some]
  | none =>
    rw [leads] at canonical
    rw [reached.find?_eq_none seen clean leads,
      reached.find?_eq_none seen (Path.clean_anchored base path) canonical]

/-- A file that has just opened is known as the same file. -/
theorem Snapshot.SeenFrom.first_anchored {path : Path} {source : Source}
    (seen : snapshot.SeenFrom base) (chain : Chain) (clean : path.clean = path)
    (opens : snapshot.source path = .ok source) :
    Frame.first snapshot settings (chain.anchored base) (base.anchored path) source =
      (Frame.first snapshot settings chain path source).anchored base settings := by
  obtain ⟨canonical, leads⟩ := seen.resolves path source opens
  have same : snapshot.identity (base.anchored path) = snapshot.identity path := by
    simp only [Snapshot.identity, seen.canonical_anchored clean, leads, Option.getD_some]
  simp only [Frame.first, Frame.anchored, Frame.path, same]

/-- Each step is made as well where all paths are read from the directory, and does the same. -/
theorem Step.anchored {position next : Position} {actions : List Action}
    (seen : snapshot.SeenFrom base) (reached : Reached snapshot settings homes root position)
    (step : Step snapshot settings position actions next) :
    ∃ others, Step snapshot settings (position.anchored base settings) others
        (next.anchored base settings) ∧ List.Forall₂ (Action.Anchored base) actions others := by
  cases step with
  | @loop chain path frames link found =>
    have found' := reached.find?_anchored seen
    rw [found] at found'
    exact ⟨_, .loop found', .cons (.recorded .loop) .nil⟩
  | @unopened chain path frames fault new fails =>
    have new' := reached.find?_anchored seen
    rw [new] at new'
    rw [← seen.source_anchored reached.sound.2.clean] at fails
    exact ⟨_, .unopened new' fails, .cons (.recorded .unopened) .nil⟩
  | @opened chain path frames source new opens =>
    have clean := reached.sound.2.clean
    have new' := reached.find?_anchored seen
    rw [new] at new'
    have opens' : snapshot.source (base.anchored path) = .ok source := by
      rw [seen.source_anchored clean, opens]
    have step : Step snapshot settings _ _
        (.reading (_ :: frames.map (Frame.anchored base settings))) := .opened new' opens'
    rw [seen.first_anchored chain clean opens] at step
    exact ⟨_, step, .cons .opened .nil⟩
  | @dropped frame below line rest ahead means =>
    have ahead : (frame.anchored base settings).lines = line :: rest := ahead
    exact ⟨_, .dropped ahead means, .cons .lineRead .nil⟩
  | @nameless frame below line rest ahead means =>
    have ahead : (frame.anchored base settings).lines = line :: rest := ahead
    refine ⟨_, .nameless ahead means, .cons .lineRead (.cons (.recorded ?_) .nil)⟩
    exact .nameless ⟨rfl, rfl, rfl⟩
  | @followed frame below line rest name ahead means =>
    obtain ⟨stands, nested⟩ := reached.sound
    obtain ⟨source, opens, _, _, left⟩ := stands.source
    -- The file has a line, so it is no directory and ends in a name.
    have some : source.lines ≠ [] := by
      intro none
      simp [none, ahead] at left
    have target : (frame.anchored base settings).path.includedFrom ⟨name⟩ =
        base.anchored (frame.path.includedFrom ⟨name⟩) :=
      seen.includedFrom_anchored nested.clean opens some ⟨name⟩
    have here : frame.location.next.Anchored base (frame.anchored base settings).location.next :=
      (frame.anchored_location base settings).next
    have chain : (frame.anchored base settings).chain.extended
        (frame.anchored base settings).location.next (frame.anchored base settings).identity =
          (frame.chain.extended frame.location.next frame.identity).anchored base :=
      frame.chain.extended_anchored frame.identity here
    have ahead : (frame.anchored base settings).lines = line :: rest := ahead
    have step : Step snapshot settings
        (.reading (frame.anchored base settings :: below.map (Frame.anchored base settings))) _ _ :=
      .followed ahead means
    rw [target, chain] at step
    exact ⟨_, step, .cons .lineRead (.cons (.followed here) .nil)⟩
  | @delivered frame below line rest content ahead means =>
    have ahead : (frame.anchored base settings).lines = line :: rest := ahead
    exact ⟨_, .delivered ahead means, .cons .lineRead (.cons (.delivered ⟨rfl, rfl, rfl⟩) .nil)⟩
  | @ended frame below atEnd sound =>
    have atEnd : (frame.anchored base settings).lines = [] := atEnd
    exact ⟨_, .ended atEnd sound, .nil⟩
  | @failed frame below fault atEnd fails =>
    have atEnd : (frame.anchored base settings).lines = [] := atEnd
    exact ⟨_, .failed atEnd fails, .cons (.recorded (.unreadable ⟨rfl, rfl, rfl⟩)) .nil⟩

/-- What a parse does, it does as well where the root is read from the directory. -/
theorem Parses.anchored {actions others : List Action} {path : Path}
    (seen : snapshot.SeenFrom base) {root' : Path} (resolved : homes.resolve root = .ok path)
    (resolved' : homes.resolve root' = .ok (base.anchored path))
    (parses : Parses snapshot settings homes root actions)
    (parses' : Parses snapshot settings homes root' others) :
    List.Forall₂ (Action.Anchored base) actions others := by
  have matched {position next : Position} {actions : List Action}
      (reached : Reached snapshot settings homes root position)
      (step : Step snapshot settings position actions next) :
      ∃ others, Run snapshot settings (position.anchored base settings) others
          (next.anchored base settings) ∧ List.Forall₂ (Action.Anchored base) actions others := by
    obtain ⟨others, step', same⟩ := step.anchored seen reached
    exact ⟨others, .single step', same⟩
  exact Parses.simulate (Position.anchored base settings) (List.Forall₂ (Action.Anchored base)) .nil
    (fun one two => List.rel_append one two) matched rfl rfl resolved resolved' parses parses'

end

/-! ## Whole parses -/

/-- The answers and the state of a handler depend neither on the path of a location nor on its
note. -/
def Handler.IgnoresPaths {σ : Type} (handler : Handler σ) : Prop :=
  ∀ state line location partner, location.line = partner.line → location.content = partner.content →
    handler.deliver state line location = handler.deliver state line partner

section

variable {base : Path}

/-- Of two actions that are alike, both open a file or none does, both read a line or none does, and
what is seen of them is alike. -/
theorem Action.Anchored.single {action other : Action} (same : action.Anchored base other) :
    filesOpened [other] = filesOpened [action] ∧ linesRead [other] = linesRead [action] ∧
      List.Forall₂ (Event.Anchored base) (events [action]) (events [other]) := by
  cases same with
  | opened | lineRead | followed => exact ⟨rfl, rfl, .nil⟩
  | recorded same => exact ⟨rfl, rfl, .cons (.recorded same) .nil⟩
  | delivered same => exact ⟨rfl, rfl, .cons (.delivered same) .nil⟩

/-- Of actions that are alike, as many open files, as many read lines, and what is seen of them is
alike. -/
theorem Action.Anchored.all {actions others : List Action}
    (same : List.Forall₂ (Action.Anchored base) actions others) :
    filesOpened others = filesOpened actions ∧ linesRead others = linesRead actions ∧
      List.Forall₂ (Event.Anchored base) (events actions) (events others) := by
  induction same with
  | nil => exact ⟨rfl, rfl, .nil⟩
  | @cons action other rest rest' head _ ih =>
    obtain ⟨opened, read, seen⟩ := head.single
    obtain ⟨opened', read', seen'⟩ := ih
    have split : action :: rest = [action] ++ rest := rfl
    have split' : other :: rest' = [other] ++ rest' := rfl
    rw [split, split']
    refine ⟨?_, ?_, ?_⟩
    · rw [filesOpened_append, filesOpened_append, opened, opened']
    · rw [linesRead_append, linesRead_append, read, read']
    · rw [events_append, events_append]
      exact List.rel_append seen seen'

/-- Two calls are alike but for paths. -/
def SameCall (base : Path) (call call' : Text × Location) : Prop :=
  call'.1 = call.1 ∧ call.2.Anchored base call'.2

/-- The same lines are delivered. -/
theorem Event.Anchored.deliveries {events others : List Event}
    (same : List.Forall₂ (Event.Anchored base) events others) :
    List.Forall₂ (SameCall base) (Event.deliveries events) (Event.deliveries others) := by
  induction same with
  | nil => exact .nil
  | cons head rest ih =>
    cases head with
    | delivered same => exact .cons ⟨rfl, same⟩ ih
    | recorded same => exact ih

variable {σ : Type} {handler : Handler σ} (ignores : handler.IgnoresPaths)
include ignores

/-- A handler that ignores paths is left in the same state. -/
theorem Handler.after_anchored {lines others : List (Text × Location)} (state : σ)
    (same : List.Forall₂ (SameCall base) lines others) :
    handler.after state others = handler.after state lines := by
  induction same generalizing state with
  | nil => rfl
  | @cons call call' rest rest' head _ ih =>
    obtain ⟨line, location⟩ := call
    obtain ⟨line', location'⟩ := call'
    obtain ⟨rfl, same⟩ := head
    have answer := ignores state line' location location' same.line_eq.symm same.content_eq.symm
    have onward := ih (handler.deliver state line' location).1
    simp only [Handler.after, List.foldl_cons] at onward ⊢
    rw [← answer, onward]

/-- It answers the same, so the problems that are left are alike. -/
theorem Event.Anchored.problems (state : σ) {events others : List Event}
    (same : List.Forall₂ (Event.Anchored base) events others) :
    List.Forall₂ (Problem.Anchored base) (Event.problems handler state events)
      (Event.problems handler state others) := by
  induction same generalizing state with
  | nil => exact .nil
  | cons head _ ih =>
    cases head with
    | recorded same => exact .cons same (ih state)
    | @delivered line location partner same =>
      have answer := ignores state line location partner same.line_eq.symm same.content_eq.symm
      have onward := ih (handler.deliver state line location).1
      simp only [Event.problems, ← answer]
      cases (handler.deliver state line location).2 with
      | none => exact onward
      | some cause => exact .cons (.refused same) onward

end

/-- Relative and absolute root names agree. Let a file system be seen from a working directory, and
a root be named from there, by a name that does not stand for a home directory. The parse of that
root and the parse of the same root named from the top deliver the same lines, with the same
numbers, and leave the same counters and as many problems, which are of the same kinds and about the
same lines. Each file that the latter speaks of is the one that the former does, named from the
top. -/
theorem relative_like_absolute {σ : Type} (snapshot : Snapshot) (settings : Settings)
    (homes : Homes) (base root : Path) (seen : snapshot.SeenFrom base)
    (relative : root.isAbsolute = false) (plain : root.clean.text.head? ≠ some '~')
    (handler : Handler σ) (ignores : handler.IgnoresPaths) (state : σ) :
    let one := parse snapshot settings handler homes root state
    let other := parse snapshot settings handler homes (base.joined root) state
    List.Forall₂ (SameCall base) (calls snapshot settings handler homes root state)
        (calls snapshot settings handler homes (base.joined root) state) ∧
      other.state = one.state ∧ other.tally = one.tally ∧
      List.Forall₂ (Problem.Anchored base) one.problems.toList other.problems.toList := by
  intro one other
  have absolute : (base.joined root).isAbsolute = true := by
    rw [Path.isAbsolute_joined base relative, seen.absolute]
  have resolved : homes.resolve root = .ok root.clean := homes.resolve_of_head? plain
  have resolved' : homes.resolve (base.joined root) = .ok (base.anchored root.clean) := by
    rw [homes.resolve_of_isAbsolute absolute, Path.anchored_clean, Path.anchored]
  obtain ⟨actions, parses⟩ := exists_parses snapshot settings homes root
  obtain ⟨others, parses'⟩ := exists_parses snapshot settings homes (base.joined root)
  obtain ⟨opened, read, events⟩ :=
    Action.Anchored.all (parses.anchored seen resolved resolved' parses')
  have delivered := Event.Anchored.deliveries events
  refine ⟨?_, ?_, ?_, ?_⟩
  · rw [calls_eq, calls_eq, ← parses.events, ← parses'.events]
    exact delivered
  · rw [state_parse, state_parse, ← parses.events, ← parses'.events]
    exact Handler.after_anchored ignores state delivered
  · rw [tally_parse, tally_parse, ← parses.tally, ← parses'.tally, opened, read,
      delivered.length_eq]
  · rw [parses.problems_eq, parses'.problems_eq]
    exact Event.Anchored.problems ignores state events

/-! ## A tree seen from below -/

/-- A file system of absolute paths, as it is seen from a directory. -/
def Snapshot.within (snapshot : Snapshot) (resolves : snapshot.Resolves) (base : Path) :
    Snapshot where
  canonical? path := snapshot.canonical? (base.anchored path)
  source path := snapshot.source (base.anchored path)
  identities := snapshot.identities
  known := by
    intro path content opens
    obtain ⟨canonical, leads⟩ := resolves _ _ opens
    have known := snapshot.known opens
    rw [leads] at known ⊢
    exact known

/-- From a directory, relative paths lead where they lead. -/
theorem Snapshot.seenFrom_within {snapshot : Snapshot} (resolves : snapshot.Resolves) {base : Path}
    (absolute : base.isAbsolute = true) (settles : snapshot.Settles) (tidy : snapshot.Tidy)
    (rooted : ∀ path canonical, snapshot.canonical? path = some canonical →
      canonical.isAbsolute = true)
    (directory : ∀ path source, path.clean = path →
      path = ⟨['.']⟩ ∨ path = ⟨['/']⟩ ∨ path.components.getLast? = some .up →
      snapshot.source (base.anchored path) = .ok source → source.lines = []) :
    (snapshot.within resolves base).SeenFrom base where
  absolute := absolute
  canonical_eq path _ _ := by
    simp only [within, Path.anchored_anchored absolute]
  source_eq path _ _ := by
    simp only [within, Path.anchored_anchored absolute]
  resolves path source opens := resolves _ _ opens
  settles path canonical leads := by
    have own : base.anchored canonical = canonical :=
      Path.anchored_of_isAbsolute base (tidy _ _ leads) (rooted _ _ leads)
    simp only [within, own]
    exact settles _ _ leads
  tidy path canonical leads := tidy _ _ leads
  directory := directory

/-- Two files that include each other, the first by a path that goes up, the second by one from the
top. -/
def across : List Observation :=
  let first := Source.ofBytes (Utf8.encode "#include ../b\n".toList)
  let second := Source.ofBytes (Utf8.encode "x\n#include /w/a\n".toList)
  [⟨⟨"/w/a".toList⟩, some ⟨"/w/a".toList⟩, .ok first⟩,
    ⟨⟨"/b".toList⟩, some ⟨"/b".toList⟩, .ok second⟩]

/-- Both files have a canonical path. -/
theorem resolves_across : (Snapshot.ofObservations across).Resolves :=
  Snapshot.resolves_ofObservations (by decide)

/-- From the directory of the first, paths that go up lead to the second. -/
theorem seenFrom_across :
    ((Snapshot.ofObservations across).within resolves_across ⟨"/w".toList⟩).SeenFrom
      ⟨"/w".toList⟩ := by
  apply Snapshot.seenFrom_within resolves_across rfl
  · exact Snapshot.forall_canonical_of_observed (by decide)
  · exact Snapshot.forall_canonical_of_observed (by decide)
  · exact Snapshot.forall_canonical_of_observed (by decide)
  · rintro path source clean (rfl | rfl | up) opens
    · cases opens
    · cases opens
    · obtain ⟨n, ups⟩ := Path.exists_replicate_up clean up
      have relative : path.isAbsolute = false := by
        rw [← Bool.not_eq_true, ← Path.root_mem_kept_iff, ups]
        simp
      have top : (Path.joined ⟨"/w".toList⟩ path).kept = Path.kept ⟨['/']⟩ := by
        rw [Path.kept_joined _ relative, ups, List.reverse_replicate, List.replicate_succ,
          List.foldl_cons]
        exact Path.foldl_keep_replicate_up n
      have leads : Path.anchored ⟨"/w".toList⟩ path = ⟨['/']⟩ := Path.clean_eq_of_kept top
      rw [leads] at opens
      cases opens

/-- In the directory of the first file, both names for it lead to the same parse, and to the same
loop. -/
theorem across_like_absolute :
    let snapshot := (Snapshot.ofObservations across).within resolves_across ⟨"/w".toList⟩
    let homes : Homes := ⟨none, .ok []⟩
    let base : Path := ⟨"/w".toList⟩
    let root : Path := ⟨"./a".toList⟩
    let one := parse snapshot {} Handler.echo homes root {}
    let other := parse snapshot {} Handler.echo homes (base.joined root) {}
    snapshot.SeenFrom base ∧ root.isAbsolute = false ∧ root.clean.text.head? ≠ some '~' ∧
      Handler.echo.IgnoresPaths ∧
      one.problems.toList.map Problem.kind = [.loop] ∧
      List.Forall₂ (SameCall base) (calls snapshot {} Handler.echo homes root {})
        (calls snapshot {} Handler.echo homes (base.joined root) {}) ∧
      other.state = one.state ∧ other.tally = one.tally ∧
      List.Forall₂ (Problem.Anchored base) one.problems.toList other.problems.toList := by
  have kinds : (parse ((Snapshot.ofObservations across).within resolves_across ⟨"/w".toList⟩) {}
      Handler.echo ⟨none, .ok []⟩ ⟨"./a".toList⟩ {}).problems.toList.map Problem.kind =
        [.loop] := by
    rw [(parses_doneWithin (n := 12) (by decide)).parse_eq]
    decide
  intro snapshot homes base root one other
  have ignores : Handler.echo.IgnoresPaths := fun _ _ _ _ _ _ => rfl
  have plain : root.clean.text.head? ≠ some '~' := by decide
  exact ⟨seenFrom_across, rfl, plain, ignores, kinds,
    relative_like_absolute snapshot {} homes base root seenFrom_across rfl plain Handler.echo
      ignores {}⟩

end Splice
