import Mathlib.Data.List.Nodup
import Splice.Proofs.Nesting
import Splice.Proofs.Path.Normal

/-!
# Loops

When a directive is refused because it would lead back into a file that is being read. A problem of
that kind is recorded exactly where the file that a directive names is one of the open files, by
whatever spelling or link (`loops_exact`); a file that has been read to its end, or that is only
read elsewhere, does not count.

The parse compares identities, which are canonical paths only where there are such. That a path
without one can never be mistaken for an open file needs that canonical paths are their own
(`Snapshot.Settles`). What is looked up is always clean, so it also needs that canonical paths are
(`Snapshot.Tidy`), as they are wherever dots and links have been resolved.
-/

namespace Splice

variable {snapshot : Snapshot} {settings : Settings} {homes : Homes} {root : Path}

/-! ## The same file by different paths -/

namespace Snapshot

/-- Two paths lead to the same file: they have one canonical path. -/
def SameFile (snapshot : Snapshot) (path other : Path) : Prop :=
  ∃ one another, snapshot.canonical? path = some one ∧ snapshot.canonical? other = some another ∧
    one.components = another.components

/-- A canonical path is its own canonical path. -/
def Settles (snapshot : Snapshot) : Prop :=
  ∀ path canonical, snapshot.canonical? path = some canonical →
    snapshot.canonical? canonical = some canonical

/-- A canonical path is clean: there are no dots in it and no doubled separators. -/
def Tidy (snapshot : Snapshot) : Prop :=
  ∀ path canonical, snapshot.canonical? path = some canonical → canonical.clean = canonical

/-- One file has one identity. -/
theorem SameFile.identity_eq {path other : Path} (same : snapshot.SameFile path other) :
    snapshot.identity path = snapshot.identity other := by
  obtain ⟨one, another, leads, leads', equal⟩ := same
  simp [identity, leads, leads', equal]

/-- A clean path with the identity of a file leads to that file. If it had no canonical path, it
would spell the canonical path of the file, and so be its own. -/
theorem Settles.sameFile {path other canonical : Path} (settles : snapshot.Settles)
    (tidy : snapshot.Tidy) (clean : path.clean = path)
    (leads : snapshot.canonical? other = some canonical)
    (same : snapshot.identity path = snapshot.identity other) : snapshot.SameFile path other := by
  cases found : snapshot.canonical? path with
  | some resolved =>
    refine ⟨resolved, canonical, found, leads, ?_⟩
    simpa [identity, found, leads] using same
  | none =>
    have spelled : path.components = canonical.components := by
      simpa [identity, found, leads] using same
    have isCanonical : path = canonical := by
      rw [← clean, Path.clean_congr spelled, tidy other canonical leads]
    have own := settles other canonical leads
    rw [← isCanonical, found] at own
    cases own

end Snapshot

/-! ## Links and open files -/

namespace Chain

variable {frames : List Frame}

/-- A link that is found is the directive followed in an open file of that identity. -/
theorem exists_frame_of_find? {identity : Identity} {link : Link}
    (found : (ofFrames frames).find? identity = some link) :
    ∃ frame ∈ frames, frame.link = link ∧ frame.identity = identity := by
  have isLink : link ∈ (ofFrames frames).links := List.mem_of_find?_eq_some found
  have known : link.identity = identity := by simpa using List.find?_some found
  obtain ⟨frame, isOpen, rfl⟩ : ∃ frame ∈ frames, frame.link = link := by
    simpa [ofFrames] using isLink
  exact ⟨frame, isOpen, rfl, known⟩

/-- Where no file is open twice, each open file is found by its identity. -/
theorem find?_of_mem {frame : Frame} (distinct : (frames.map Frame.identity).Nodup)
    (isOpen : frame ∈ frames) : (ofFrames frames).find? frame.identity = some frame.link := by
  cases found : (ofFrames frames).find? frame.identity with
  | none =>
    have missing : frame.identity ∉ frames.map Frame.identity := by
      simpa using find?_eq_none_iff.1 found
    exact absurd (List.mem_map_of_mem isOpen) missing
  | some link =>
    obtain ⟨other, isOpen', rfl, same⟩ := exists_frame_of_find? found
    rw [List.inj_on_of_nodup_map distinct isOpen' isOpen same]

end Chain

/-- The next line of an open file is a directive, and it names the file at `target`. -/
def Frame.AtDirective (settings : Settings) (frame : Frame) (target : Path) : Prop :=
  ∃ line rest name, frame.lines = line :: rest ∧
    settings.target? (settings.stripComment (Source.lineText line)) = some name ∧ name ≠ [] ∧
    frame.path.includedFrom ⟨name⟩ = target

/-- A directive is followed. -/
theorem Frame.AtDirective.step {frame : Frame} {target : Path} (below : List Frame)
    (directive : frame.AtDirective settings target) :
    Step snapshot settings (.reading (frame :: below))
      [.lineRead, .followed frame.location.next target]
      (.entering (frame.chain.extended frame.location.next frame.identity) target
        (frame.past :: below)) := by
  obtain ⟨line, rest, name, ahead, names, named, rfl⟩ := directive
  exact .followed ahead (Settings.meaning_eq_directive_iff.2 ⟨names, named⟩)

/-- A file is about to be entered because it is the root, or because a directive has just named
it. -/
theorem Reached.entering_cases {chain : Chain} {path : Path} {frames : List Frame}
    (reached : Reached snapshot settings homes root (.entering chain path frames)) :
    chain = {} ∨ ∃ frame below, Reached snapshot settings homes root (.reading (frame :: below)) ∧
      frame.AtDirective settings path ∧ frames = frame.past :: below := by
  obtain ⟨start, actions, resolved, run⟩ := reached
  cases run with
  | refl => exact .inl rfl
  | step prior step =>
    cases step with
    | followed ahead means =>
      obtain ⟨names, named⟩ := Settings.meaning_eq_directive_iff.1 means
      exact .inr ⟨_, _, ⟨start, _, resolved, prior⟩, ⟨_, _, _, ahead, names, named, rfl⟩, rfl⟩

/-- Each open file stands at a directive that names the one above it. -/
theorem Nested.isChain {frames : List Frame} {path : Path}
    (nested : Nested snapshot settings homes root frames path) :
    List.IsChain (fun inner outer =>
      Directs snapshot settings outer.path outer.location.line inner.path) frames := by
  induction nested with
  | root resolved => exact .nil
  | inner outer _ _ ih =>
    cases outer with
    | root _ => exact .singleton _
    | inner _ _ directs => exact .cons_cons directs ih

/-- Wherever a parse comes to, each open file but the innermost stands at a directive that names the
one above it. -/
theorem Reached.isChain {position : Position}
    (reached : Reached snapshot settings homes root position) :
    position.frames.IsChain fun inner outer =>
      Directs snapshot settings outer.path outer.location.line inner.path := by
  have sound := reached.sound
  match position, sound with
  | .entering _ _ _, ⟨_, nested⟩ => exact nested.isChain
  | .reading [], _ => exact .nil
  | .reading [_], _ => exact .singleton _
  | .reading (_ :: _ :: _), ⟨_, .inner outer stands directs⟩ =>
    exact .cons_cons directs (Nested.inner outer stands directs).isChain

/-- After a directive has been read, the chain of the file that it names is that of the open
files. -/
theorem Reached.chain_extended {frame : Frame} {below : List Frame}
    (reached : Reached snapshot settings homes root (.reading (frame :: below))) :
    frame.chain.extended frame.location.next frame.identity =
      Chain.ofFrames (frame.past :: below) := by
  rw [Chain.ofFrames_cons, reached.sound.1.chain_eq]
  rfl

/-! ## What is reported -/

/-- The problem of a directive that names the file at `target`, which is open as `ancestor`. -/
def loopProblem (settings : Settings) (frames : List Frame) (target : Path) (ancestor : Frame) :
    Problem :=
  .loop (settings.note (.ofFrames frames)) target ancestor.link

/-- When the parse of `root` reports loops. -/
structure LoopsExact (snapshot : Snapshot) (settings : Settings) (homes : Homes) (root : Path) :
    Prop where
  /-- Among the open files no two are the same file. -/
  once : ∀ position, Reached snapshot settings homes root position →
    position.frames.Pairwise fun inner outer => ¬ snapshot.SameFile inner.path outer.path
  /-- Each open file but the innermost stands at the directive that is being followed in it. -/
  following : ∀ position, Reached snapshot settings homes root position →
    position.frames.IsChain fun inner outer =>
      Directs snapshot settings outer.path outer.location.line inner.path
  /-- A directive that names an open file, the one it stands in among them, is read, followed and
  answered by one problem, whose link is the directive that is being followed in that file. The open
  files are as before, one more line is counted, and the handler is not called. -/
  reported : ∀ frame below target ancestor,
    Reached snapshot settings homes root (.reading (frame :: below)) →
    frame.AtDirective settings target → ancestor ∈ frame.past :: below →
    snapshot.SameFile target ancestor.path →
      Run snapshot settings (.reading (frame :: below))
        [.lineRead, .followed frame.location.next target,
          .recorded (loopProblem settings (frame.past :: below) target ancestor)]
        (.reading (frame.past :: below)) ∧
      ∀ {σ : Type} (handler : Handler σ) (state : σ) (progress : Progress σ),
        let problem := loopProblem settings (frame.past :: below) target ancestor
        let after := progress.replay handler
          [.lineRead, .followed frame.location.next target, .recorded problem]
        after.state = progress.state ∧ after.problems = progress.problems.push problem ∧
          after.tally = { progress.tally with linesRead := progress.tally.linesRead + 1 } ∧
          problem ∈ (parse snapshot settings handler homes root state).problems.toList
  /-- Nothing else is reported as a loop: at each such problem a directive has just been read, and
  the file that it names exists and is open. -/
  only : ∀ position actions next note target link,
    Reached snapshot settings homes root position → Step snapshot settings position actions next →
    .recorded (.loop note target link) ∈ actions →
      ∃ frame below ancestor, Reached snapshot settings homes root (.reading (frame :: below)) ∧
        frame.AtDirective settings target ∧ position.frames = frame.past :: below ∧
        ancestor ∈ position.frames ∧ snapshot.SameFile target ancestor.path ∧
        .loop note target link = loopProblem settings position.frames target ancestor
  /-- The loops that `parse` reports are those that are recorded on the way. -/
  recorded : ∀ {σ : Type} (handler : Handler σ) (state : σ) note target link,
    .loop note target link ∈ (parse snapshot settings handler homes root state).problems.toList ↔
      ∃ position actions next, Reached snapshot settings homes root position ∧
        Step snapshot settings position actions next ∧
        .recorded (.loop note target link) ∈ actions

/-- A loop is recorded where a file is about to be entered that is open already. -/
theorem Step.entering_of_loop {position next : Position} {actions : List Action} {note : Text}
    {target : Path} {link : Link} (step : Step snapshot settings position actions next)
    (isLoop : .recorded (.loop note target link) ∈ actions) :
    ∃ chain frames, position = .entering chain target frames ∧ note = settings.note chain ∧
      chain.find? (snapshot.identity target) = some link := by
  cases step with
  | loop found =>
    obtain ⟨rfl, rfl, rfl⟩ : _ ∧ _ ∧ _ := by simpa using isLoop
    exact ⟨_, _, rfl, rfl, found⟩
  | _ => simp at isLoop

/-- A parse leaves a loop exactly where one of its steps records it. -/
theorem mem_problems_parse_loop {σ : Type} (handler : Handler σ) (state : σ) {note : Text}
    {target : Path} {link : Link} :
    .loop note target link ∈ (parse snapshot settings handler homes root state).problems.toList ↔
      ∃ position actions next, Reached snapshot settings homes root position ∧
        Step snapshot settings position actions next ∧
        .recorded (.loop note target link) ∈ actions := by
  obtain ⟨all, parses⟩ := exists_parses snapshot settings homes root
  rw [parses.problems_eq]
  constructor
  · intro left
    rcases Event.recorded_or_refused_of_mem_problems left with seen | ⟨_, _, _, refused, _⟩
    · rcases parses.exists_step seen with ⟨position, actions, next, reached, step, seen'⟩ | other
      · exact ⟨position, actions, next, reached, step, Action.recorded_mem_events.1 seen'⟩
      · obtain ⟨_, _, same⟩ := other
        cases same
    · cases refused
  · rintro ⟨position, actions, next, reached, step, isLoop⟩
    have done := reached.mem_of_step parses step isLoop
    exact Event.mem_problems_of_recorded (Action.recorded_mem_events.2 done)

/-- After a directive that names an open file there is nothing to do but to report the loop. -/
theorem Reached.step_loop {frame ancestor : Frame} {below : List Frame} {target : Path}
    (reached : Reached snapshot settings homes root (.reading (frame :: below)))
    (directive : frame.AtDirective settings target) (isOpen : ancestor ∈ frame.past :: below)
    (same : snapshot.SameFile target ancestor.path) :
    Step snapshot settings
      (.entering (.ofFrames (frame.past :: below)) target (frame.past :: below))
      [.recorded (loopProblem settings (frame.past :: below) target ancestor)]
      (.reading (frame.past :: below)) := by
  have distinct := (reached.step (directive.step below)).frames_distinct
  have found := Chain.find?_of_mem distinct.1 isOpen
  rw [(distinct.2 ancestor isOpen).1, ← same.identity_eq] at found
  exact .loop found

/-- A link that is found for the file at any clean path is followed in an open file, and that is the
same file. -/
theorem Reached.exists_open_of_find? {path other : Path} {frames : List Frame} {link : Link}
    (resolves : snapshot.Resolves) (settles : snapshot.Settles) (tidy : snapshot.Tidy)
    (reached : Reached snapshot settings homes root (.entering (.ofFrames frames) path frames))
    (clean : other.clean = other)
    (found : (Chain.ofFrames frames).find? (snapshot.identity other) = some link) :
    ∃ ancestor ∈ frames, ancestor.link = link ∧ snapshot.SameFile other ancestor.path := by
  obtain ⟨ancestor, isOpen, isLink, same⟩ := Chain.exists_frame_of_find? found
  obtain ⟨source, canonical, opens, leads, _⟩ := reached.canonical resolves ancestor isOpen
  rw [(reached.frames_distinct.2 ancestor isOpen).1] at same
  exact ⟨ancestor, isOpen, isLink, settles.sameFile tidy clean leads same.symm⟩

/-- Loops are reported where a directive leads back into an open file, and nowhere else. -/
theorem loops_exact (snapshot : Snapshot) (settings : Settings) (homes : Homes) (root : Path)
    (resolves : snapshot.Resolves) (settles : snapshot.Settles) (tidy : snapshot.Tidy) :
    LoopsExact snapshot settings homes root where
  once position reached := by
    have different : position.frames.Pairwise fun inner outer => inner.identity ≠ outer.identity :=
      List.pairwise_map.1 reached.frames_distinct.1
    refine different.imp_of_mem fun {inner outer} isInner isOuter differ same => differ ?_
    rw [(reached.frames_distinct.2 inner isInner).1, (reached.frames_distinct.2 outer isOuter).1]
    exact same.identity_eq
  following position reached := reached.isChain
  reported frame below target ancestor reached directive isOpen same := by
    have follow : Step snapshot settings _ _ _ := directive.step below
    rw [reached.chain_extended] at follow
    have refusal := reached.step_loop directive isOpen same
    refine ⟨.trans (.single follow) (.single refusal), ?_⟩
    intro σ handler state progress problem after
    refine ⟨rfl, rfl, rfl, (mem_problems_parse_loop handler state).2 ?_⟩
    exact ⟨_, _, _, reached.step follow, refusal, List.mem_singleton_self _⟩
  only position actions next note target link reached step isLoop := by
    obtain ⟨chain, frames, rfl, rfl, found⟩ := step.entering_of_loop isLoop
    rcases reached.entering_cases with rfl | ⟨frame, below, before, directive, rfl⟩
    · simp [Chain.find?] at found
    · obtain ⟨rfl, _⟩ := reached.sound
      have clean : target.clean = target := by
        obtain ⟨_, _, _, _, _, _, rfl⟩ := directive
        exact Path.clean_includedFrom _ _
      obtain ⟨ancestor, isOpen, rfl, same⟩ :=
        reached.exists_open_of_find? resolves settles tidy clean found
      exact ⟨frame, below, ancestor, before, directive, rfl, isOpen, same, rfl⟩
  recorded handler state _ _ _ := mem_problems_parse_loop handler state

/-- What is true of every canonical path that has been observed is true of every canonical path in
the snapshot of the observations. -/
theorem Snapshot.forall_canonical_of_observed {observed : List Observation} {holds : Path → Prop}
    (each : ∀ observation ∈ observed, ∀ canonical ∈ observation.canonical?, holds canonical) :
    ∀ path canonical, (ofObservations observed).canonical? path = some canonical →
      holds canonical := by
  intro path canonical leads
  obtain ⟨observation, seen, resolved⟩ := Option.bind_eq_some_iff.1 leads
  exact each observation (List.mem_of_find?_eq_some seen) canonical resolved

/-- Every canonical path in the ring is its own. -/
theorem settles_ring : (Snapshot.ofObservations ring).Settles :=
  Snapshot.forall_canonical_of_observed (by decide)

/-- Every canonical path in the ring is clean. -/
theorem tidy_ring : (Snapshot.ofObservations ring).Tidy :=
  Snapshot.forall_canonical_of_observed (by decide)

/-- In a ring of files, loops are reported exactly. -/
theorem ring_loops_exact :
    (Snapshot.ofObservations ring).Resolves ∧ (Snapshot.ofObservations ring).Settles ∧
      (Snapshot.ofObservations ring).Tidy ∧
      LoopsExact (.ofObservations ring) {} ⟨none, .ok []⟩ ⟨['/', 'a']⟩ :=
  ⟨resolves_ring, settles_ring, tidy_ring,
    loops_exact _ _ _ _ resolves_ring settles_ring tidy_ring⟩

end Splice
