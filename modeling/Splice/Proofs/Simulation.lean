import Mathlib.Data.List.Forall2
import Splice.Proofs.Independence

/-!
# Simulation

Two parses side by side. Where every step of one is matched by steps of the other, so are its runs
(`Run.simulate`), and so is the whole parse where positions correspond (`Parses.simulate`).

A parse knows the lines of a file by their meaning alone, and quotes a line only where a directive
names no file. So two file systems whose files mean the same, line by line, are parsed alike but for
such quotes (`parse_congr`).
-/

namespace Splice

/-- If every step from a position is matched by steps from each position that is related to it, so
is every run. What is done on both sides is compared by a relation that composes. -/
theorem Run.simulate {one other : Snapshot} {settings : Settings}
    {related : Position → Position → Prop} (compare : List Action → List Action → Prop)
    (nil : compare [] [])
    (append : ∀ {first first' rest rest'}, compare first first' → compare rest rest' →
      compare (first ++ rest) (first' ++ rest'))
    (matched : ∀ {position partner next actions}, related position partner →
      Step one settings position actions next →
      ∃ goal others, Run other settings partner others goal ∧ related next goal ∧
        compare actions others)
    {start partner final : Position} {actions : List Action} (meets : related start partner)
    (run : Run one settings start actions final) :
    ∃ goal others, Run other settings partner others goal ∧ related final goal ∧
      compare actions others := by
  induction run with
  | refl => exact ⟨partner, [], .refl, meets, nil⟩
  | step _ step ih =>
    obtain ⟨middle, before, prior, meets, same⟩ := ih
    obtain ⟨goal, more, onward, meets, same'⟩ := matched meets step
    exact ⟨goal, before ++ more, prior.trans onward, meets, append same same'⟩

/-- If every step that a parse comes to is matched from one position to another, which are found
from those that it leads from and to, then what the parse does is matched by what another does. -/
theorem Parses.simulate {one other : Snapshot} {settings : Settings} {homes : Homes}
    {root root' path path' : Path} {actions others : List Action} (partner : Position → Position)
    (compare : List Action → List Action → Prop) (nil : compare [] [])
    (append : ∀ {first first' rest rest'}, compare first first' → compare rest rest' →
      compare (first ++ rest) (first' ++ rest'))
    (matched : ∀ {position next actions}, Reached one settings homes root position →
      Step one settings position actions next →
      ∃ others, Run other settings (partner position) others (partner next) ∧
        compare actions others)
    (starts : partner (.entering {} path []) = .entering {} path' [])
    (ends : partner (.reading []) = .reading [])
    (resolved : homes.resolve root = .ok path) (resolved' : homes.resolve root' = .ok path')
    (parses : Parses one settings homes root actions)
    (parses' : Parses other settings homes root' others) : compare actions others := by
  let related (position goal : Position) : Prop :=
    Reached one settings homes root position ∧ goal = partner position
  have step {position goal next : Position} {actions : List Action}
      (meets : related position goal) (step : Step one settings position actions next) :
      ∃ goal' others, Run other settings goal others goal' ∧ related next goal' ∧
        compare actions others := by
    obtain ⟨reached, rfl⟩ := meets
    obtain ⟨others, run, same⟩ := matched reached step
    exact ⟨_, others, run, ⟨reached.step step, rfl⟩, same⟩
  have start : related (.entering {} path []) (.entering {} path' []) :=
    ⟨⟨path, [], resolved, .refl⟩, starts.symm⟩
  obtain ⟨goal, done, run, ⟨-, rfl⟩, same⟩ :=
    (parses.run path resolved).simulate compare nil append step start
  rw [ends] at run
  rwa [run.unique (parses'.run path' resolved')] at same

/-! ## Related file systems -/

/-- Two attempts to open a file fail alike, or both succeed, with related sources. -/
inductive Opening (related : Source → Source → Prop) :
    Except Fault Source → Except Fault Source → Prop where
  | failed (fault : Fault) : Opening related (.error fault) (.error fault)
  | opened {source partner} (same : related source partner) :
      Opening related (.ok source) (.ok partner)

namespace Opening

variable {related weaker : Source → Source → Prop} {content content' : Except Fault Source}

/-- Sources that are related are related more weakly. -/
theorem imp (opening : Opening related content content')
    (weaken : ∀ source partner, related source partner → weaker source partner) :
    Opening weaker content content' := by
  cases opening with
  | failed fault => exact .failed fault
  | opened same => exact .opened (weaken _ _ same)

theorem eq_error {fault : Fault} (opening : Opening related (.error fault) content') :
    content' = .error fault := by
  cases opening
  rfl

theorem exists_ok {source : Source} (opening : Opening related (.ok source) content') :
    ∃ partner, content' = .ok partner ∧ related source partner := by
  cases opening with
  | opened same => exact ⟨_, rfl, same⟩

end Opening

/-- Two file systems have the same paths, and under each related files. -/
structure Snapshot.Alike (related : Source → Source → Prop) (one other : Snapshot) : Prop where
  /-- Paths lead to the same canonical paths. -/
  canonical_eq : ∀ path, one.canonical? path = other.canonical? path
  /-- Files that open are related, and no other file opens. -/
  opening : ∀ path, Opening related (one.source path) (other.source path)

namespace Snapshot.Alike

variable {related weaker : Source → Source → Prop} {one other : Snapshot}

/-- Files that are related are related more weakly. -/
theorem imp (alike : Alike related one other)
    (weaken : ∀ source partner, related source partner → weaker source partner) :
    Alike weaker one other where
  canonical_eq := alike.canonical_eq
  opening path := (alike.opening path).imp weaken

/-- Files are known by the same identities. -/
theorem identity_eq (alike : Alike related one other) (path : Path) :
    one.identity path = other.identity path := by
  rw [identity, identity, alike.canonical_eq]

end Snapshot.Alike

/-! ## Lines that mean the same -/

/-- What lines mean, one after the other. -/
def Settings.meanings (settings : Settings) (lines : List (List UInt8)) : List Meaning :=
  lines.map fun line => settings.meaning (Source.lineText line)

/-- Two sources fail alike, and their lines mean the same. -/
structure Source.MeansSame (settings : Settings) (source partner : Source) : Prop where
  fault_eq : source.fault = partner.fault
  meanings_eq : settings.meanings source.lines = settings.meanings partner.lines

/-- Two open files differ in nothing but how the lines that are left are spelled. -/
structure Frame.MeansSame (settings : Settings) (frame partner : Frame) : Prop where
  chain_eq : frame.chain = partner.chain
  identity_eq : frame.identity = partner.identity
  fault_eq : frame.fault = partner.fault
  location_eq : frame.location = partner.location
  meanings_eq : settings.meanings frame.lines = settings.meanings partner.lines

/-- Two moments of a parse differ in nothing but how the lines that are left are spelled. -/
inductive Position.MeansSame (settings : Settings) : Position → Position → Prop where
  | entering (chain path) {frames partners}
      (same : List.Forall₂ (Frame.MeansSame settings) frames partners) :
      MeansSame settings (.entering chain path frames) (.entering chain path partners)
  | reading {frames partners} (same : List.Forall₂ (Frame.MeansSame settings) frames partners) :
      MeansSame settings (.reading frames) (.reading partners)

/-- A problem without the line that it quotes: only a directive that names no file quotes one. -/
def Problem.withoutQuote : Problem → Problem
  | .nameless location => .nameless { location with content := none }
  | problem => problem

/-- An action without the line that it quotes. -/
def Action.withoutQuote : Action → Action
  | .recorded problem => .recorded problem.withoutQuote
  | action => action

/-- An event without the line that it quotes. -/
def Event.withoutQuote : Event → Event
  | .recorded problem => .recorded problem.withoutQuote
  | event => event

section

variable {settings : Settings} {frame partner : Frame}

/-- Where a line is left on one side, one that means the same is left on the other. -/
theorem Frame.MeansSame.ahead (same : frame.MeansSame settings partner) {line : List UInt8}
    {rest : List (List UInt8)} (ahead : frame.lines = line :: rest) :
    ∃ line' rest', partner.lines = line' :: rest' ∧
      settings.meaning (Source.lineText line) = settings.meaning (Source.lineText line') ∧
      frame.past.MeansSame settings partner.past := by
  have meanings := same.meanings_eq
  rw [ahead] at meanings
  cases left : partner.lines with
  | nil => simp [Settings.meanings, left] at meanings
  | cons line' rest' =>
    rw [left] at meanings
    obtain ⟨means, others⟩ := List.cons_eq_cons.1 meanings
    refine ⟨line', rest', rfl, means, same.chain_eq, same.identity_eq, same.fault_eq, ?_, ?_⟩
    · rw [past_location, past_location, same.location_eq]
    · simpa [past, ahead, left, Settings.meanings] using others

/-- Where no line is left on one side, none is left on the other. -/
theorem Frame.MeansSame.atEnd (same : frame.MeansSame settings partner)
    (atEnd : frame.lines = []) : partner.lines = [] := by
  have meanings := same.meanings_eq
  rw [atEnd] at meanings
  exact List.map_eq_nil_iff.1 meanings.symm

/-- The path of an open file is the same on both sides. -/
theorem Frame.MeansSame.path_eq (same : frame.MeansSame settings partner) :
    frame.path = partner.path := by
  rw [path, path, same.location_eq]

end

section

variable {one other : Snapshot} {settings : Settings}

/-- A step is matched by a step that does the same, but for a line that it quotes. -/
theorem Step.simulate (alike : one.Alike (Source.MeansSame settings) other)
    {position partner next : Position} {actions : List Action}
    (same : position.MeansSame settings partner) (step : Step one settings position actions next) :
    ∃ goal others, Step other settings partner others goal ∧ next.MeansSame settings goal ∧
      actions.map Action.withoutQuote = others.map Action.withoutQuote := by
  cases step with
  | @loop chain path _ link found =>
    obtain ⟨_, _, frames⟩ := same
    rw [alike.identity_eq] at found
    exact ⟨_, _, .loop found, .reading frames, rfl⟩
  | @unopened chain path _ fault new fails =>
    obtain ⟨_, _, frames⟩ := same
    rw [alike.identity_eq] at new
    have fails' := (fails ▸ alike.opening path).eq_error
    exact ⟨_, _, .unopened new fails', .reading frames, rfl⟩
  | @opened chain path _ source new opens =>
    obtain ⟨_, _, frames⟩ := same
    rw [alike.identity_eq] at new
    obtain ⟨source', opens', means⟩ := (opens ▸ alike.opening path).exists_ok
    refine ⟨_, _, .opened new opens', .reading (.cons ?_ frames), rfl⟩
    exact ⟨rfl, alike.identity_eq path, means.fault_eq, rfl, means.meanings_eq⟩
  | dropped ahead means =>
    obtain _ | ⟨⟨⟩ | ⟨here, below⟩⟩ := same
    obtain ⟨line', rest', ahead', same, past⟩ := here.ahead ahead
    exact ⟨_, _, .dropped ahead' (same ▸ means), .reading (.cons past below), rfl⟩
  | nameless ahead means =>
    obtain _ | ⟨⟨⟩ | ⟨here, below⟩⟩ := same
    obtain ⟨line', rest', ahead', same, past⟩ := here.ahead ahead
    refine ⟨_, _, .nameless ahead' (same ▸ means), .reading (.cons past below), ?_⟩
    simp [Action.withoutQuote, Problem.withoutQuote, Location.withContent, here.location_eq]
  | followed ahead means =>
    obtain _ | ⟨⟨⟩ | ⟨here, below⟩⟩ := same
    obtain ⟨line', rest', ahead', same, past⟩ := here.ahead ahead
    refine ⟨_, _, .followed ahead' (same ▸ means), ?_, ?_⟩
    · rw [here.chain_eq, here.identity_eq, here.location_eq, here.path_eq]
      exact .entering _ _ (.cons past below)
    · rw [here.location_eq, here.path_eq]
  | delivered ahead means =>
    obtain _ | ⟨⟨⟩ | ⟨here, below⟩⟩ := same
    obtain ⟨line', rest', ahead', same, past⟩ := here.ahead ahead
    refine ⟨_, _, .delivered ahead' (same ▸ means), .reading (.cons past below), ?_⟩
    rw [here.location_eq]
  | ended atEnd sound =>
    obtain _ | ⟨⟨⟩ | ⟨here, below⟩⟩ := same
    exact ⟨_, _, .ended (here.atEnd atEnd) (here.fault_eq ▸ sound), .reading below, rfl⟩
  | failed atEnd fails =>
    obtain _ | ⟨⟨⟩ | ⟨here, below⟩⟩ := same
    refine ⟨_, _, .failed (here.atEnd atEnd) (here.fault_eq ▸ fails), .reading below, ?_⟩
    rw [here.location_eq]

/-- What a run does from one position, it does from another that differs in spelling alone. -/
theorem Run.simulate_meansSame (alike : one.Alike (Source.MeansSame settings) other)
    {start partner : Position} {actions : List Action} (same : start.MeansSame settings partner)
    (run : Run one settings start actions (.reading [])) :
    ∃ others, Run other settings partner others (.reading []) ∧
      actions.map Action.withoutQuote = others.map Action.withoutQuote := by
  let compare (actions others : List Action) : Prop :=
    actions.map Action.withoutQuote = others.map Action.withoutQuote
  have append {first first' rest rest' : List Action} (one : compare first first')
      (two : compare rest rest') : compare (first ++ rest) (first' ++ rest') := by
    simp only [compare, List.map_append] at one two ⊢
    rw [one, two]
  have matched {position partner next : Position} {actions : List Action}
      (same : position.MeansSame settings partner)
      (step : Step one settings position actions next) :
      ∃ goal others, Run other settings partner others goal ∧ next.MeansSame settings goal ∧
        compare actions others := by
    obtain ⟨goal, others, onward, meets, equal⟩ := step.simulate alike same
    exact ⟨goal, others, .single onward, meets, equal⟩
  obtain ⟨goal, others, onward, meets, equal⟩ := run.simulate compare rfl append matched same
  obtain _ | ⟨⟨⟩⟩ := meets
  exact ⟨others, onward, equal⟩

end

/-! ## Whole parses -/

namespace Action

variable (actions : List Action)

@[simp] theorem events_map_withoutQuote :
    events (actions.map withoutQuote) = (events actions).map Event.withoutQuote := by
  induction actions with
  | nil => rfl
  | cons action rest ih =>
    cases action <;> simpa [withoutQuote, Event.withoutQuote] using ih

@[simp] theorem filesOpened_map_withoutQuote :
    filesOpened (actions.map withoutQuote) = filesOpened actions := by
  rw [filesOpened, List.countP_map]
  congr 1
  funext action
  cases action <;> rfl

@[simp] theorem linesRead_map_withoutQuote :
    linesRead (actions.map withoutQuote) = linesRead actions := by
  rw [linesRead, List.count, List.countP_map]
  congr 1
  funext action
  cases action <;> rfl

end Action

namespace Event

variable (events : List Event)

@[simp] theorem deliveries_map_withoutQuote :
    deliveries (events.map withoutQuote) = deliveries events := by
  induction events with
  | nil => rfl
  | cons event rest ih => cases event <;> simpa [withoutQuote] using ih

@[simp] theorem problems_map_withoutQuote {σ : Type} (handler : Handler σ) (state : σ) :
    problems handler state (events.map withoutQuote) =
      (problems handler state events).map Problem.withoutQuote := by
  induction events generalizing state with
  | nil => rfl
  | cons event rest ih =>
    cases event with
    | recorded problem => simp [withoutQuote, problems, ih]
    | delivered line location =>
      cases answer : (handler.deliver state line location).2 <;>
        simp [withoutQuote, problems, answer, ih, Problem.withoutQuote]

end Event

section

variable {one other : Snapshot} {settings : Settings}

/-- A root stands for the same events but for quotes, and for the same counters. -/
theorem Snapshot.Alike.expansion_eq (alike : one.Alike (Source.MeansSame settings) other)
    (homes : Homes) (root : Path) :
    (Expansion.ofRoot one settings homes root).map Event.withoutQuote =
        (Expansion.ofRoot other settings homes root).map Event.withoutQuote ∧
      Expansion.tally one settings homes root = Expansion.tally other settings homes root := by
  cases resolved : homes.resolve root with
  | error cause => simp [Expansion.ofRoot, Expansion.tally, resolved]
  | ok path =>
    obtain ⟨all, parses⟩ := exists_parses one settings homes root
    obtain ⟨all', parses'⟩ := exists_parses other settings homes root
    obtain ⟨others, run, same⟩ :=
      (parses.run path resolved).simulate_meansSame alike (.entering {} path .nil)
    obtain rfl := run.unique (parses'.run path resolved)
    have events := congrArg Action.events same
    have files := congrArg Action.filesOpened same
    have lines := congrArg Action.linesRead same
    simp only [Action.events_map_withoutQuote, Action.filesOpened_map_withoutQuote,
      Action.linesRead_map_withoutQuote] at events files lines
    have delivered := congrArg Event.deliveries events
    simp only [Event.deliveries_map_withoutQuote] at delivered
    refine ⟨by rw [← parses.events, ← parses'.events, events], ?_⟩
    rw [← parses.tally, ← parses'.tally, files, lines, delivered]

/-- Two file systems whose files mean the same are parsed alike: a handler gets the same calls, the
counters are the same, and so are the problems but for the lines that they quote. -/
theorem parse_congr {σ : Type} (alike : one.Alike (Source.MeansSame settings) other)
    (handler : Handler σ) (homes : Homes) (root : Path) (state : σ) :
    calls one settings handler homes root state = calls other settings handler homes root state ∧
      (parse one settings handler homes root state).tally =
        (parse other settings handler homes root state).tally ∧
      (parse one settings handler homes root state).problems.toList.map Problem.withoutQuote =
        (parse other settings handler homes root state).problems.toList.map
          Problem.withoutQuote := by
  obtain ⟨events, tally⟩ := alike.expansion_eq homes root
  obtain ⟨all, parses⟩ := exists_parses one settings homes root
  obtain ⟨all', parses'⟩ := exists_parses other settings homes root
  refine ⟨?_, ?_, ?_⟩
  · have delivered := congrArg Event.deliveries events
    simpa only [calls_eq, Event.deliveries_map_withoutQuote] using delivered
  · rw [tally_parse, tally_parse, tally]
  · rw [parses.problems_eq, parses'.problems_eq, parses.events, parses'.events,
      ← Event.problems_map_withoutQuote, events, Event.problems_map_withoutQuote]

end

end Splice
