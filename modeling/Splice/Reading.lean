import Splice.Handler
import Splice.Settings
import Splice.Snapshot
import Splice.Tally

/-!
# Reading files

The parse itself: a file is read line by line, comments are stripped, include directives are
followed where they stand, and every other line is delivered. A file that is being expanded already
is not entered again, which also bounds the recursion: each file entered has an identity that the
chain lacks, and a snapshot has finitely many.

Problems are recorded and reading goes on. What the parse did is left in a trace.
-/

namespace Splice

/-- A step of a parse that is worth a note in the log. -/
inductive Trace where
  /-- A file has opened. -/
  | reading (note : Text) (path : Path)
  /-- A directive is followed. -/
  | including (location : Location) (target : Path)
  /-- A problem has been recorded. -/
  | recorded (problem : Problem)
  deriving DecidableEq, Repr

/-- The text of a step in the log. -/
def Trace.message : Trace → Text
  | .reading note path => note ++ ": reading ".toList ++ path.text
  | .including location target => location.display ++ ": including ".toList ++ target.text
  | .recorded problem => "recorded: ".toList ++ problem.message

/-- How far a parse has come. -/
structure Progress (σ : Type) where
  /-- The state of the handler. -/
  state : σ
  /-- The counters. -/
  tally : Tally := {}
  /-- The problems recorded so far, in order. -/
  problems : Array Problem := #[]
  /-- The steps taken so far, in order. -/
  trace : Array Trace := #[]

namespace Progress

variable {σ : Type}

/-- Notes a step. -/
def traced (progress : Progress σ) (step : Trace) : Progress σ :=
  { progress with trace := progress.trace.push step }

/-- Records a problem, and notes that. -/
def record (progress : Progress σ) (problem : Problem) : Progress σ :=
  { progress with
    problems := progress.problems.push problem
    trace := progress.trace.push (.recorded problem) }

/-- A file has opened. -/
def opened (progress : Progress σ) (note : Text) (path : Path) : Progress σ :=
  { progress.traced (.reading note path) with
    tally.filesVisited := progress.tally.filesVisited + 1 }

/-- A line has been read. -/
def lineRead (progress : Progress σ) : Progress σ :=
  { progress with tally.linesRead := progress.tally.linesRead + 1 }

/-- Delivers a line, and records its refusal if it is refused. -/
def delivered (progress : Progress σ) (handler : Handler σ) (line : Text) (location : Location) :
    Progress σ :=
  let (state, refusal) := handler.deliver progress.state line location
  let progress :=
    { progress with state, tally.linesParsed := progress.tally.linesParsed + 1 }
  match refusal with
  | none => progress
  | some cause => progress.record (.refused location cause)

end Progress

section

variable {σ : Type} (snapshot : Snapshot) (settings : Settings) (handler : Handler σ)

mutual

/-- Reads the file at `path`, reached through `chain`, unless it is being expanded already or does
not open. -/
def visit (chain : Chain) (path : Path) (progress : Progress σ) : Progress σ :=
  match _found : chain.find? (snapshot.identity path) with
  | some link => progress.record (.loop (settings.note chain) path link)
  | none =>
    match _opened : snapshot.source path with
    | .error fault => progress.record (.unopened (settings.note chain) path fault)
    | .ok source =>
      scan chain (snapshot.identity path) source.fault
        { source := path, note := settings.note chain } source.lines
        (progress.opened (settings.note chain) path)
termination_by (snapshot.remaining chain.identities, 0)
decreasing_by
  exact Prod.Lex.left _ _ (Snapshot.remaining_lt _opened (Chain.find?_eq_none_iff.1 _found))

/-- Reads the remaining lines of an open file, then its failure if it has one. `location` is the
line before them. -/
def scan (chain : Chain) (identity : Identity) (fault : Option Fault) (location : Location) :
    List (List UInt8) → Progress σ → Progress σ
  | [], progress =>
    match fault with
    | none => progress
    | some fault => progress.record (.unreadable location.next fault)
  | line :: rest, progress =>
    let here := location.next
    let text := Source.lineText line
    let progress := progress.lineRead
    let progress :=
      match settings.meaning text with
      | .dropped => progress
      | .nameless => progress.record (.nameless (here.withContent text))
      | .directive target =>
        let target := here.source.includedFrom ⟨target⟩
        visit (chain.extended here identity) target (progress.traced (.including here target))
      | .content line => progress.delivered handler line here
    scan chain identity fault here rest progress
termination_by lines => (snapshot.remaining (chain.identities ++ [identity]), lines.length)
decreasing_by
  · rw [Chain.identities_extended]
    exact Prod.Lex.right _ (Nat.succ_pos _)
  · exact Prod.Lex.right _ (Nat.lt_succ_self _)

end

/-- Parses the file that `root` names, and everything that it includes. -/
def parse (homes : Homes) (root : Path) (state : σ) : Progress σ :=
  match homes.resolve root with
  | .ok path => visit snapshot settings handler {} path { state }
  | .error cause =>
    ({ state } : Progress σ).record (.unexpanded (settings.note {}) root.text cause)

end

end Splice
