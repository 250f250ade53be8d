import Splice.Proofs.Independence
import Splice.Session

/-!
# Reuse

A parser that has been used parses like one that has not (`reused_like_fresh`). Whatever has been
done with it, the only things that last are its settings and the state of its handler. The settings
in force are read off what has been done (`Settings.inForce`), and so are the calls that the handler
has had; the counters are those of the latest parse, until there is another.

A session is used step by step. What one step leaves is said of settings, of counters and of the
handler in turn, and each time the whole history follows by induction.
-/

namespace Splice

namespace Session

/-- Something that is done with a session. A parse comes with the files as they are at that time. -/
inductive Use where
  | setComment (marker : Text)
  | setIncludeMarker (marker : Text)
  | keepBlankLines
  | keepWhitespace
  | feed (line : Text) (location : Location)
  | askTally
  | askDescription
  | parse (snapshot : Snapshot) (homes : Homes) (root : Path)

/-- What a use is answered with. -/
inductive Answer (σ : Type) where
  | done
  | fed (refusal : Option Refusal)
  | tally (tally : Tally)
  | description (text : Text)
  | parsed (progress : Progress σ)

namespace Use

/-- The comment marker that a use sets. -/
def comment? : Use → Option Text
  | .setComment marker => some marker
  | _ => none

/-- The include marker that a use sets. -/
def includeMarker? : Use → Option Text
  | .setIncludeMarker marker => some marker
  | _ => none

/-- Whether blank lines are delivered from this use on. -/
def keepsBlankLines : Use → Bool
  | .keepBlankLines => true
  | _ => false

/-- Whether white space is left in place from this use on. -/
def keepsWhitespace : Use → Bool
  | .keepWhitespace => true
  | _ => false

/-- Whether a use is a parse. -/
def isParse : Use → Bool
  | .parse .. => true
  | _ => false

end Use

variable {σ : Type}

/-- Uses a session once: the session after that, and the answer. -/
def perform (handler : Handler σ) (session : Session σ) : Use → Session σ × Answer σ
  | .setComment marker => (session.setComment marker, .done)
  | .setIncludeMarker marker => (session.setIncludeMarker marker, .done)
  | .keepBlankLines => (session.keepBlankLines, .done)
  | .keepWhitespace => (session.keepWhitespace, .done)
  | .feed line location =>
    let (session, refusal) := session.feed handler line location
    (session, .fed refusal)
  | .askTally => (session, .tally session.tally)
  | .askDescription => (session, .description session.settings.description)
  | .parse snapshot homes root =>
    let (session, progress) := session.parse handler snapshot homes root
    (session, .parsed progress)

/-- The session after a number of uses. -/
def used (handler : Handler σ) (session : Session σ) (uses : List Use) : Session σ :=
  uses.foldl (fun session use => (session.perform handler use).1) session

/-- The session whose handler keeps a log of its calls. -/
def withLog (session : Session σ) (log : List (Text × Location)) :
    Session (σ × List (Text × Location)) :=
  ⟨session.settings, (session.state, log), session.tally⟩

/-- The calls that the handler has in a number of uses. -/
def given (handler : Handler σ) (session : Session σ) (uses : List Use) :
    List (Text × Location) :=
  ((session.withLog []).used handler.logged uses).state.2

end Session

/-- The settings after some uses of a session: the markers that were set last, and blank lines and
white space are kept if they were to begin with or have been since. -/
def Settings.inForce (settings : Settings) (uses : List Session.Use) : Settings where
  description := settings.description
  comment := (uses.filterMap Session.Use.comment?).getLast?.getD settings.comment
  includeMarker := (uses.filterMap Session.Use.includeMarker?).getLast?.getD settings.includeMarker
  keepBlankLines := settings.keepBlankLines || uses.any Session.Use.keepsBlankLines
  trimWhitespace := settings.trimWhitespace && !uses.any Session.Use.keepsWhitespace

/-- The settings in force are found use by use. -/
theorem Settings.inForce_append (settings : Settings) (first rest : List Session.Use) :
    settings.inForce (first ++ rest) = (settings.inForce first).inForce rest := by
  simp only [Settings.inForce, List.filterMap_append, List.getLast?_append, List.any_append,
    Settings.mk.injEq]
  refine ⟨trivial, ?_, ?_, (Bool.or_assoc ..).symm, ?_⟩
  · cases (rest.filterMap Session.Use.comment?).getLast? <;> rfl
  · cases (rest.filterMap Session.Use.includeMarker?).getLast? <;> rfl
  · rw [Bool.not_or, Bool.and_assoc]

namespace Session

variable {σ : Type} (handler : Handler σ)

@[simp] theorem used_nil (session : Session σ) : session.used handler [] = session := rfl

@[simp] theorem used_cons (session : Session σ) (use : Use) (rest : List Use) :
    session.used handler (use :: rest) = (session.perform handler use).1.used handler rest := rfl

@[simp] theorem used_append (session : Session σ) (first rest : List Use) :
    session.used handler (first ++ rest) = (session.used handler first).used handler rest :=
  List.foldl_append

/-! ## Settings -/

/-- One use leaves the settings as it sets them. -/
theorem settings_perform (session : Session σ) (use : Use) :
    (session.perform handler use).1.settings = session.settings.inForce [use] := by
  cases use <;>
    simp [perform, setComment, setIncludeMarker, keepBlankLines, keepWhitespace, feed, parse, after,
      Settings.inForce, Use.comment?, Use.includeMarker?, Use.keepsBlankLines, Use.keepsWhitespace]

/-- The settings of a session are those in force after all uses of it. -/
theorem settings_used (session : Session σ) (uses : List Use) :
    (session.used handler uses).settings = session.settings.inForce uses := by
  induction uses generalizing session with
  | nil => simp [Settings.inForce]
  | cons use rest ih =>
    rw [used_cons, ih, settings_perform, ← Settings.inForce_append, List.singleton_append]

/-! ## Counters -/

/-- Only a parse counts anything. -/
theorem tally_perform (session : Session σ) {use : Use} (other : use.isParse = false) :
    (session.perform handler use).1.tally = session.tally := by
  cases use with
  | parse => cases other
  | _ => rfl

/-- The counters of a parse last until there is another. -/
theorem tally_used (session : Session σ) {uses : List Use}
    (others : ∀ use ∈ uses, use.isParse = false) :
    (session.used handler uses).tally = session.tally := by
  induction uses generalizing session with
  | nil => rfl
  | cons use rest ih =>
    rw [List.forall_mem_cons] at others
    rw [used_cons, ih _ others.2, tally_perform handler session others.1]

/-! ## The handler -/

/-- One use makes some calls. They lead the handler from its state before to that after, and a log
grows by them. -/
theorem exists_calls_perform (session : Session σ) (use : Use) :
    ∃ calls, (session.perform handler use).1.state = handler.after session.state calls ∧
      ∀ log, ((session.withLog log).perform handler.logged use).1 =
        (session.perform handler use).1.withLog (log ++ calls) := by
  cases use with
  | feed line location => exact ⟨[(line, location)], rfl, fun log => rfl⟩
  | parse snapshot homes root =>
    refine ⟨Event.deliveries (Expansion.ofRoot snapshot session.settings homes root), ?_, ?_⟩
    · exact state_parse handler homes root session.state
    · intro log
      simp only [perform, parse, after, withLog, state_parse, tally_parse, Handler.after_logged]
  | _ => exact ⟨[], rfl, fun log => by rw [List.append_nil]; rfl⟩

/-- So do any number of uses. -/
theorem exists_calls_used (session : Session σ) (uses : List Use) :
    ∃ calls, (session.used handler uses).state = handler.after session.state calls ∧
      ∀ log, (session.withLog log).used handler.logged uses =
        (session.used handler uses).withLog (log ++ calls) := by
  induction uses generalizing session with
  | nil => exact ⟨[], rfl, fun log => by rw [List.append_nil]; rfl⟩
  | cons use rest ih =>
    obtain ⟨calls, state, logged⟩ := exists_calls_perform handler session use
    obtain ⟨more, state', logged'⟩ := ih (session.perform handler use).1
    refine ⟨calls ++ more, ?_, fun log => ?_⟩
    · rw [used_cons, state', state]
      exact List.foldl_append.symm
    · rw [used_cons, used_cons, logged, logged', List.append_assoc]

/-- The state of the handler is the one that all its calls lead to. -/
theorem state_used (session : Session σ) (uses : List Use) :
    (session.used handler uses).state =
      handler.after session.state (session.given handler uses) := by
  obtain ⟨calls, state, logged⟩ := exists_calls_used handler session uses
  rw [given, logged [], state]
  rfl

/-! ## Parses -/

/-- A parse is made with the settings and the handler of the session, and with nothing else. -/
theorem parse_congr {session other : Session σ} (settings : session.settings = other.settings)
    (state : session.state = other.state) (snapshot : Snapshot) (homes : Homes) (root : Path) :
    (session.perform handler (.parse snapshot homes root)).2 =
        (other.perform handler (.parse snapshot homes root)).2 ∧
      session.given handler [.parse snapshot homes root] =
        other.given handler [.parse snapshot homes root] := by
  simp only [perform, parse, given, used_cons, used_nil, after, withLog, settings, state, and_self]

/-- A parser that has been used is like a fresh one. Let it have been used in any way, with any
files. Its handler is then in the state that all its calls have led to; and a parse of any root is
answered by the same counters, problems and log, and makes the same calls, as the first parse of a
parser that is made with the settings in force and has its handler in that state. The counters that
are answered are those that it tells of until the next parse, whatever else is done in between. -/
theorem reused_like_fresh (settings : Settings) (state : σ) (earlier later : List Use)
    (snapshot : Snapshot) (homes : Homes) (root : Path)
    (others : ∀ use ∈ later, use.isParse = false) :
    let session := (ofSettings settings state).used handler earlier
    let fresh := ofSettings (settings.inForce earlier) session.state
    let parse : Use := .parse snapshot homes root
    let progress := Splice.parse snapshot session.settings handler homes root session.state
    session.state = handler.after state ((ofSettings settings state).given handler earlier) ∧
      (session.perform handler parse).2 = .parsed progress ∧
      (session.perform handler parse).2 = (fresh.perform handler parse).2 ∧
      session.given handler [parse] = fresh.given handler [parse] ∧
      (((session.used handler [parse]).used handler later).perform handler .askTally).2 =
        .tally progress.tally := by
  intro session fresh parse progress
  have inForce : session.settings = fresh.settings := by
    rw [settings_used, settings_ofSettings, settings_ofSettings]
  have sameState : session.state = fresh.state := (state_ofSettings _ _).symm
  obtain ⟨answered, given⟩ := parse_congr handler inForce sameState snapshot homes root
  refine ⟨?_, rfl, answered, given, ?_⟩
  · rw [state_used, state_ofSettings]
  · rw [perform, tally_used handler _ others]
    rfl

/-- A parser that has been fed and used, and whose comments are introduced otherwise since, is like
a fresh one; its counters stay while it is changed again. -/
theorem used_ring_like_fresh :
    let ring := Snapshot.ofObservations ring
    let homes : Homes := ⟨none, .ok []⟩
    let root : Path := ⟨['/', 'a']⟩
    let handler := Handler.collect fun _ => none
    let earlier : List Use := [.setComment ['#'], .feed "y".toList ⟨root, 1, [], none⟩,
      .parse ring homes root, .keepWhitespace, .setComment [';']]
    let later : List Use := [.setIncludeMarker ['@'], .keepBlankLines, .askDescription]
    let session := (ofSettings {} #[]).used handler earlier
    let inForce : Settings := { comment := [';'], trimWhitespace := false }
    let fresh := ofSettings inForce session.state
    let parse : Use := .parse ring homes root
    let progress := Splice.parse ring session.settings handler homes root session.state
    (∀ use ∈ later, use.isParse = false) ∧ ({} : Settings).inForce earlier = inForce ∧
      session.state = handler.after #[] ((ofSettings {} #[]).given handler earlier) ∧
      (session.perform handler parse).2 = .parsed progress ∧
      (session.perform handler parse).2 = (fresh.perform handler parse).2 ∧
      session.given handler [parse] = fresh.given handler [parse] ∧
      (((session.used handler [parse]).used handler later).perform handler .askTally).2 =
        .tally progress.tally := by
  intro ring homes root handler earlier later session inForce fresh parse progress
  have others : ∀ use ∈ later, use.isParse = false := by simp [later, Use.isParse]
  exact ⟨others, rfl, reused_like_fresh handler {} #[] earlier later ring homes root others⟩

end Session

end Splice
