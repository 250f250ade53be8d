import Splice.Proofs.Flags
import Splice.Proofs.Reuse
import Splice.Proofs.Text.Utf8

/-!
# Sinks of limited size

What becomes of lines that are written to a sink that takes only so many bytes
(`Session.throttled`). However a parser is used, the sink holds the beginning of all that has been
written to it, cut off at its limit, be that inside a line or inside a character. A line is refused
if its newline lies beyond the limit; from the first such line on, all are. Parses come to the same
as with an unlimited sink but for these refusals.

The step is a single line (`Sink.Holds.deliver`). That later lines end further on makes the refused
ones the last ones (`Sink.Holds.answers`).
-/

namespace Splice

/-! ## Answers -/

namespace Handler

/-- What a handler answers that starts in `state` and is given lines: why each was refused, if it
was. -/
def answers {σ : Type} (handler : Handler σ) (state : σ) :
    List (Text × Location) → List (Option Refusal)
  | [] => []
  | (line, location) :: rest =>
    let (next, refusal) := handler.deliver state line location
    refusal :: handler.answers next rest

variable {σ : Type} (handler : Handler σ)

theorem answers_cons (state : σ) (call : Text × Location) (rest : List (Text × Location)) :
    handler.answers state (call :: rest) =
      (handler.deliver state call.1 call.2).2 ::
        handler.answers (handler.deliver state call.1 call.2).1 rest := rfl

/-- A handler that answers like `handler`, and keeps its answers. -/
def audited : Handler (σ × List (Option Refusal)) where
  deliver state line location :=
    let (next, refusal) := handler.deliver state.1 line location
    ((next, state.2 ++ [refusal]), refusal)

theorem after_audited (state : σ) (log : List (Option Refusal)) (calls : List (Text × Location)) :
    handler.audited.after (state, log) calls =
      (handler.after state calls, log ++ handler.answers state calls) := by
  induction calls generalizing state log with
  | nil => simp [after, answers]
  | cons call rest ih =>
    have onward := ih (handler.deliver state call.1 call.2).1
      (log ++ [(handler.deliver state call.1 call.2).2])
    simpa [after, audited, answers_cons] using onward

/-- Where all lines up to some point are taken and all others are refused for one cause, the
refusals are those of the others. -/
theorem refusals_of_answers {state : σ} {calls : List (Text × Location)} {taken : Nat}
    {cause : Refusal}
    (answers : handler.answers state calls =
      List.replicate taken none ++ List.replicate (calls.length - taken) (some cause)) :
    handler.refusals state calls = (calls.drop taken).map fun call => .refused call.2 cause := by
  induction calls generalizing state taken with
  | nil => simp [refusals]
  | cons call rest ih =>
    rw [answers_cons] at answers
    cases taken with
    | zero =>
      obtain ⟨refused, others⟩ := List.cons_eq_cons.1 answers
      have onward : handler.answers (handler.deliver state call.1 call.2).1 rest =
          List.replicate 0 none ++ List.replicate (rest.length - 0) (some cause) := by
        simpa using others
      rw [refusals_cons, refused, ih onward]
      rfl
    | succ taken =>
      rw [List.length_cons, Nat.add_sub_add_right, List.replicate_succ, List.cons_append] at answers
      obtain ⟨passed, others⟩ := List.cons_eq_cons.1 answers
      rw [refusals_cons, passed, ih others]
      rfl

end Handler

/-! ## What has been written -/

namespace Sink

/-- What writing lines comes to: each in bytes, with a newline. -/
def written (calls : List (Text × Location)) : List UInt8 :=
  Utf8.encode (calls.flatMap fun call => call.1 ++ ['\n'])

@[simp] theorem written_nil : written [] = [] := rfl

theorem written_append (first rest : List (Text × Location)) :
    written (first ++ rest) = written first ++ written rest := by
  simp [written, Utf8.encode_append]

/-- A line is written with a newline at least. -/
theorem written_singleton_ne_nil (call : Text × Location) : written [call] ≠ [] := by
  simp [written, Utf8.encode_append, Utf8.encodeChar_ne_nil]

/-- The sink takes up to `limit` bytes, and holds those of the given bytes that it has taken. -/
structure Holds (sink : Sink) (limit : Nat) (bytes : List UInt8) : Prop where
  capacity_eq : sink.capacity = some limit
  stored_eq : sink.stored.toList = bytes.take limit

variable {sink : Sink} {limit : Nat}

/-- A limited sink that is empty holds what has been written to it, which is nothing. -/
theorem Holds.empty (limit : Nat) : Holds { capacity := some limit } limit (written []) where
  capacity_eq := rfl
  stored_eq := by simp

/-- Of more bytes, those up to the limit are stored, and all are taken if they end within it. -/
theorem Holds.write {bytes more : List UInt8} (holds : sink.Holds limit bytes)
    (notNil : more ≠ []) :
    (sink.write more).1.Holds limit (bytes ++ more) ∧
      (sink.write more).2 = decide ((bytes ++ more).length ≤ limit) := by
  have size : sink.stored.size = min limit bytes.length := by
    rw [← Array.length_toList, holds.stored_eq, List.length_take]
  have some : 0 < more.length := List.length_pos_iff.2 notNil
  have room : limit - min limit bytes.length = limit - bytes.length := by omega
  simp only [Sink.write, holds.capacity_eq]
  refine ⟨⟨rfl, ?_⟩, ?_⟩
  · rw [size, room, List.take_append, ← holds.stored_eq]
    simp
  · rw [size, List.length_append, decide_eq_decide]
    omega

/-- A line is taken if its newline lies within the limit; what fits of it is stored either way. -/
theorem Holds.deliver {before : List (Text × Location)} (holds : sink.Holds limit (written before))
    (call : Text × Location) :
    (Handler.echo.deliver sink call.1 call.2).1.Holds limit (written (before ++ [call])) ∧
      (Handler.echo.deliver sink call.1 call.2).2 =
        if limit < (written (before ++ [call])).length then some full else none := by
  obtain ⟨stores, takes⟩ := holds.write (written_singleton_ne_nil call)
  rw [← written_append] at stores takes
  have line : Utf8.encode (call.1 ++ ['\n']) = written [call] := by simp [written]
  simp only [Handler.echo, line]
  refine ⟨stores, ?_⟩
  rw [takes]
  by_cases beyond : limit < (written (before ++ [call])).length
  · rw [if_pos beyond, decide_eq_false (Nat.not_le.2 beyond)]
    rfl
  · rw [if_neg beyond, decide_eq_true (Nat.not_lt.1 beyond)]
    rfl

/-- So a sink holds what has been written to it after any number of lines. -/
theorem Holds.after {before : List (Text × Location)} (holds : sink.Holds limit (written before))
    (calls : List (Text × Location)) :
    (Handler.echo.after sink calls).Holds limit (written (before ++ calls)) := by
  induction calls generalizing sink before with
  | nil =>
    rw [List.append_nil]
    exact holds
  | cons call rest ih =>
    have onward := ih (holds.deliver call).1
    rw [List.append_assoc] at onward
    exact onward

/-- Of lines that are written after others, the first `taken` end within the limit, and the newlines
of the others lie beyond it. -/
structure Overflow (limit : Nat) (before calls : List (Text × Location)) (taken : Nat) : Prop where
  le_length : taken ≤ calls.length
  beyond_iff : ∀ index < calls.length,
    taken ≤ index ↔ limit < (written (before ++ calls.take (index + 1))).length

/-- Those that end within the limit are taken, and the others are refused. A line that lies beyond
the limit pushes all that come after it there, too. -/
theorem Holds.answers {before : List (Text × Location)} (holds : sink.Holds limit (written before))
    (calls : List (Text × Location)) :
    ∃ taken, Overflow limit before calls taken ∧
      Handler.echo.answers sink calls =
        List.replicate taken none ++ List.replicate (calls.length - taken) (some full) := by
  induction calls generalizing sink before with
  | nil => exact ⟨0, ⟨Nat.le_refl 0, by simp⟩, rfl⟩
  | cons call rest ih =>
    obtain ⟨stores, answer⟩ := holds.deliver call
    obtain ⟨taken, overflow, others⟩ := ih stores
    have further (index : Nat) : before ++ (call :: rest).take (index + 1) =
        before ++ [call] ++ rest.take index := by simp
    by_cases beyond : limit < (written (before ++ [call])).length
    · have none : taken = 0 := by
        by_contra some
        have atFirst : 0 < rest.length := Nat.lt_of_lt_of_le (Nat.pos_of_ne_zero some)
          overflow.le_length
        have within := (overflow.beyond_iff 0 atFirst).not.1 (by omega)
        rw [written_append, List.length_append] at within
        omega
      subst none
      refine ⟨0, ⟨Nat.zero_le _, fun index _ => ?_⟩, ?_⟩
      · rw [further, written_append, List.length_append]
        omega
      · rw [Handler.answers_cons, answer, if_pos beyond, others]
        rfl
    · refine ⟨taken + 1, ⟨Nat.succ_le_succ overflow.le_length, fun index inside => ?_⟩, ?_⟩
      · rw [further]
        cases index with
        | zero => simpa using beyond
        | succ index =>
          rw [Nat.add_le_add_iff_right]
          exact overflow.beyond_iff index (by simpa using inside)
      · rw [Handler.answers_cons, answer, if_neg beyond, others]
        simp [List.replicate_succ]

end Sink

/-- Writing to a sink does not change how much it takes. -/
theorem Handler.capacity_after (sink : Sink) (calls : List (Text × Location)) :
    (echo.after sink calls).capacity = sink.capacity := by
  induction calls generalizing sink with
  | nil => rfl
  | cons call rest ih =>
    refine (ih (echo.deliver sink call.1 call.2).1).trans ?_
    cases sized : sink.capacity <;> simp [echo, Sink.write, sized]

/-- A parse whose handler refuses nothing leaves no refusals. -/
theorem Handler.TakesAll.filter_problems_parse {σ : Type} {handler : Handler σ} {state : σ}
    (takes : handler.TakesAll state) (snapshot : Snapshot) (settings : Settings) (homes : Homes)
    (root : Path) :
    (parse snapshot settings handler homes root state).problems.toList.filter
        (·.kind ≠ .refused) =
      (parse snapshot settings handler homes root state).problems.toList := by
  have none : (parse snapshot settings handler homes root state).problems.toList.filter
      (·.kind = .refused) = [] := by
    rw [filter_problems_parse_eq_refused, takes]
  rw [List.filter_eq_nil_iff] at none
  exact List.filter_eq_self.2 fun problem isIn => by simpa using none problem isIn

/-! ## Calls in the course of uses -/

namespace Session

section

variable {σ τ : Type} (handler : Handler σ)

/-- The calls of later uses come after those of earlier ones. -/
theorem given_append (session : Session σ) (first rest : List Use) :
    session.given handler (first ++ rest) =
      session.given handler first ++ (session.used handler first).given handler rest := by
  obtain ⟨calls, -, logged⟩ := exists_calls_used handler session first
  obtain ⟨more, -, logged'⟩ := exists_calls_used handler (session.used handler first) rest
  simp only [given, used_append, logged, logged']
  rfl

/-- What is called is a matter of the settings, and not of the handler. -/
theorem given_congr (partner : Handler τ) {session : Session σ} {other : Session τ}
    (same : session.settings = other.settings) (uses : List Use) :
    session.given handler uses = other.given partner uses := by
  induction uses generalizing session other with
  | nil => rfl
  | cons use rest ih =>
    have now : session.given handler [use] = other.given partner [use] := by
      cases use with
      | parse snapshot homes root =>
        simp only [given, used_cons, used_nil, perform, parse, after, withLog, state_parse,
          Handler.after_logged, same]
      | _ => rfl
    have settings : (session.used handler [use]).settings =
        (other.used partner [use]).settings := by
      rw [settings_used, settings_used, same]
    rw [← List.singleton_append, given_append, given_append, now, ih settings]

/-- The answers that the handler gives in a number of uses, one for each call. -/
def answers (session : Session σ) (uses : List Use) : List (Option Refusal) :=
  ((⟨session.settings, (session.state, []), session.tally⟩ : Session _).used handler.audited
    uses).state.2

/-- They are those to the calls that it is given. -/
theorem answers_eq (session : Session σ) (uses : List Use) :
    session.answers handler uses =
      handler.answers session.state (session.given handler uses) := by
  let audited : Session (σ × List (Option Refusal)) :=
    ⟨session.settings, (session.state, []), session.tally⟩
  have same : audited.given handler.audited uses = session.given handler uses :=
    given_congr handler.audited handler rfl uses
  rw [answers, state_used, same, Handler.after_audited]
  rfl

end

/-! ## Limited sessions -/

/-- A parser that writes what it delivers to an empty sink of limited size. -/
def limited (limit : Nat) (settings : Settings) : Session Sink :=
  ofSettings settings { capacity := some limit }

/-- A parser that writes what it delivers to an empty sink without a limit. -/
def unlimited (settings : Settings) : Session Sink :=
  ofSettings settings {}

section

variable (limit : Nat) (settings : Settings) (uses : List Use)

/-- The sink holds what has been written to it in the uses so far. -/
theorem holds_limited :
    ((limited limit settings).used Handler.echo uses).state.Holds limit
      (Sink.written ((limited limit settings).given Handler.echo uses)) := by
  rw [state_used, limited, state_ofSettings]
  exact (Sink.Holds.empty limit).after _

/-- An unlimited sink stays unlimited. -/
theorem capacity_unlimited :
    ((unlimited settings).used Handler.echo uses).state.capacity = none := by
  rw [state_used, Handler.capacity_after, unlimited, state_ofSettings]

/-- What a limit comes to when a parser is used in any way. -/
structure Throttled : Prop where
  /-- The sink holds the beginning of all lines that have been handed over, each with a newline. -/
  stored_eq : ((limited limit settings).used Handler.echo uses).state.stored.toList =
    (Sink.written ((limited limit settings).given Handler.echo uses)).take limit
  /-- It did so after each of the lines, in the middle of a parse as well. -/
  stored_after : ∀ count,
    let calls := ((limited limit settings).given Handler.echo uses).take count
    (Handler.echo.after (limited limit settings).state calls).stored.toList =
      (Sink.written calls).take limit
  /-- The lines that have been refused are those whose newline lies beyond the limit. They are the
  last ones. -/
  answers_eq : ∃ taken,
    Sink.Overflow limit [] ((limited limit settings).given Handler.echo uses) taken ∧
    (limited limit settings).answers Handler.echo uses = List.replicate taken none ++
      List.replicate (((limited limit settings).given Handler.echo uses).length - taken)
        (some Sink.full)
  /-- A line that is handed over next is refused if its newline lies beyond the limit. -/
  fed : ∀ line location,
    (((limited limit settings).used Handler.echo uses).perform Handler.echo
      (.feed line location)).2 =
    .fed (if limit < (Sink.written ((limited limit settings).given Handler.echo uses ++
      [(line, location)])).length then some Sink.full else none)
  /-- A parse that comes next is that of a parser without a limit, with the same calls and counters
  and the same problems in the same order. On top come refusals of the lines whose newline lies
  beyond the limit, one each at its location, in order. -/
  parsed : ∀ snapshot homes root,
    let session := (limited limit settings).used Handler.echo uses
    let free := (unlimited settings).used Handler.echo uses
    let parse : Use := .parse snapshot homes root
    let calls := session.given Handler.echo [parse]
    ∃ progress progress', (session.perform Handler.echo parse).2 = .parsed progress ∧
      (free.perform Handler.echo parse).2 = .parsed progress' ∧
      calls = free.given Handler.echo [parse] ∧ progress.tally = progress'.tally ∧
      progress.problems.toList.filter (·.kind ≠ .refused) = progress'.problems.toList ∧
      ∃ taken, Sink.Overflow limit ((limited limit settings).given Handler.echo uses) calls taken ∧
        progress.problems.toList.filter (·.kind = .refused) =
          (calls.drop taken).map fun call => .refused call.2 Sink.full

end

/-- The parse of a session gives its handler the calls of the parse itself. -/
theorem given_parse {σ : Type} (handler : Handler σ) (session : Session σ) (snapshot : Snapshot)
    (homes : Homes) (root : Path) :
    session.given handler [.parse snapshot homes root] =
      calls snapshot session.settings handler homes root session.state := rfl

/-- A limit on what a sink takes cuts off what is written to it, and nothing else. However a parser
has been used, by parses and by handing over lines, the sink holds the beginning of all lines that
have been handed over, up to the limit; the lines that end beyond it have been refused, and no
others; and a parse is the same as with an unlimited sink but for the refusals of those lines. -/
theorem throttled (limit : Nat) (settings : Settings) (uses : List Use) :
    Throttled limit settings uses := by
  have holds := holds_limited limit settings uses
  constructor
  · exact holds.stored_eq
  · intro count calls
    rw [limited, state_ofSettings]
    exact ((Sink.Holds.empty limit).after calls).stored_eq
  · rw [Session.answers_eq, limited, state_ofSettings]
    exact (Sink.Holds.empty limit).answers _
  · intro line location
    exact congrArg Answer.fed (holds.deliver (line, location)).2
  · intro snapshot homes root session free parse calls
    have sameSettings : session.settings = free.settings := by
      rw [settings_used, settings_used, limited, unlimited, settings_ofSettings,
        settings_ofSettings]
    have sameCalls : calls = free.given Handler.echo [parse] := given_congr _ _ sameSettings _
    let progress := Splice.parse snapshot session.settings Handler.echo homes root session.state
    let progress' := Splice.parse snapshot free.settings Handler.echo homes root free.state
    have takes := Handler.echo_takesAll (capacity_unlimited settings uses)
    obtain ⟨taken, overflow, answers⟩ := holds.answers calls
    refine ⟨progress, progress', rfl, rfl, sameCalls, ?_, ?_, taken, overflow, ?_⟩
    · rw [tally_parse, tally_parse, sameSettings]
    · rw [← takes.filter_problems_parse snapshot free.settings homes root,
        filter_problems_parse_ne_refused, filter_problems_parse_ne_refused, sameSettings]
    · rw [filter_problems_parse_eq_refused, ← given_parse]
      exact Handler.refusals_of_answers Handler.echo answers

end Session

end Splice
