import Splice.Report
import Splice.Proofs.Independence
import Splice.Proofs.Text.Split
import Splice.Proofs.Text.Strip

/-!
# Reports

How a report lists problems (`report_line_by_line`). Each problem has a line of its own, in order;
the line is the message, character for character, for every problem that another one comes after.
The last message loses the white space that it ends in, as the end of a report is trimmed as a whole
(`blank_end_lost`). So a report gives its messages back if, and only if, the last one ends in no
white space; and which messages do is read off what they end in (`Problem.endsBlank_message_iff`).
What a command writes of the problems of a parse is such a report and a newline, or nothing where
there are none (`Report.IsReport`).
-/

namespace Splice

/-! ## White space at the end -/

namespace Text

/-- A number ends in a digit. -/
theorem not_endsBlank_decimal (number : Nat) : ¬ EndsBlank (decimal number) := by
  rintro ⟨c, isLast, blank⟩
  have digit : c.isDigit = true := isDigit_of_mem_decimal (List.mem_of_getLast? isLast)
  simp only [Char.isDigit, ge_iff_le, Bool.and_eq_true, decide_eq_true_eq,
    UInt32.le_iff_toNat_le] at digit
  have range : 48 ≤ c.toNat ∧ c.toNat ≤ 57 := digit
  simp only [isBlank, Bool.or_eq_true, Bool.and_eq_true, decide_eq_true_eq, beq_iff_eq] at blank
  omega

end Text

/-! ## Messages -/

namespace Problem

/-- What the message of a problem ends in: its cause, or what it quotes or points at. -/
def ending : Problem → Text
  | .unexpanded _ _ cause => cause.message
  | .loop _ _ link => link.display
  | .unopened _ _ cause => cause.message
  | .nameless location => Text.quoted (location.content.getD [])
  | .refused _ cause => cause.message
  | .unreadable _ cause => cause.message

/-- A colon and a space come before that. -/
theorem exists_message_eq (problem : Problem) :
    ∃ opening, problem.message = opening ++ ": ".toList ++ problem.ending := by
  cases problem with
  | unexpanded note name cause =>
    exact ⟨note ++ ": couldn't expand '".toList ++ name ++ ['\''], by simp [message, ending]⟩
  | loop note path link =>
    exact ⟨note ++ ": loop found: '".toList ++ path.text ++ "' has been visited before".toList, by
      simp [message, ending]⟩
  | unopened note path cause =>
    exact ⟨note ++ ": couldn't open '".toList ++ path.text ++ ['\''], by simp [message, ending]⟩
  | nameless location =>
    exact ⟨atLine location ++ "missing include file name".toList, by simp [message, ending]⟩
  | refused location cause =>
    exact ⟨location.note ++ ": ".toList ++ location.display, by simp [message, ending, atLine]⟩
  | unreadable location cause =>
    exact ⟨atLine location ++ "read failed".toList, by simp [message, ending]⟩

/-- A message is not all white space. -/
theorem colon_mem_message (problem : Problem) : ':' ∈ problem.message := by
  obtain ⟨opening, message⟩ := problem.exists_message_eq
  simp [message]

/-- A message ends in white space if what it ends in does, or is missing. -/
theorem endsBlank_message_iff {problem : Problem} :
    problem.message.EndsBlank ↔ problem.ending = [] ∨ problem.ending.EndsBlank := by
  obtain ⟨opening, message⟩ := problem.exists_message_eq
  rw [message]
  by_cases none : problem.ending = []
  · have space : (opening ++ ": ".toList).EndsBlank := ⟨' ', by simp, by decide⟩
    simpa [none] using space
  · rw [Text.endsBlank_append _ none]
    simp [none]

/-- A directive that names no file, or one that closes a loop, makes for a message that does not. -/
theorem not_endsBlank_message {problem : Problem}
    (kind : problem.kind = .nameless ∨ problem.kind = .loop) : ¬ problem.message.EndsBlank := by
  rw [endsBlank_message_iff, not_or]
  cases problem with
  | nameless location =>
    have quote : ¬ (Text.quoted (location.content.getD [])).EndsBlank := by
      rw [Text.quoted, Text.endsBlank_concat]
      decide
    exact ⟨by simp [ending, Text.quoted], quote⟩
  | loop note path link =>
    have digits : Text.decimal link.line ≠ [] := by simp [Text.decimal]
    refine ⟨by simp [ending, Link.display], ?_⟩
    rw [ending, Link.display, List.append_cons, Text.endsBlank_append _ digits]
    exact Text.not_endsBlank_decimal link.line
  | _ => simp [Problem.kind] at kind

end Problem

/-- What the operating system says ends in a bracket. -/
theorem Fault.not_endsBlank_system (code : Nat) : ¬ (Fault.system code).message.EndsBlank := by
  rw [message, Text.endsBlank_concat]
  decide

/-! ## Reports -/

namespace Report

/-- The messages of problems, each with a newline. -/
def ended (listed : List Problem) : Text :=
  listed.flatMap fun problem => problem.message ++ ['\n']

/-- A single problem is reported without the white space at its end. -/
theorem problems_singleton (problem : Problem) :
    problems [problem] = Text.trimEnd problem.message := by
  rw [problems, List.flatMap_singleton]
  exact Text.trimEnd_concat (by decide)

/-- Problems that others come after are reported in full. -/
theorem problems_append (first : List Problem) {rest : List Problem} (notNil : rest ≠ []) :
    problems (first ++ rest) = ended first ++ problems rest := by
  obtain ⟨problem, more, rfl⟩ := List.exists_cons_of_ne_nil notNil
  have isIn : ':' ∈ ended (problem :: more) := by
    simp [ended, problem.colon_mem_message]
  rw [problems, List.flatMap_append]
  exact Text.trimEnd_append (ended first) isIn (by decide)

/-- What is written of the problems of a parse: nothing where there are none, and otherwise their
messages, one a line, of which the last is without the white space that it ends in. -/
inductive IsReport : List Problem → Text → Prop where
  | none : IsReport [] []
  | some (first : List Problem) (last : Problem) :
      IsReport (first ++ [last]) (ended first ++ (last.message.trimEnd ++ ['\n']))

/-- What the command writes is that. -/
theorem isReport_problems (listed : List Problem) :
    IsReport listed (if listed = [] then [] else problems listed ++ ['\n']) := by
  obtain rfl | ⟨first, last, rfl⟩ := List.eq_nil_or_concat' listed
  · exact .none
  · have some : first ++ [last] ≠ [] := List.append_ne_nil_of_right_ne_nil first nofun
    rw [if_neg some, problems_append first (List.cons_ne_nil _ _), problems_singleton,
      List.append_assoc]
    exact .some first last

/-- Messages in one line each are divided at the newlines that have been added. -/
theorem split_ended {first : List Problem}
    (free : ∀ problem ∈ first, '\n' ∉ problem.message) (rest : Text) :
    Text.split '\n' (ended first ++ rest) =
      first.map Problem.message ++ Text.split '\n' rest := by
  induction first with
  | nil => rfl
  | cons problem more ih =>
    rw [List.forall_mem_cons] at free
    have divided := Text.split_append free.1 (ended more ++ rest)
    rw [ih free.2] at divided
    simpa [ended] using divided

/-- How the report of some problems and a last one lists them. -/
structure Lists (first : List Problem) (last : Problem) : Prop where
  /-- There is a line for each problem, in order: the message, but for white space at the end of the
  last. -/
  lines_eq : Text.split '\n' (problems (first ++ [last])) =
    first.map Problem.message ++ [last.message.trimEnd]
  /-- So the messages are given back unless the last one ends in white space. -/
  exact_iff : Text.split '\n' (problems (first ++ [last])) = (first ++ [last]).map Problem.message ↔
    ¬ last.message.EndsBlank
  /-- Where more problems come, the last one has its message for a line as well, and what comes is
  listed as it is alone. -/
  followed : ∀ more ≠ [], Text.split '\n' (problems (first ++ [last] ++ more)) =
    (first ++ [last]).map Problem.message ++ Text.split '\n' (problems more)
  /-- So the report is that of the problems so far, a newline, and that of the others, unless the
  last one ends in white space. -/
  joined_iff : ∀ more ≠ [], problems (first ++ [last] ++ more) =
    problems (first ++ [last]) ++ '\n' :: problems more ↔ ¬ last.message.EndsBlank

end Report

/-- A report lists problems one a line. If no message holds a newline, the lines of the report are
the messages, in order, except that the last one is without the white space that it ends in. Whether
there is any to lose is a matter of the cause that the message ends in. There is none in a report of
no problems. -/
theorem report_line_by_line (first : List Problem) (last : Problem)
    (free : ∀ problem ∈ first ++ [last], '\n' ∉ problem.message) :
    Report.Lists first last ∧ Report.problems [] = [] ∧
      (last.message.EndsBlank ↔ last.ending = [] ∨ last.ending.EndsBlank) := by
  refine ⟨?_, rfl, Problem.endsBlank_message_iff⟩
  rw [List.forall_mem_append, List.forall_mem_singleton] at free
  obtain ⟨free, freeLast⟩ := free
  have report : Report.problems (first ++ [last]) =
      Report.ended first ++ last.message.trimEnd := by
    rw [Report.problems_append first (List.cons_ne_nil _ _), Report.problems_singleton]
  have freeEnd : '\n' ∉ last.message.trimEnd := fun isIn =>
    freeLast ((Text.trimEnd_isPrefix last.message).mem isIn)
  have lines : Text.split '\n' (Report.problems (first ++ [last])) =
      first.map Problem.message ++ [last.message.trimEnd] := by
    rw [report, Report.split_ended free, Text.split_of_notMem freeEnd]
  have whole : Report.ended (first ++ [last]) = Report.ended first ++ last.message ++ ['\n'] := by
    simp [Report.ended]
  constructor
  · exact lines
  · rw [lines, List.map_append, List.append_cancel_left_eq, ← Text.trimEnd_eq_self_iff]
    simp
  · intro more notNil
    rw [Report.problems_append _ notNil, Report.split_ended]
    simpa [or_imp, forall_and] using ⟨free, freeLast⟩
  · intro more notNil
    rw [Report.problems_append _ notNil, whole, report, ← Text.trimEnd_eq_self_iff]
    simp [List.append_assoc, eq_comm]

/-- A line that has been refused for a cause that ends in a space. -/
def spacedRefusal : Problem :=
  .refused { source := ⟨"a.conf".toList⟩, line := 1, note := "config".toList }
    { message := "bad ".toList }

/-- Its report is not its message. Reported twice, it is given in full once. -/
theorem blank_end_lost :
    '\n' ∉ spacedRefusal.message ∧
      Text.split '\n' (Report.problems [spacedRefusal]) ≠ [spacedRefusal.message] ∧
      Text.split '\n' (Report.problems [spacedRefusal, spacedRefusal]) =
        ["config: a.conf:1: bad ".toList, "config: a.conf:1: bad".toList] := by
  refine ⟨?_, ?_, ?_⟩ <;> decide

/-- What is left out of a report of both is the last space. -/
theorem spaced_listed :
    (∀ problem ∈ [spacedRefusal] ++ [spacedRefusal], '\n' ∉ problem.message) ∧
      Report.Lists [spacedRefusal] spacedRefusal ∧ spacedRefusal.message.EndsBlank := by
  have free : ∀ problem ∈ [spacedRefusal] ++ [spacedRefusal], '\n' ∉ problem.message := by decide
  exact ⟨free, (report_line_by_line [spacedRefusal] spacedRefusal free).1, ' ', rfl, rfl⟩

end Splice
