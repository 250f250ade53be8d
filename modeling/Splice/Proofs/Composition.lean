import Splice.Observation
import Splice.Proofs.Reporting
import Splice.Proofs.Stepping
import Splice.Proofs.Summaries

/-!
# Composition

A run over a list of files is made up of its runs over the files. Of two lists put together,
standard output is that of the one and then that of the other; so is standard error, but for the
verdict at its end; and the verdict counts the files whose own runs fail (`run_compositional`).
Nothing is carried from one file to the next, and no file stops the run.

What is said of a file is what its parse comes to (`Tells`): what is shown of the log, the messages
of the problems one a line, and the line with the counters if it is asked for.

What comes before the files can stop it: where there is no configuration, or a search has no
directory to start from or a pattern that is wrong, the run says so and ends, and nothing but the
file with the presets has any part in that (`Stopped`).

The user may ask for more of the log. What is said about a request that cannot be read comes first,
once a run; what is shown of the log of a file belongs to the account of that file.
-/

namespace Splice

/-! ## The last line of a text -/

namespace Text

/-- A text of whole lines: empty, or ended by a newline. -/
def Whole (text : Text) : Prop :=
  text = [] ∨ text.getLast? = some '\n'

/-- The last line of a text of whole lines. -/
def lastLine (text : Text) : Text :=
  (text.dropLast.reverse.takeWhile (· ≠ '\n')).reverse

/-- A text of whole lines without its last line. -/
def beforeLastLine (text : Text) : Text :=
  (text.dropLast.reverse.dropWhile (· ≠ '\n')).reverse

theorem Whole.nil : Whole [] := .inl rfl

/-- A newline makes a line whole. -/
theorem Whole.concat (text : Text) : Whole (text ++ ['\n']) := by
  right
  simp

/-- Whole lines and more whole lines. -/
theorem Whole.append {first rest : Text} (one : first.Whole) (two : rest.Whole) :
    (first ++ rest).Whole := by
  obtain rfl | ended := two
  · simpa using one
  · right
    rw [List.getLast?_append, ended]
    rfl

/-- Whole lines, item by item. -/
theorem Whole.flatMap {α : Type} {items : List α} {text : α → Text}
    (each : ∀ item ∈ items, Whole (text item)) : Whole (items.flatMap text) := by
  induction items with
  | nil => exact .nil
  | cons item rest ih =>
    rw [List.forall_mem_cons] at each
    exact each.1.append (ih each.2)

section

variable {body line : Text}

/-- Read from the back, whole lines begin with a newline. -/
theorem Whole.reverse_cases (whole : body.Whole) :
    body.reverse = [] ∨ ∃ rest, body.reverse = '\n' :: rest := by
  obtain rfl | ended := whole
  · exact .inl rfl
  · rw [← List.head?_reverse] at ended
    exact .inr (List.head?_eq_some_iff.1 ended)

/-- Read from the back, a line without a newline is read to its start. -/
theorem forall_reverse_ne (free : '\n' ∉ line) :
    ∀ c ∈ line.reverse, decide (c ≠ '\n') = true := by
  intro c isIn
  have notNewline : c ≠ '\n' := fun same => free (same ▸ List.mem_reverse.1 isIn)
  exact decide_eq_true notNewline

/-- Without its final newline and read from the back, a text starts with its last line. -/
theorem reverse_dropLast (body line : Text) :
    (body ++ (line ++ ['\n'])).dropLast.reverse = line.reverse ++ body.reverse := by
  rw [← List.append_assoc, List.dropLast_concat, List.reverse_append]

/-- A line after whole lines is their last. -/
theorem lastLine_append (whole : body.Whole) (free : '\n' ∉ line) :
    lastLine (body ++ (line ++ ['\n'])) = line := by
  have stops : body.reverse.takeWhile (· ≠ '\n') = [] := by
    obtain empty | ⟨rest, shape⟩ := whole.reverse_cases
    · rw [empty]
      rfl
    · rw [shape]
      rfl
  rw [lastLine, reverse_dropLast, List.takeWhile_append_of_pos (forall_reverse_ne free), stops,
    List.append_nil, List.reverse_reverse]

/-- The whole lines are what stands before it. -/
theorem beforeLastLine_append (whole : body.Whole) (free : '\n' ∉ line) :
    beforeLastLine (body ++ (line ++ ['\n'])) = body := by
  have stays : body.reverse.dropWhile (· ≠ '\n') = body.reverse := by
    obtain empty | ⟨rest, shape⟩ := whole.reverse_cases
    · rw [empty]
      rfl
    · rw [shape]
      rfl
  rw [beforeLastLine, reverse_dropLast, List.dropWhile_append_of_pos (forall_reverse_ne free),
    stays, List.reverse_reverse]

end

/-- No digit is a newline. -/
theorem newline_notMem_decimal (number : Nat) : '\n' ∉ decimal number := by
  intro isIn
  exact absurd (isDigit_of_mem_decimal isIn) (by decide)

end Text

/-! ## Patterns that are wrong -/

namespace Discovery

/-- Where reading patterns fails, it is on account of one that is wrong. -/
theorem mem_of_readPatterns_eq_error {texts : List Text} {error : PatternError}
    (fails : readPatterns texts = .error error) :
    error.pattern ∈ texts ∧ Glob.parse error.pattern = .error error.kind := by
  induction texts with
  | nil => cases fails
  | cons head rest ih =>
    cases first : Glob.parse head with
    | error kind =>
      simp only [readPatterns, first] at fails
      obtain rfl := Except.error.inj fails
      exact ⟨.head _, first⟩
    | ok pattern =>
      cases others : readPatterns rest with
      | error error' =>
        simp only [readPatterns, first, others] at fails
        obtain rfl := Except.error.inj fails
        obtain ⟨among, why⟩ := ih others
        exact ⟨.tail _ among, why⟩
      | ok patterns => simp only [readPatterns, first, others, reduceCtorEq] at fails

/-- Where it does not, each can be read. -/
theorem parse_ne_error_of_readPatterns {texts : List Text} {patterns : List Glob.Pattern}
    (reads : readPatterns texts = .ok patterns) {text : Text} (isIn : text ∈ texts)
    (kind : Glob.ErrorKind) : Glob.parse text ≠ .error kind := by
  induction texts generalizing patterns with
  | nil => cases isIn
  | cons head rest ih =>
    cases first : Glob.parse head with
    | error kind => simp only [readPatterns, first, reduceCtorEq] at reads
    | ok pattern =>
      cases others : readPatterns rest with
      | error error => simp only [readPatterns, first, others, reduceCtorEq] at reads
      | ok patterns' =>
        obtain rfl | inRest := List.mem_cons.1 isIn
        · rw [first]
          exact nofun
        · exact ih others inRest

/-- Where a pattern of either kind is wrong, there is no search, on account of one that is. -/
theorem ofTexts_eq_error (root : Path) {included excluded : List Text} {text : Text}
    {kind : Glob.ErrorKind} (isIn : text ∈ included ++ excluded)
    (wrong : Glob.parse text = .error kind) :
    ∃ error : PatternError, ofTexts root included excluded = .error error ∧
      error.pattern ∈ included ++ excluded ∧ Glob.parse error.pattern = .error error.kind := by
  cases reads : readPatterns included with
  | error error =>
    obtain ⟨among, why⟩ := mem_of_readPatterns_eq_error reads
    exact ⟨error, by simp only [ofTexts, reads], List.mem_append_left _ among, why⟩
  | ok patterns =>
    cases reads' : readPatterns excluded with
    | error error =>
      obtain ⟨among, why⟩ := mem_of_readPatterns_eq_error reads'
      exact ⟨error, by simp only [ofTexts, reads, reads'], List.mem_append_right _ among, why⟩
    | ok patterns' =>
      obtain inOne | inOther := List.mem_append.1 isIn
      · exact absurd wrong (parse_ne_error_of_readPatterns reads inOne kind)
      · exact absurd wrong (parse_ne_error_of_readPatterns reads' inOther kind)

end Discovery

/-- What a run says of its files: what it writes to standard error, less the verdict in which it
ends when it fails. -/
def Outcome.said (outcome : Outcome) : Text :=
  if outcome.status = 0 then outcome.errors else outcome.errors.beforeLastLine

namespace Command

/-! ## The account of a file -/

/-- What a run says before anything else: which wishes about the log it cannot read. -/
def complaints (surroundings : Surroundings) : Text :=
  (logFilter surroundings).2.flatMap fun complaint =>
    "warning: ".toList ++ complaint ++ ", ignoring it\n".toList

/-- What is said of a parse: what is shown of its log, then its problems if there are any, then its
counters if they are asked for. -/
def accountOf {σ : Type} (filter : Log.Filter) (configuration : Configuration) (file : Path)
    (progress : Progress σ) : Text :=
  let problems := progress.problems.toList
  filter.lines (progress.trace.toList.map entryOf)
    ++ (if problems = [] then [] else Report.problems problems ++ ['\n'])
    ++ if configuration.showStats then Report.summary file progress.tally ++ ['\n'] else []

/-- What is said of a file. -/
def account (surroundings : Surroundings) (configuration : Configuration) (file : Path) : Text :=
  let filter := (logFilter surroundings).1
  let snapshot := surroundings.snapshot
  let homes := surroundings.homes
  if configuration.checkOnly then
    accountOf filter configuration file
      (parse snapshot configuration.settings Handler.discard homes file ())
  else
    accountOf filter configuration file
      (parse snapshot configuration.settings Handler.echo homes file {})

/-- The text tells of the parse of a file what is shown of its log, then its problems, and then, if
they are asked for, its counters. -/
def Tells {σ : Type} (filter : Log.Filter) (configuration : Configuration) (file : Path)
    (progress : Progress σ) (text : Text) : Prop :=
  ∃ report counters,
    text = filter.lines (progress.trace.toList.map entryOf) ++ report ++ counters ∧
      Report.IsReport progress.problems.toList report ∧
      (configuration.showStats = false → counters = []) ∧
      (configuration.showStats = true →
        ∃ line, Report.IsSummary file progress.tally line ∧ counters = line ++ ['\n'])

theorem tells_accountOf {σ : Type} (filter : Log.Filter) (configuration : Configuration)
    (file : Path) (progress : Progress σ) :
    Tells filter configuration file progress (accountOf filter configuration file progress) := by
  refine ⟨_, _, rfl, Report.isReport_problems progress.problems.toList, ?_, ?_⟩
  · intro unasked
    simp only [unasked, Bool.false_eq_true, ↓reduceIte]
  · intro asked
    exact ⟨_, Report.isSummary_summary file progress.tally, by simp only [asked, ↓reduceIte]⟩

section

variable (surroundings : Surroundings) (configuration : Configuration)

/-- Parsing a file says what its account is. -/
theorem parseFile_said (file : Path) :
    (parseFile surroundings (logFilter surroundings).1 configuration file).2.1 =
      account surroundings configuration file := by
  by_cases checked : configuration.checkOnly = true
  · simp only [parseFile, account, checked, ↓reduceIte]
    rfl
  · simp only [parseFile, account, checked]
    rfl

/-- A message in the log takes whole lines. -/
theorem whole_lines (filter : Log.Filter) (entries : List Log.Entry) :
    (filter.lines entries).Whole := by
  apply Text.Whole.flatMap
  intro entry _
  exact .concat _

theorem whole_accountOf {σ : Type} (filter : Log.Filter) (file : Path) (progress : Progress σ) :
    (accountOf filter configuration file progress).Whole := by
  apply Text.Whole.append
  · apply Text.Whole.append
    · exact whole_lines _ _
    · split
      · exact .nil
      · exact .concat _
  · split
    · exact .concat _
    · exact .nil

/-- An account takes whole lines. -/
theorem whole_account (file : Path) : (account surroundings configuration file).Whole := by
  unfold account
  split <;> exact whole_accountOf configuration _ file _

/-- So does what is said first. -/
theorem whole_complaints : (complaints surroundings).Whole := by
  apply Text.Whole.flatMap
  intro complaint _
  right
  rw [List.getLast?_append]
  rfl

/-- Of a parse the user does not ask about, nothing is shown of its log. -/
theorem lines_standard (steps : List Trace) :
    Log.Filter.standard.lines (steps.map entryOf) = [] := by
  have hidden : (steps.map entryOf).filter Log.Filter.standard.shows = [] := by
    rw [List.filter_eq_nil_iff]
    intro entry isIn
    obtain ⟨step, -, rfl⟩ := List.mem_map.1 isIn
    exact Bool.false_ne_true
  rw [Log.Filter.lines, hidden]
  rfl

/-! ## Files one after the other -/

/-- Whether a parse of the file has problems. -/
def fails (file : Path) : Bool :=
  (parseFile surroundings (logFilter surroundings).1 configuration file).2.2

/-- How many of the files have problems. -/
def failures (files : List Path) : Nat :=
  files.countP (fails surroundings configuration)

/-- What a file leaves on standard output. -/
def emitted (file : Path) : List UInt8 :=
  (parseFile surroundings (logFilter surroundings).1 configuration file).1

/-- Files are parsed one after the other, and those that fail are counted. -/
theorem parseFiles_eq (files : List Path) :
    parseFiles surroundings (logFilter surroundings).1 configuration files =
      { output := files.flatMap (emitted surroundings configuration)
        errors := files.flatMap (account surroundings configuration)
          ++ if failures surroundings configuration files = 0 then []
            else verdict (failures surroundings configuration files) files.length
        status := if failures surroundings configuration files = 0 then 0 else 1 } := by
  have failed : (files.map (parseFile surroundings (logFilter surroundings).1 configuration)).countP
      (fun result => result.2.2) = failures surroundings configuration files := by
    rw [List.countP_map]
    rfl
  have said : (files.map (parseFile surroundings (logFilter surroundings).1 configuration)).flatMap
      (fun result => result.2.1) = files.flatMap (account surroundings configuration) := by
    rw [List.flatMap_map]
    simp only [parseFile_said]
  have output :
      (files.map (parseFile surroundings (logFilter surroundings).1 configuration)).flatMap
        (fun result => result.1) = files.flatMap (emitted surroundings configuration) := by
    rw [List.flatMap_map]
    rfl
  simp only [parseFiles, failed, said, output]

end

/-- The verdict, without the end of the line. -/
def verdictLine (failed total : Nat) : Text :=
  Text.decimal failed ++ " of ".toList ++ Text.decimal total ++ " files had errors".toList

theorem verdict_eq (failed total : Nat) :
    verdict failed total = verdictLine failed total ++ ['\n'] := by
  rw [verdict, verdictLine, List.append_assoc (_ ++ _ ++ _)]
  rfl

/-- The verdict is one line. -/
theorem newline_notMem_verdictLine (failed total : Nat) : '\n' ∉ verdictLine failed total := by
  have words : '\n' ∉ " of ".toList := by decide
  have ending : '\n' ∉ " files had errors".toList := by decide
  simp only [verdictLine, List.mem_append, not_or]
  exact ⟨⟨⟨Text.newline_notMem_decimal failed, words⟩, Text.newline_notMem_decimal total⟩, ending⟩

/-- The words of a command line are accepted, for the options and with the files. -/
def Accepts (options : Options) (files : List Path) (words : List Text) : Prop :=
  Options.parse words = .ok { options with files := files }

/-- The words of a command line list the files that a run goes over, and it gets that far. -/
structure Lists (surroundings : Surroundings) (options : Options) (configuration : Configuration)
    (files : List Path) (words : List Text) : Prop where
  accepts : Accepts options files words
  resolved : Configuration.resolve (content surroundings.snapshot) surroundings.homes.own options =
    .ok configuration
  unsearched : options.glob = none
  listed : files ≠ []

section

variable {surroundings : Surroundings} {options : Options} {configuration : Configuration}
  {files : List Path} {words : List Text}

/-- A command line that is accepted is run, after the complaints. -/
theorem run_of_accepts (accepts : Accepts options files words) :
    run surroundings words =
      let outcome := runWith surroundings (logFilter surroundings).1 { options with files := files }
      { outcome with errors := complaints surroundings ++ outcome.errors } := by
  have accepted : Options.parse words = .ok { options with files := files } := accepts
  simp only [run, accepted]
  rfl

/-- What is said of all files, in order. -/
def accounts (surroundings : Surroundings) (configuration : Configuration) (files : List Path) :
    Text :=
  complaints surroundings ++ files.flatMap (account surroundings configuration)

theorem whole_accounts : (accounts surroundings configuration files).Whole :=
  (whole_complaints surroundings).append
    (.flatMap fun file _ => whole_account surroundings configuration file)

namespace Lists

/-- A run over files that are listed says what there is to say of each, and then its verdict. -/
theorem run_eq (lists : Lists surroundings options configuration files words) :
    run surroundings words =
      { output := files.flatMap (emitted surroundings configuration)
        errors := accounts surroundings configuration files
          ++ if failures surroundings configuration files = 0 then []
            else verdict (failures surroundings configuration files) files.length
        status := if failures surroundings configuration files = 0 then 0 else 1 } := by
  have found : filesFor surroundings { options with files := files } = .ok (files, []) := by
    simp only [filesFor, lists.unsearched]
  have resolved : Configuration.resolve (content surroundings.snapshot) surroundings.homes.own
      { options with files := files } = .ok configuration := lists.resolved
  rw [run_of_accepts lists.accepts]
  simp only [runWith, resolved, found, lists.listed, ↓reduceIte, parseFiles_eq, accounts,
    List.append_assoc]
  rfl

/-- It exits with success when none of its files fails. -/
theorem status_eq_zero_iff (lists : Lists surroundings options configuration files words) :
    (run surroundings words).status = 0 ↔ failures surroundings configuration files = 0 := by
  rw [lists.run_eq]
  by_cases none : failures surroundings configuration files = 0
  · simp only [none, ↓reduceIte]
  · simp only [none, ↓reduceIte, Nat.one_ne_zero]

/-- Apart from the verdict it says what there is to say of each file. -/
theorem said_eq (lists : Lists surroundings options configuration files words) :
    (run surroundings words).said = accounts surroundings configuration files := by
  rw [lists.run_eq, Outcome.said]
  by_cases none : failures surroundings configuration files = 0
  · simp only [none, ↓reduceIte, List.append_nil]
  · simp only [none, ↓reduceIte, Nat.one_ne_zero]
    rw [verdict_eq, Text.beforeLastLine_append whole_accounts (newline_notMem_verdictLine _ _)]

/-- When it fails, its last line counts the files that do. -/
theorem verdict_eq (lists : Lists surroundings options configuration files words)
    (failed : (run surroundings words).status ≠ 0) :
    (run surroundings words).status = 1 ∧
      (run surroundings words).errors.lastLine =
        verdictLine (failures surroundings configuration files) files.length := by
  have some : failures surroundings configuration files ≠ 0 := by
    intro none
    exact failed (lists.status_eq_zero_iff.2 none)
  rw [lists.run_eq]
  simp only [some, ↓reduceIte, true_and]
  rw [Command.verdict_eq, Text.lastLine_append whole_accounts (newline_notMem_verdictLine _ _)]

/-- The run over a single file fails when the file does. -/
theorem fails_iff {file : Path} (lists : Lists surroundings options configuration [file] words) :
    (run surroundings words).status ≠ 0 ↔ fails surroundings configuration file = true := by
  rw [ne_eq, lists.status_eq_zero_iff]
  cases failed : fails surroundings configuration file <;> simp [failures, failed]

end Lists

/-- How a run over two lists of files is made up of the runs over either. -/
structure Composed (surroundings : Surroundings) (configuration : Configuration)
    (first second : List Path) (one other whole : Outcome) (alone : Path → Outcome) : Prop where
  /-- Standard output is that of the one, then that of the other. -/
  output_eq : whole.output = one.output ++ other.output
  /-- Each run says what there is to say of each of its files, in order. -/
  said_one : one.said = accounts surroundings configuration first
  said_other : other.said = accounts surroundings configuration second
  said_whole : whole.said = accounts surroundings configuration (first ++ second)
  /-- Of a file that is only checked, what is said tells what its parse comes to when nothing is
  done with its lines. -/
  tells_checked : configuration.checkOnly = true → ∀ file,
    Tells (logFilter surroundings).1 configuration file
      (parse surroundings.snapshot configuration.settings Handler.discard surroundings.homes file
        ())
      (account surroundings configuration file)
  /-- Of a file that is printed, it tells what its parse comes to when its lines are printed. -/
  tells_printed : configuration.checkOnly = false → ∀ file,
    Tells (logFilter surroundings).1 configuration file
      (parse surroundings.snapshot configuration.settings Handler.echo surroundings.homes file {})
      (account surroundings configuration file)
  /-- So standard error is composed likewise, but for the complaints, which come once a run. -/
  said_append : complaints surroundings = [] → whole.said = one.said ++ other.said
  /-- Where the user asks for no log, there are no complaints, and no log is in any account. -/
  quiet : surroundings.logFilter = none → complaints surroundings = [] ∧
    ∀ steps : List Trace, (logFilter surroundings).1.lines (steps.map entryOf) = []
  /-- The run succeeds when both do. -/
  status_eq_zero_iff : whole.status = 0 ↔ one.status = 0 ∧ other.status = 0
  /-- Otherwise it counts the files whose own runs fail. -/
  verdict_eq : whole.status ≠ 0 → whole.status = 1 ∧
    whole.errors.lastLine = verdictLine
      ((first ++ second).countP fun file => decide ((alone file).status ≠ 0))
      (first.length + second.length)

/-- Runs over two lists of files make up the run over both. -/
theorem Lists.composed {first second : List Path} {one other whole : List Text}
    {alone : Path → List Text}
    (first' : Lists surroundings options configuration first one)
    (second' : Lists surroundings options configuration second other)
    (both : Lists surroundings options configuration (first ++ second) whole)
    (each : ∀ file ∈ first ++ second,
      Lists surroundings options configuration [file] (alone file)) :
    Composed surroundings configuration first second (run surroundings one)
      (run surroundings other) (run surroundings whole)
      (fun file => run surroundings (alone file)) where
  output_eq := by
    rw [first'.run_eq, second'.run_eq, both.run_eq]
    exact List.flatMap_append
  said_one := first'.said_eq
  said_other := second'.said_eq
  said_whole := both.said_eq
  tells_checked := by
    intro checked file
    simp only [account, checked, ↓reduceIte]
    exact tells_accountOf _ configuration file _
  tells_printed := by
    intro printed file
    simp only [account, printed, Bool.false_eq_true, ↓reduceIte]
    exact tells_accountOf _ configuration file _
  said_append := by
    intro none
    rw [first'.said_eq, second'.said_eq, both.said_eq, accounts, accounts, accounts, none,
      List.flatMap_append, List.nil_append, List.nil_append, List.nil_append]
  quiet := by
    intro unset
    simp only [complaints, logFilter, unset]
    exact ⟨rfl, lines_standard⟩
  status_eq_zero_iff := by
    rw [first'.status_eq_zero_iff, second'.status_eq_zero_iff, both.status_eq_zero_iff, failures,
      List.countP_append, Nat.add_eq_zero_iff]
    rfl
  verdict_eq := by
    intro failed
    obtain ⟨status, last⟩ := both.verdict_eq failed
    refine ⟨status, ?_⟩
    have counted : failures surroundings configuration (first ++ second) =
        (first ++ second).countP
          fun file => decide ((run surroundings (alone file)).status ≠ 0) := by
      apply List.countP_congr
      intro file isIn
      rw [decide_eq_true_iff, (each file isIn).fails_iff]
    rw [last, counted, List.length_append]

end

/-! ## Runs that stop -/

/-- A run with the options says `message` and ends, whatever files are listed, and whatever there is
in the tree apart from the file with the presets. So it parses none. -/
def Stopped (surroundings : Surroundings) (options : Options) (message : Text) : Prop :=
  ∀ (files : List Path) (words : List Text) (snapshot : Snapshot) (walk : Path → List Finding),
    Accepts options files words →
    (∀ path, Configuration.presetsPath options surroundings.homes.own = .ok path →
      content snapshot path = content surroundings.snapshot path) →
    run { surroundings with snapshot := snapshot, walk := walk } words =
      { output := [], errors := complaints surroundings ++ (message ++ ['\n']), status := 1 }

section

variable {surroundings : Surroundings} {options : Options}

/-- The configuration is found with the file that holds the presets, and with nothing else. -/
theorem resolve_congr {one other : Path → Option (Except Fault (List UInt8))} {home : Option Path}
    (same : ∀ path, Configuration.presetsPath options home = .ok path → other path = one path) :
    Configuration.resolve other home options = Configuration.resolve one home options := by
  unfold Configuration.resolve
  cases found : Configuration.presetsPath options home with
  | error error => rfl
  | ok path => simp only [same path found]

/-- Without a configuration a run stops. -/
theorem stopped_of_resolve {error : ConfigurationError}
    (unresolved : Configuration.resolve (content surroundings.snapshot) surroundings.homes.own
      options = .error error) :
    Stopped surroundings options error.fullMessage := by
  intro files words snapshot walk accepts same
  have unresolved' : Configuration.resolve (content snapshot) surroundings.homes.own
      { options with files := files } = .error error :=
    (resolve_congr same).trans unresolved
  rw [run_of_accepts accepts]
  simp only [runWith, unresolved']
  rfl

/-- Without a current directory, or patterns that can be read, a run that is to search stops. -/
theorem stopped_of_search {configuration : Configuration} {error : SearchError}
    (resolved : Configuration.resolve (content surroundings.snapshot) surroundings.homes.own
      options = .ok configuration)
    (unlisted : ∀ snapshot walk files,
      filesFor { surroundings with snapshot := snapshot, walk := walk }
        { options with files := files } = .error error) :
    Stopped surroundings options error.fullMessage := by
  intro files words snapshot walk accepts same
  have resolved' : Configuration.resolve (content snapshot) surroundings.homes.own
      { options with files := files } = .ok configuration :=
    (resolve_congr same).trans resolved
  rw [run_of_accepts accepts]
  simp only [runWith, resolved', unlisted]
  rfl

end

/-- The command is made up of its runs over single files. Where it lists its files, and there is a
configuration, two lists put together are run like the one and then the other, and the verdict
counts the files whose own runs fail. Where there is no configuration, or it is to search without a
current directory or with a pattern that is wrong, it says so and fails, whatever files there
are. -/
theorem run_compositional (surroundings : Surroundings) (options : Options) :
    let resolved :=
      Configuration.resolve (content surroundings.snapshot) surroundings.homes.own options
    let excluded := options.exclude.getD []
    (∀ (configuration : Configuration) (first second : List Path) (one other whole : List Text)
        (alone : Path → List Text),
      resolved = .ok configuration → options.glob = none → first ≠ [] → second ≠ [] →
      Accepts options first one → Accepts options second other →
      Accepts options (first ++ second) whole →
      (∀ file ∈ first ++ second, Accepts options [file] (alone file)) →
      Composed surroundings configuration first second (run surroundings one)
        (run surroundings other) (run surroundings whole)
        (fun file => run surroundings (alone file))) ∧
    (∀ error, resolved = .error error → Stopped surroundings options error.fullMessage) ∧
    ∀ configuration patterns, resolved = .ok configuration → options.glob = some patterns →
      (∀ fault, surroundings.here = .error fault →
        Stopped surroundings options (SearchError.nowhere fault).fullMessage) ∧
      ∀ here, surroundings.here = .ok here →
        (∃ pattern ∈ patterns ++ excluded, ∃ kind, Glob.parse pattern = .error kind) →
        ∃ error : PatternError, error.pattern ∈ patterns ++ excluded ∧
          Glob.parse error.pattern = .error error.kind ∧
          Stopped surroundings options error.fullMessage := by
  intro resolved excluded
  refine ⟨?_, fun error unresolved => stopped_of_resolve unresolved, ?_⟩
  · intro configuration first second one other whole alone isOk unsearched some some'
      accepts accepts' both each
    have some'' : first ++ second ≠ [] := List.append_ne_nil_of_left_ne_nil some second
    exact Lists.composed ⟨accepts, isOk, unsearched, some⟩ ⟨accepts', isOk, unsearched, some'⟩
      ⟨both, isOk, unsearched, some''⟩
      (fun file isIn => ⟨each file isIn, isOk, unsearched, List.cons_ne_nil _ _⟩)
  · intro configuration patterns isOk searched
    refine ⟨fun fault nowhere => ?_, ?_⟩
    · exact stopped_of_search isOk fun _ _ _ => by simp only [filesFor, searched, nowhere]
    · rintro here somewhere ⟨pattern, isIn, kind, wrong⟩
      obtain ⟨error, fails, among, why⟩ := Discovery.ofTexts_eq_error here isIn wrong
      have fails' : Discovery.ofTexts here patterns (options.exclude.getD []) = .error error :=
        fails
      have stops : Stopped surroundings options (SearchError.pattern error).fullMessage :=
        stopped_of_search isOk fun _ _ _ => by simp only [filesFor, searched, somewhere, fails']
      exact ⟨error, among, why, stops⟩

/-- A tree of two files, one of which includes a file that is not there. -/
def lacking : Surroundings where
  snapshot := .ofObservations
    [⟨⟨"/a".toList⟩, some ⟨"/a".toList⟩, .ok (.ofBytes (Utf8.encode "#include b\nx\n".toList))⟩,
      ⟨⟨"/c".toList⟩, some ⟨"/c".toList⟩, .ok (.ofBytes (Utf8.encode "y\n".toList))⟩]
  homes := ⟨some ⟨"/h".toList⟩, .ok []⟩
  here := .ok ⟨"/".toList⟩
  walk _ := []

/-- One of two files fails, twice; and a preset that there is not and a wrong pattern stop any
run. -/
theorem run_lacking :
    let options : Options := { stats := true }
    let configuration := Configuration.combined options {}
    let a : Path := ⟨"/a".toList⟩
    let c : Path := ⟨"/c".toList⟩
    let stats := "--stats".toList
    let whole := [stats, a.text, c.text, a.text]
    let error : ConfigurationError := .unknownPreset "nope".toList
    let wrong : Text := "a[".toList
    (run lacking whole).errors.lastLine = "2 of 3 files had errors".toList ∧
      Composed lacking configuration [a] [c, a] (run lacking [stats, a.text])
        (run lacking [stats, c.text, a.text]) (run lacking whole)
        (fun file => run lacking [stats, file.text]) ∧
      Stopped lacking { preset := some "nope".toList } error.fullMessage ∧
      ∃ error : PatternError, error.pattern ∈ [wrong] ∧
        Glob.parse error.pattern = .error error.kind ∧
        Stopped lacking { glob := some [wrong] } error.fullMessage := by
  have problem : (parse lacking.snapshot {} Handler.echo lacking.homes ⟨"/a".toList⟩
      {}).problems.toList.length = 1 := by
    rw [(parses_doneWithin (n := 6) (by decide)).parse_eq]
    decide
  have noProblem : (parse lacking.snapshot {} Handler.echo lacking.homes ⟨"/c".toList⟩
      {}).problems.toList.length = 0 := by
    rw [(parses_doneWithin (n := 6) (by decide)).parse_eq]
    decide
  intro options configuration a c stats whole error wrong
  refine ⟨?_, ?_, ?_, ?_⟩
  · have lists : Lists lacking options configuration [a, c, a] whole :=
      ⟨rfl, rfl, rfl, List.cons_ne_nil _ _⟩
    have failing : fails lacking configuration a = true :=
      decide_eq_true (List.ne_nil_of_length_eq_add_one problem)
    have passing : fails lacking configuration c = false :=
      decide_eq_false (not_not_intro (List.eq_nil_of_length_eq_zero noProblem))
    have two : failures lacking configuration [a, c, a] = 2 := by
      simp [failures, failing, passing]
    have failed : (run lacking whole).status ≠ 0 := by
      rw [ne_eq, lists.status_eq_zero_iff, two]
      exact Nat.succ_ne_zero 1
    rw [(lists.verdict_eq failed).2, two]
    decide
  · have alone : ∀ file ∈ [a] ++ [c, a], Accepts options [file] [stats, file.text] := by
      intro file isIn
      simp only [List.cons_append, List.nil_append, List.mem_cons, List.not_mem_nil,
        or_false] at isIn
      obtain rfl | rfl | rfl := isIn <;> rfl
    exact (run_compositional lacking options).1 configuration [a] [c, a] _ _ whole _ rfl rfl
      (List.cons_ne_nil _ _) (List.cons_ne_nil _ _) rfl rfl rfl alone
  · exact (run_compositional lacking { preset := some "nope".toList }).2.1 error rfl
  · have unclosed : Glob.parse wrong = .error .unclosedClass := by with_unfolding_all rfl
    exact ((run_compositional lacking { glob := some [wrong] }).2.2 _ [wrong] rfl rfl).2 _ rfl
      ⟨wrong, .head _, .unclosedClass, unclosed⟩

end Command

end Splice
