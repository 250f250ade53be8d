import Splice.Proofs.CommandLine
import Splice.Proofs.Composition
import Splice.Proofs.Tracing

/-!
# Flags

To ask only for a check, or for counters, changes nothing but what is asked for (`flags_observe`).
With `--check`, nothing is printed, and standard error and the exit status are as they were. With
`--stats`, a line comes right after the report on each file, and all else is as it was. The line
gives the name of the file and the counters of its parse, and no others can be read from it
(`Counted`).

A check and a run that prints parse with handlers of their own. Neither refuses a line, as standard
output takes what is written to it (`Handler.discard_takesAll`, `Handler.echo_takesAll`); and with
any handler that refuses nothing, a parse comes to the same log, the same problems and the same
counters.
-/

namespace Splice

/-! ## Handlers that refuse nothing -/

namespace Handler

variable {σ : Type} {handler : Handler σ} {state : σ}

/-- From the state on, the handler refuses no line, whatever lines it is given. -/
def TakesAll (handler : Handler σ) (state : σ) : Prop :=
  ∀ lines, handler.refusals state lines = []

/-- It does not refuse the next line, nor any line after that. -/
theorem TakesAll.deliver (takes : handler.TakesAll state) (line : Text) (location : Location) :
    (handler.deliver state line location).2 = none ∧
      handler.TakesAll (handler.deliver state line location).1 := by
  have now (rest : List (Text × Location)) := takes ((line, location) :: rest)
  simp only [refusals_cons, List.append_eq_nil_iff, List.map_eq_nil_iff,
    Option.toList_eq_nil_iff] at now
  exact ⟨(now []).1, fun rest => (now rest).2⟩

theorem discard_takesAll : discard.TakesAll () :=
  refusals_eq_nil (fun _ _ _ => rfl) ()

/-- A sink without limits takes all that is written to it. -/
theorem echo_takesAll {sink : Sink} (unlimited : sink.capacity = none) :
    echo.TakesAll sink := by
  intro lines
  induction lines generalizing sink with
  | nil => rfl
  | cons call rest ih =>
    have onward : (echo.deliver sink call.1 call.2).1.capacity = none := by
      simp [echo, Sink.write, unlimited]
    have taken : (echo.deliver sink call.1 call.2).2 = none := by
      simp [echo, Sink.write, unlimited]
    rw [refusals_cons, taken, ih onward]
    rfl

/-- Of a parse, a handler that refuses nothing has noted what any other such handler has. -/
theorem TakesAll.notes_eq (takes : handler.TakesAll state) (actions : List Action) :
    Action.notes handler state actions = Action.notes discard () actions := by
  induction actions generalizing state with
  | nil => rfl
  | cons action rest ih =>
    rw [Action.notes, Action.notes]
    cases action with
    | delivered line location =>
      obtain ⟨taken, onward⟩ := takes.deliver line location
      rw [Action.note?, Action.next, taken, ih onward]
      rfl
    | _ => exact congrArg _ (ih takes)

end Handler

/-! ## Flags in a configuration -/

namespace Configuration

variable (content : Path → Option (Except Fault (List UInt8))) (home : Option Path)
  (options : Options)

/-- The preset that a run starts from. -/
def found (content : Path → Option (Except Fault (List UInt8))) (home : Option Path)
    (options : Options) : Except ConfigurationError Preset :=
  match presetsPath options home with
  | .error error => .error error
  | .ok path =>
    match Presets.load path (content path) with
    | .error error => .error (.presets error)
    | .ok presets => chosen options presets

/-- A configuration is the options over that preset. -/
theorem resolve_eq :
    resolve content home options = (found content home options).map (combined options) := by
  unfold resolve found
  cases presetsPath options home with
  | error error => rfl
  | ok path =>
    dsimp only
    cases Presets.load path (content path) with
    | error error => rfl
    | ok presets =>
      simp only [merge]
      cases chosen options presets <;> rfl

/-- Flags have no part in finding it. -/
theorem found_raise (flag : Options.Flag) :
    found content home (options.raise flag) = found content home options := by
  cases flag <;> rfl

/-- So what a flag changes in a configuration is what it changes over a preset. -/
theorem resolve_raise (flag : Options.Flag) (change : Configuration → Configuration)
    (changes : ∀ preset,
      combined (options.raise flag) preset = change (combined options preset)) :
    resolve content home (options.raise flag) = (resolve content home options).map change := by
  rw [resolve_eq, resolve_eq, found_raise]
  cases found content home options with
  | error error => rfl
  | ok preset => exact congrArg Except.ok (changes preset)

variable {content home options} in
/-- Counters are shown where they are asked for. -/
theorem showStats_of_resolve {configuration : Configuration}
    (resolved : resolve content home options = .ok configuration) :
    configuration.showStats = options.stats := by
  rw [resolve_eq] at resolved
  cases preset : found content home options with
  | error error =>
    rw [preset] at resolved
    cases resolved
  | ok preset' =>
    rw [preset] at resolved
    cases resolved
    rfl

end Configuration

namespace Command

section

variable {σ : Type} {handler : Handler σ} {state : σ}

/-- What is said of a parse before its counters: what is shown of its log, and its problems. -/
def reportOf (filter : Log.Filter) (progress : Progress σ) : Text :=
  let problems := progress.problems.toList
  filter.lines (progress.trace.toList.map entryOf)
    ++ if problems = [] then [] else Report.problems problems ++ ['\n']

/-- The line with the counters of a parse. -/
def summaryOf (file : Path) (progress : Progress σ) : Text :=
  Report.summary file progress.tally ++ ['\n']

variable (snapshot : Snapshot) (settings : Settings) (homes : Homes) (file : Path)

/-- A parse with a handler that refuses nothing comes to what it comes to with any other such
handler. -/
theorem parse_takesAll (takes : handler.TakesAll state) :
    let progress := parse snapshot settings handler homes file state
    let checked := parse snapshot settings Handler.discard homes file ()
    progress.trace.toList = checked.trace.toList ∧
      progress.problems.toList = checked.problems.toList ∧ progress.tally = checked.tally := by
  obtain ⟨all, parses⟩ := exists_parses snapshot settings homes file
  have notes := takes.notes_eq all
  refine ⟨?_, ?_, ?_⟩
  · rw [parses.trace_eq, parses.trace_eq, notes]
  · rw [parses.problems_eq, parses.problems_eq, ← Action.filterMap_problem?_notes,
      ← Action.filterMap_problem?_notes, notes]
  · rw [tally_parse, tally_parse]

theorem reportOf_takesAll (filter : Log.Filter) (takes : handler.TakesAll state) :
    reportOf filter (parse snapshot settings handler homes file state) =
      reportOf filter (parse snapshot settings Handler.discard homes file ()) := by
  obtain ⟨trace, problems, -⟩ := parse_takesAll snapshot settings homes file takes
  rw [reportOf, trace, problems]
  rfl

theorem summaryOf_takesAll (takes : handler.TakesAll state) :
    summaryOf file (parse snapshot settings handler homes file state) =
      summaryOf file (parse snapshot settings Handler.discard homes file ()) := by
  rw [summaryOf, (parse_takesAll snapshot settings homes file takes).2.2]
  rfl

end

section

variable (surroundings : Surroundings) (configuration : Configuration) (file : Path)

/-- The report on a file. -/
def report (surroundings : Surroundings) (settings : Settings) (file : Path) : Text :=
  reportOf (logFilter surroundings).1
    (parse surroundings.snapshot settings Handler.discard surroundings.homes file ())

/-- Its counters. -/
def summary (surroundings : Surroundings) (settings : Settings) (file : Path) : Text :=
  summaryOf file (parse surroundings.snapshot settings Handler.discard surroundings.homes file ())

/-- The account of a file does not depend on whether it is only checked. -/
theorem account_eq :
    account surroundings configuration file =
      report surroundings configuration.settings file ++
        if configuration.showStats then summary surroundings configuration.settings file
        else [] := by
  have takes : Handler.echo.TakesAll {} := Handler.echo_takesAll rfl
  unfold account
  split
  · rfl
  · rw [report, summary, ← reportOf_takesAll _ configuration.settings _ file _ takes,
      ← summaryOf_takesAll _ configuration.settings _ file takes]
    rfl

/-- Nor does whether there are problems in it. -/
theorem fails_eq :
    fails surroundings configuration file =
      decide ((parse surroundings.snapshot configuration.settings Handler.discard surroundings.homes
        file ()).problems.toList ≠ []) := by
  have takes : Handler.echo.TakesAll {} := Handler.echo_takesAll rfl
  have same := (parse_takesAll surroundings.snapshot configuration.settings surroundings.homes file
    takes).2.1
  by_cases checked : configuration.checkOnly = true
  · simp only [fails, parseFile, checked, ↓reduceIte]
  · simp only [fails, parseFile, checked, Bool.false_eq_true, ↓reduceIte, same]

end

/-! ## What flags change -/

/-- The files that a run with the options parses, with the settings they are read with. Where the
run stops before it comes to them, there are none. -/
def parsed (surroundings : Surroundings) (options : Options) : List (Path × Settings) :=
  match Configuration.resolve (content surroundings.snapshot) surroundings.homes.own options,
    filesFor surroundings options with
  | .ok configuration, .ok (files, _) => files.map (·, configuration.settings)
  | _, _ => []

/-- How two runs differ of which only the second shows counters, with the files that are parsed. -/
structure Counted (surroundings : Surroundings) (parsed : List (Path × Settings))
    (plain counted : Outcome) : Prop where
  output_eq : counted.output = plain.output
  status_eq : counted.status = plain.status
  /-- The line with the counters of a file comes right after the report on it, and standard error is
  otherwise as it was. Both are those of the parse with any handler that refuses nothing, so they
  are the same whether the files are printed or only checked. -/
  errors_eq : ∃ opening closing, ∃ log report summary : Path × Settings → Text,
    plain.errors = opening ++ parsed.flatMap (fun job => log job ++ report job) ++ closing ∧
    counted.errors =
      opening ++ parsed.flatMap (fun job => log job ++ report job ++ summary job) ++ closing ∧
    ∀ job ∈ parsed, ∀ {σ : Type} (handler : Handler σ) (state : σ), handler.TakesAll state →
      let progress := parse surroundings.snapshot job.2 handler surroundings.homes job.1 state
      log job = (logFilter surroundings).1.lines (progress.trace.toList.map entryOf) ∧
        Report.IsReport progress.problems.toList (report job) ∧
        ∃ line, Report.IsSummary job.1 progress.tally line ∧ summary job = line ++ ['\n']

section

variable {surroundings : Surroundings} {options : Options} {words : List Text}

theorem run_of_parse (accepted : Options.parse words = .ok options) :
    run surroundings words =
      let outcome := runWith surroundings (logFilter surroundings).1 options
      { outcome with errors := complaints surroundings ++ outcome.errors } := by
  have accepts : Accepts options options.files words := accepted
  exact run_of_accepts accepts

variable (surroundings options)

/-- Flags have no part in finding the files. -/
theorem filesFor_raise (flag : Options.Flag) :
    filesFor surroundings (options.raise flag) = filesFor surroundings options := by
  cases flag <;> rfl

variable (configuration : Configuration) (files : List Path)

/-- With the same settings, the same files fail. -/
theorem failures_congr (other : Configuration)
    (same : configuration.settings = other.settings) :
    failures surroundings configuration files = failures surroundings other files := by
  refine List.countP_congr fun file _ => ?_
  rw [fails_eq, fails_eq, same]

/-- Files that are only checked come to what they come to when they are printed, but for the
output. -/
theorem parseFiles_checkOnly :
    parseFiles surroundings (logFilter surroundings).1 { configuration with checkOnly := true }
        files =
      { parseFiles surroundings (logFilter surroundings).1 configuration files with
        output := [] } := by
  have accounts : account surroundings { configuration with checkOnly := true } =
      account surroundings configuration := by
    funext file
    rw [account_eq, account_eq]
  have output :
      files.flatMap (emitted surroundings { configuration with checkOnly := true }) = [] :=
    List.flatMap_eq_nil_iff.2 fun _ _ => rfl
  have failures_eq := failures_congr surroundings { configuration with checkOnly := true } files
    configuration rfl
  simp only [parseFiles_eq, accounts, failures_eq, output]

/-- What is printed of a file does not depend on whether counters are shown. -/
theorem emitted_eq (file : Path) :
    emitted surroundings configuration file =
      if configuration.checkOnly then []
      else (parse surroundings.snapshot configuration.settings Handler.echo surroundings.homes file
        {}).state.stored.toList := by
  simp only [emitted, parseFile]
  split <;> rfl

variable {configuration} in
/-- What the files come to with their counters, and without. -/
theorem parseFiles_counted (plain : configuration.showStats = false) :
    Counted surroundings (files.map (·, configuration.settings))
      (parseFiles surroundings (logFilter surroundings).1 configuration files)
      (parseFiles surroundings (logFilter surroundings).1 { configuration with showStats := true }
        files) := by
  have output : emitted surroundings { configuration with showStats := true } =
      emitted surroundings configuration := by
    funext file
    rw [emitted_eq, emitted_eq]
  have without : account surroundings configuration =
      report surroundings configuration.settings := by
    funext file
    rw [account_eq, plain]
    exact List.append_nil _
  have within : account surroundings { configuration with showStats := true } = fun file =>
      report surroundings configuration.settings file ++
        summary surroundings configuration.settings file := by
    funext file
    rw [account_eq]
    rfl
  have failures_eq := failures_congr surroundings { configuration with showStats := true } files
    configuration rfl
  rw [parseFiles_eq, parseFiles_eq, failures_eq, output]
  let closing := if failures surroundings configuration files = 0 then []
    else verdict (failures surroundings configuration files) files.length
  -- Whatever the handler, what is said of a file is what is said of it when it is only checked.
  let checked (job : Path × Settings) :=
    parse surroundings.snapshot job.2 Handler.discard surroundings.homes job.1 ()
  refine ⟨rfl, rfl, [], closing,
    fun job => (logFilter surroundings).1.lines ((checked job).trace.toList.map entryOf),
    fun job => if (checked job).problems.toList = [] then []
      else Report.problems (checked job).problems.toList ++ ['\n'],
    fun job => summary surroundings job.2 job.1, ?_, ?_, ?_⟩
  · rw [without, List.flatMap_map]
    rfl
  · rw [within, List.flatMap_map]
    rfl
  · intro job _ σ handler state takes
    obtain ⟨trace, problems, tally⟩ :=
      parse_takesAll surroundings.snapshot job.2 surroundings.homes job.1 takes
    dsimp only
    rw [trace, problems, tally]
    exact ⟨rfl, Report.isReport_problems _, _, Report.isSummary_summary job.1 _, rfl⟩

variable {surroundings options} in
/-- What is said first makes no difference. -/
theorem Counted.prepend {parsed : List (Path × Settings)} {plain counted : Outcome}
    (shown : Counted surroundings parsed plain counted) (text : Text) :
    Counted surroundings parsed { plain with errors := text ++ plain.errors }
      { counted with errors := text ++ counted.errors } := by
  obtain ⟨output, status, opening, closing, log, report, summary, without, within, told⟩ := shown
  refine ⟨output, status, text ++ opening, closing, log, report, summary, ?_, ?_, told⟩
  · simp only [without, List.append_assoc]
  · simp only [within, List.append_assoc]

/-- Where no file is parsed, nothing is counted. -/
theorem Counted.of_none (outcome : Outcome) : Counted surroundings [] outcome outcome :=
  ⟨rfl, rfl, outcome.errors, [], fun _ => [], fun _ => [], fun _ => [], by simp, by simp, by simp⟩

/-- With only a check asked for, a run is what it is without, but for the output. -/
theorem runWith_raise_check :
    runWith surroundings (logFilter surroundings).1 (options.raise .check) =
      { runWith surroundings (logFilter surroundings).1 options with output := [] } := by
  have resolved := Configuration.resolve_raise (content surroundings.snapshot)
    surroundings.homes.own options .check ({ · with checkOnly := true }) fun _ => rfl
  unfold runWith
  rw [resolved, filesFor_raise]
  cases Configuration.resolve (content surroundings.snapshot) surroundings.homes.own options with
  | error error => rfl
  | ok configuration =>
    cases filesFor surroundings options with
    | error error => rfl
    | ok among =>
      obtain ⟨files, entries⟩ := among
      dsimp only [Except.map]
      split
      · rfl
      · rw [parseFiles_checkOnly]

variable {options} in
/-- With counters asked for, a run is what it is without, but for the counters. -/
theorem runWith_raise_stats (lacks : options.stats = false) :
    Counted surroundings (parsed surroundings options)
      (runWith surroundings (logFilter surroundings).1 options)
      (runWith surroundings (logFilter surroundings).1 (options.raise .stats)) := by
  have resolved := Configuration.resolve_raise (content surroundings.snapshot)
    surroundings.homes.own options .stats ({ · with showStats := true }) fun _ => rfl
  unfold runWith parsed
  rw [resolved, filesFor_raise]
  cases found : Configuration.resolve (content surroundings.snapshot) surroundings.homes.own options
    with
  | error error => exact .of_none _ _
  | ok configuration =>
    cases filesFor surroundings options with
    | error error => exact .of_none _ _
    | ok among =>
      obtain ⟨files, entries⟩ := among
      dsimp only [Except.map]
      by_cases none : files = []
      · simp only [none, ↓reduceIte]
        exact .of_none _ _
      · simp only [none, ↓reduceIte]
        exact (parseFiles_counted surroundings files
          ((Configuration.showStats_of_resolve found).trans lacks)).prepend _

end

/-- Flags leave the verdict alone. In front of a command line that is accepted and does not check,
`--check` makes standard output empty and changes nothing else, counters that are shown included. In
front of one that shows no counters, `--stats` has the counters of each file shown after the report
on it, and changes nothing else. -/
theorem flags_observe {surroundings : Surroundings} {options : Options} {words : List Text}
    (accepted : Options.parse words = .ok options) :
    (options.check = false →
      run surroundings ("--check".toList :: words) =
        { run surroundings words with output := [] }) ∧
    (options.stats = false →
      Counted surroundings (parsed surroundings options) (run surroundings words)
        (run surroundings ("--stats".toList :: words))) := by
  refine ⟨fun lacks => ?_, fun lacks => ?_⟩
  · have raised : Options.parse ("--check".toList :: words) = .ok (options.raise .check) :=
      Options.parse_cons_flag .check accepted lacks
    rw [run_of_parse accepted, run_of_parse raised, runWith_raise_check]
  · have raised : Options.parse ("--stats".toList :: words) = .ok (options.raise .stats) :=
      Options.parse_cons_flag .stats accepted lacks
    rw [run_of_parse accepted, run_of_parse raised]
    exact (runWith_raise_stats surroundings lacks).prepend _

/-- Two files, of which one lacks what it includes, are checked with their counters, and counted.
The counters of the first are those of the file alone, as what it includes does not open. -/
theorem flags_observe_lacking :
    let words := ["/a".toList, "/c".toList]
    let check := "--check".toList
    let stats := "--stats".toList
    let first : Path := ⟨"/a".toList⟩
    run lacking (check :: stats :: words) = { run lacking (stats :: words) with output := [] } ∧
      Counted lacking [(first, {}), (⟨"/c".toList⟩, {})] (run lacking words)
        (run lacking (stats :: words)) ∧
      Report.IsSummary first
        (parse lacking.snapshot {} Handler.discard lacking.homes first ()).tally
        "/a: files:   1   lines read:     2   parsed:     1".toList := by
  intro words check stats first
  let files : List Path := [first, ⟨"/c".toList⟩]
  have accepted : Options.parse words = .ok { files } := rfl
  have accepted' : Options.parse (stats :: words) = .ok { files, stats := true } := rfl
  have tally : (parse lacking.snapshot {} Handler.discard lacking.homes ⟨"/a".toList⟩ ()).tally =
      ⟨1, 2, 1⟩ := by
    rw [(parses_doneWithin (n := 6) (by decide)).parse_eq]
    decide
  have line : Report.summary ⟨"/a".toList⟩ ⟨1, 2, 1⟩ =
      "/a: files:   1   lines read:     2   parsed:     1".toList := by decide
  refine ⟨(flags_observe accepted').1 rfl, (flags_observe accepted).2 rfl, ?_⟩
  rw [tally, ← line]
  exact Report.isSummary_summary _ _

end Command

end Splice
