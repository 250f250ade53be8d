import Splice.Configuration
import Splice.Discovery
import Splice.Log
import Splice.Reading
import Splice.Report

/-!
# The command

The whole program as a function of its command line and its surroundings: it resolves the
configuration, finds further files by pattern, parses one file after the other, and reports. What
it writes and how it exits is its answer.
-/

namespace Splice

/-- What a run finds around it. -/
structure Surroundings where
  /-- The files. -/
  snapshot : Snapshot
  /-- The home directories. -/
  homes : Homes
  /-- The current directory, or why it cannot be told. -/
  here : Except Fault Path
  /-- What walking a directory finds. -/
  walk : Path → List Finding
  /-- Which messages are to be shown, as the user has set it. -/
  logFilter : Option Text := none

/-- What a run leaves behind. -/
structure Outcome where
  /-- What it writes to standard output. -/
  output : List UInt8 := []
  /-- What it writes to standard error. -/
  errors : Text := []
  /-- The exit status. -/
  status : Nat := 0
  deriving DecidableEq, Repr

namespace Command

/-- The name of the program and its version. -/
def version : Text := "fileparse 0.1.0\n".toList

/-- What the program is for, and its options. The options are those of `Options.parse`; how they are
worded and laid out is this library's own. -/
def help : Text :=
  "Strip comments, follow include directives and print what remains

Usage: fileparse [OPTIONS] [FILES]...

Options:
      --preset <PRESET>                  Use a predefined set of options from presets.toml
      --presets <PRESETS>                Read presets from this file
      --description <DESCRIPTION>        Name for the kind of file being parsed
      --comment <COMMENT>                Comment introducer
      --include-marker <INCLUDE_MARKER>  Include keyword
      --keep-blank-lines                 Pass blank lines through instead of dropping them
      --no-trim                          Keep leading and trailing white space
      --check                            Only check the files
      --stats                            Print statistics for each file to stderr
      --glob <GLOB>...                   Patterns for further files to parse
      --exclude <EXCLUDE>...             Patterns for files to skip when using --glob
  -h, --help                             Print help
  -V, --version                          Print version
".toList

/-- What is written for a command line that yields no options. Only the kind of error is meant to be
told from it: the wording is this library's own, and no argument is named. -/
def usage : UsageError → Text
  | .unknownArgument => "error: unexpected argument found\n".toList
  | .invalidValue => "error: a value is required but none was supplied\n".toList
  | .argumentConflict => "error: an argument cannot be used multiple times\n".toList
  | .tooManyValues => "error: unexpected value for an argument\n".toList
  | .displayHelp => help
  | .displayVersion => version

/-- Which messages are shown, and what is wrong with the user's wish. -/
def logFilter (surroundings : Surroundings) : Log.Filter × List Text :=
  match surroundings.logFilter with
  | none => (Log.Filter.standard, [])
  | some text => Log.Filter.read text

/-- The parts of the program in the log. -/
def origin : Text := "fileparse::app".toList

/-- The message for a step of a parse. -/
def entryOf (step : Trace) : Log.Entry :=
  ⟨.debug, origin ++ "::parser".toList, step.message⟩

/-- What parsing one file writes to standard output, what it writes to standard error, and whether
it had errors. -/
def parseFile (surroundings : Surroundings) (filter : Log.Filter) (configuration : Configuration)
    (file : Path) : List UInt8 × Text × Bool :=
  let finish {σ : Type} (progress : Progress σ) (output : List UInt8) : List UInt8 × Text × Bool :=
    let problems := progress.problems.toList
    let log := filter.lines (progress.trace.toList.map entryOf)
    let report := if problems = [] then [] else Report.problems problems ++ ['\n']
    let summary :=
      if configuration.showStats then Report.summary file progress.tally ++ ['\n'] else []
    (output, log ++ report ++ summary, problems ≠ [])
  if configuration.checkOnly then
    finish (parse surroundings.snapshot configuration.settings Handler.discard surroundings.homes
      file ()) []
  else
    let progress := parse surroundings.snapshot configuration.settings Handler.echo
      surroundings.homes file {}
    finish progress progress.state.stored.toList

/-- The verdict on a run, if any file had errors. -/
def verdict (failed total : Nat) : Text :=
  Text.decimal failed ++ " of ".toList ++ Text.decimal total ++ " files had errors\n".toList

/-- Parses files one after the other. -/
def parseFiles (surroundings : Surroundings) (filter : Log.Filter) (configuration : Configuration)
    (files : List Path) : Outcome :=
  let results := files.map (parseFile surroundings filter configuration)
  let failed := results.countP fun result => result.2.2
  { output := results.flatMap fun result => result.1
    errors := (results.flatMap fun result => result.2.1)
      ++ if failed = 0 then [] else verdict failed files.length
    status := if failed = 0 then 0 else 1 }

/-- A run that stops with a message. -/
def stopped (message : Text) : Outcome :=
  { errors := message ++ ['\n'], status := 1 }

/-- What the file holds that presets are read from, if it is there. What opens is there, and so is
what has a canonical path. A pipe has none: one that does not open passes for missing. -/
def content (snapshot : Snapshot) (path : Path) : Option (Except Fault (List UInt8)) :=
  match snapshot.source path, snapshot.canonical? path with
  | .ok source, _ => some source.bytes?
  | .error fault, some _ => some (.error fault)
  | .error _, none => none

/-- The files to parse: those that the command line names, then those that its patterns find. With
them comes what the walk has to say in the log. -/
def filesFor (surroundings : Surroundings) (options : Options) :
    Except SearchError (List Path × List Log.Entry) :=
  match options.glob with
  | none => .ok (options.files, [])
  | some patterns =>
    match surroundings.here with
    | .error fault => .error (.nowhere fault)
    | .ok here =>
      match Discovery.ofTexts here patterns (options.exclude.getD []) with
      | .error error => .error (.pattern error)
      | .ok discovery =>
        let findings := surroundings.walk here
        let entries := (Discovery.warnings findings).map fun text =>
          (⟨.warn, origin ++ "::scanner".toList, text⟩ : Log.Entry)
        .ok (options.files ++ discovery.files findings, entries)

/-- Runs the program with options. -/
def runWith (surroundings : Surroundings) (filter : Log.Filter) (options : Options) : Outcome :=
  match Configuration.resolve (content surroundings.snapshot) surroundings.homes.own options with
  | .error error => stopped error.fullMessage
  | .ok configuration =>
    match filesFor surroundings options with
    | .error error => stopped error.fullMessage
    | .ok (files, entries) =>
      let outcome :=
        if files = [] then
          { errors := filter.lines [⟨.warn, origin, "No files given; nothing to parse.".toList⟩] }
        else parseFiles surroundings filter configuration files
      { outcome with errors := filter.lines entries ++ outcome.errors }

/-- Runs the program with the words of a command line. -/
def run (surroundings : Surroundings) (words : List Text) : Outcome :=
  let (filter, complaints) := logFilter surroundings
  let warnings := complaints.flatMap fun complaint =>
    "warning: ".toList ++ complaint ++ ", ignoring it\n".toList
  let outcome : Outcome :=
    match Options.parse words with
    | .ok options => runWith surroundings filter options
    | .error .displayHelp => { output := Utf8.encode help }
    | .error .displayVersion => { output := Utf8.encode version }
    | .error error => { errors := usage error, status := 2 }
  { outcome with errors := warnings ++ outcome.errors }

end Command

/-- A disk as the surroundings of a run in the directory `here`. -/
def Disk.surroundings (disk : Disk) (here : Place) (homes : Homes) (logFilter : Option Text) :
    Surroundings where
  snapshot := disk.snapshot here
  homes := homes
  here := .ok (Disk.pathOf here)
  walk := disk.walk here homes
  logFilter := logFilter

end Splice
