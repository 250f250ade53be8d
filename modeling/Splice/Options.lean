import Splice.Path

/-!
# Command line options

What a command line says, and how it is read. An option is spelled with two hyphens; its value
follows as the next word or after an equals sign. Options for lists of patterns take every word up
to the next option. After two hyphens alone every word is a file. An option for a single value and
a flag may be given once.
-/

namespace Splice

/-- What a command line says. -/
structure Options where
  /-- The files to parse. -/
  files : List Path := []
  /-- The preset to start from. -/
  preset : Option Text := none
  /-- The file with the presets. -/
  presets : Option Path := none
  /-- What the files are called in messages. -/
  description : Option Text := none
  /-- The comment marker. -/
  comment : Option Text := none
  /-- The include marker. -/
  includeMarker : Option Text := none
  /-- Whether blank lines are delivered. -/
  keepBlankLines : Bool := false
  /-- Whether white space around lines is kept. -/
  noTrim : Bool := false
  /-- Whether the files are only checked. -/
  check : Bool := false
  /-- Whether counters are reported. -/
  stats : Bool := false
  /-- Patterns for further files. -/
  glob : Option (List Text) := none
  /-- Patterns for files that the former do not add. -/
  exclude : Option (List Text) := none
  deriving DecidableEq, Repr

/-- Why a command line yields no options. -/
inductive UsageError where
  /-- There is no such option. -/
  | unknownArgument
  /-- A value is missing or empty. -/
  | invalidValue
  /-- An option that is given once was given again. -/
  | argumentConflict
  /-- A flag was given a value. -/
  | tooManyValues
  /-- The user asks for help. -/
  | displayHelp
  /-- The user asks for the version. -/
  | displayVersion
  deriving DecidableEq, Repr

namespace Options

/-- An option with one value. -/
inductive Single where
  | preset
  | presets
  | description
  | comment
  | includeMarker
  deriving DecidableEq, Repr

/-- An option without a value. -/
inductive Flag where
  | keepBlankLines
  | noTrim
  | check
  | stats
  deriving DecidableEq, Repr

/-- An option with a list of values. -/
inductive Many where
  | glob
  | exclude
  deriving DecidableEq, Repr

/-- Something that values are read for. -/
inductive Target where
  /-- The files. -/
  | files
  /-- An option with one value. -/
  | single (option : Single)
  /-- An option with a list of values. -/
  | many (option : Many)
  deriving DecidableEq, Repr

/-- What the name of an option stands for. -/
inductive Meaning where
  /-- It takes values. -/
  | takes (target : Target)
  /-- It takes none. -/
  | flag (flag : Flag)
  /-- It asks for something else than a run. -/
  | asks (answer : UsageError)
  deriving DecidableEq, Repr

/-- The name of an option with one value. -/
def Single.name : Single → Text
  | .preset => "preset".toList
  | .presets => "presets".toList
  | .description => "description".toList
  | .comment => "comment".toList
  | .includeMarker => "include-marker".toList

/-- The name of a flag. -/
def Flag.name : Flag → Text
  | .keepBlankLines => "keep-blank-lines".toList
  | .noTrim => "no-trim".toList
  | .check => "check".toList
  | .stats => "stats".toList

/-- The name of an option with a list of values. -/
def Many.name : Many → Text
  | .glob => "glob".toList
  | .exclude => "exclude".toList

/-- The names of all options. -/
def meanings : List (Text × Meaning) :=
  [.preset, .presets, .description, .comment, .includeMarker].map
      (fun option : Single => (option.name, .takes (.single option)))
    ++ [.keepBlankLines, .noTrim, .check, .stats].map
      (fun flag : Flag => (flag.name, .flag flag))
    ++ [.glob, .exclude].map (fun option : Many => (option.name, .takes (.many option)))
    ++ [("help".toList, .asks .displayHelp), ("version".toList, .asks .displayVersion)]

/-- What the name of an option stands for. Names are not abbreviated. -/
def meaning? (name : Text) : Option Meaning :=
  (meanings.find? fun entry => entry.1 = name).map Prod.snd

/-- What a single letter stands for. -/
def letterMeaning? : Char → Option UsageError
  | 'h' => some .displayHelp
  | 'V' => some .displayVersion
  | _ => none

/-- Gives an option its value, unless it has one. The file with the presets needs a name. -/
def setSingle (options : Options) (option : Single) (value : Text) :
    Except UsageError Options :=
  let once (before : Option Text) (after : Options) : Except UsageError Options :=
    if before.isSome then .error .argumentConflict else .ok after
  match option with
  | .preset => once options.preset { options with preset := some value }
  | .description => once options.description { options with description := some value }
  | .comment => once options.comment { options with comment := some value }
  | .includeMarker => once options.includeMarker { options with includeMarker := some value }
  | .presets =>
    if options.presets.isSome then .error .argumentConflict
    else if value = [] then .error .invalidValue
    else .ok { options with presets := some ⟨value⟩ }

/-- Sets a flag, unless it is set. -/
def setFlag (options : Options) (flag : Flag) : Except UsageError Options :=
  let once (before : Bool) (after : Options) : Except UsageError Options :=
    if before then .error .argumentConflict else .ok after
  match flag with
  | .keepBlankLines => once options.keepBlankLines { options with keepBlankLines := true }
  | .noTrim => once options.noTrim { options with noTrim := true }
  | .check => once options.check { options with check := true }
  | .stats => once options.stats { options with stats := true }

/-- Adds values to a list option. -/
def extendMany (options : Options) (option : Many) (values : List Text) : Options :=
  match option with
  | .glob => { options with glob := some (options.glob.getD [] ++ values) }
  | .exclude => { options with exclude := some (options.exclude.getD [] ++ values) }

/-- Takes over the values read for a target. Options need a value, and files need names. -/
def settle (options : Options) (target : Target) (values : List Text) :
    Except UsageError Options :=
  match target, values with
  | .files, values =>
    if [] ∈ values then .error .invalidValue
    else .ok { options with files := options.files ++ values.map Path.mk }
  | .single option, value :: _ => options.setSingle option value
  | .many option, value :: values => .ok (options.extendMany option (value :: values))
  | _, [] => .error .invalidValue

/-- A command line that has been read in part. -/
structure Reading where
  /-- What it says so far. -/
  options : Options := {}
  /-- The target that values are being read for, with those read so far. They are taken over when
  the next target begins. -/
  pending : Option (Target × List Text) := none
  /-- Whether the next word that is no option is a value for the pending option. -/
  collecting : Bool := false
  /-- Whether all words that follow are files. -/
  filesOnly : Bool := false

namespace Reading

/-- Takes over what is pending. -/
def settled (reading : Reading) : Except UsageError Options :=
  match reading.pending with
  | none => .ok reading.options
  | some (target, values) => reading.options.settle target values

/-- The reading after `options` are what the command line says so far. -/
def proceed (reading : Reading) (options : Options) : Reading :=
  { reading with options, pending := none, collecting := false }

/-- Reads an option by its name, with the value attached to it if there is one. -/
def readOption (reading : Reading) (name : Text) (attached : Option Text) :
    Except UsageError Reading :=
  match meaning? name, attached with
  | none, _ => .error .unknownArgument
  | some (.takes target), some value => do
    let options ← reading.settled
    let options ← options.settle target [value]
    .ok (reading.proceed options)
  | some (.takes target), none => do
    let options ← reading.settled
    .ok { reading with options, pending := some (target, []), collecting := true }
  | some _, some _ => .error .tooManyValues
  | some (.flag flag), none => do
    let options ← reading.settled
    let options ← options.setFlag flag
    .ok (reading.proceed options)
  | some (.asks answer), none => do
    let _ ← reading.settled
    .error answer

/-- Reads single letters after one hyphen: only the first one matters, as each of them ends the
reading. -/
def readLetter (reading : Reading) (letter : Char) : Except UsageError Reading :=
  match letterMeaning? letter with
  | none => .error .unknownArgument
  | some answer => do
    let _ ← reading.settled
    .error answer

/-- Reads a word as a value of the pending option. -/
def readValue (reading : Reading) (target : Target) (values : List Text) (word : Text) : Reading :=
  let more := match target with
    | .single _ => false
    | .many _ | .files => true
  { reading with pending := some (target, values ++ [word]), collecting := more }

/-- Reads a word as a file. -/
def readFile (reading : Reading) (word : Text) : Except UsageError Reading :=
  match reading.pending with
  | some (.files, values) => .ok { reading with pending := some (.files, values ++ [word]) }
  | _ => do
    let options ← reading.settled
    .ok { reading with options, pending := some (.files, [word]), collecting := false }

/-- Reads a word. -/
def readWord (reading : Reading) (word : Text) : Except UsageError Reading :=
  if reading.filesOnly then reading.readFile word
  else
    match word with
    | ['-', '-'] => .ok { reading with filesOnly := true }
    | '-' :: '-' :: rest =>
      let name := rest.takeWhile (· ≠ '=')
      match rest.drop name.length with
      | [] => reading.readOption name none
      | _ :: value => reading.readOption name (some value)
    | '-' :: letter :: _ => reading.readLetter letter
    | word =>
      match reading.collecting, reading.pending with
      | true, some (target, values) => .ok (reading.readValue target values word)
      | _, _ => reading.readFile word

end Reading

/-- Reads the words of a command line. -/
def parse (words : List Text) : Except UsageError Options := do
  let reading ← words.foldlM Reading.readWord {}
  reading.settled

end Options

end Splice
