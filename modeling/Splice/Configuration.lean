import Splice.Options
import Splice.Preset
import Splice.Settings

/-!
# Configuration

What a run does, from the command line and the presets. An option on the command line goes before
the preset that it names, and the preset before what is built in.
-/

namespace Splice

/-- What a run does with its files. -/
structure Configuration where
  /-- How the files are read. -/
  settings : Settings
  /-- Whether the files are only checked. -/
  checkOnly : Bool
  /-- Whether counters are reported. -/
  showStats : Bool
  deriving DecidableEq, Repr

/-- Why there is no configuration. -/
inductive ConfigurationError where
  /-- Without a home directory it is not known where the presets are. -/
  | noHome
  /-- The presets could not be loaded. -/
  | presets (error : PresetsError)
  /-- The command line names a preset that there is not. -/
  | unknownPreset (name : Text)
  deriving DecidableEq, Repr

namespace ConfigurationError

/-- What went wrong. -/
def message : ConfigurationError → Text
  | .noHome => "Could not determine home directory".toList
  | .presets error => error.message
  | .unknownPreset name => "Unknown preset: ".toList ++ name

/-- What went wrong, and why. -/
def fullMessage : ConfigurationError → Text
  | .presets error => error.fullMessage
  | error => error.message

end ConfigurationError

namespace Configuration

/-- The file with the presets: the one that the command line names, or the usual one below the home
directory. -/
def presetsPath (options : Options) (home : Option Path) : Except ConfigurationError Path :=
  match options.presets, home with
  | some path, _ => .ok path
  | none, none => .error .noHome
  | none, some home =>
    .ok (home.joined ⟨".config/fileparse/presets.toml".toList⟩)

/-- The preset that the command line names; an empty one when it names none. -/
def chosen (options : Options) (presets : Presets) : Except ConfigurationError Preset :=
  match options.preset with
  | none => .ok {}
  | some name =>
    match presets.get? name with
    | some preset => .ok preset
    | none => .error (.unknownPreset name)

/-- What options over a preset amount to. -/
def combined (options : Options) (preset : Preset) : Configuration :=
  let builtIn : Settings := {}
  { settings :=
      { description := (options.description <|> preset.description).getD builtIn.description
        comment := (options.comment <|> preset.comment).getD builtIn.comment
        includeMarker :=
          (options.includeMarker <|> preset.includeMarker).getD builtIn.includeMarker
        keepBlankLines := options.keepBlankLines || preset.keepBlankLines.getD false
        trimWhitespace := !options.noTrim && preset.trimWhitespace.getD true }
    checkOnly := options.check
    showStats := options.stats }

/-- Merges the command line with the presets. -/
def merge (options : Options) (presets : Presets) : Except ConfigurationError Configuration :=
  match chosen options presets with
  | .ok preset => .ok (combined options preset)
  | .error error => .error error

/-- The configuration for a command line. `content` is what a path holds, where there is a file:
its bytes, or why they cannot be read. -/
def resolve (content : Path → Option (Except Fault (List UInt8))) (home : Option Path)
    (options : Options) : Except ConfigurationError Configuration :=
  match presetsPath options home with
  | .error error => .error error
  | .ok path =>
    match Presets.load path (content path) with
    | .error error => .error (.presets error)
    | .ok presets => merge options presets

end Configuration

end Splice
