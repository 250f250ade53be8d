import Splice.Fault
import Splice.Path
import Splice.Text.Quoted
import Splice.Text.Utf8
import Splice.Toml.Document

/-!
# Presets

Named groups of settings, kept in a file in the TOML format: one table a preset. A preset may leave
out any setting, and keys that name no setting are passed over; a setting of the wrong type is an
error, and so is anything else than a preset at the top of the file. A list of all five settings in
their order stands for a preset too.
-/

namespace Splice

/-- The settings that a preset gives. -/
structure Preset where
  /-- What the files are called in messages. -/
  description : Option Text := none
  /-- The comment marker. -/
  comment : Option Text := none
  /-- The include marker. -/
  includeMarker : Option Text := none
  /-- Whether blank lines are delivered. -/
  keepBlankLines : Option Bool := none
  /-- Whether white space around lines is dropped. -/
  trimWhitespace : Option Bool := none
  deriving DecidableEq, Repr

/-- The presets of a file, by name. -/
abbrev Presets := List (Text × Preset)

/-- The preset of a name. -/
def Presets.get? (presets : Presets) (name : Text) : Option Preset :=
  (presets.find? fun entry => entry.1 = name).map Prod.snd

namespace Preset

open Toml

/-- The text that a definition gives. -/
def asText : Definition → Option Text
  | .value (.string text) => some text
  | _ => none

/-- The truth value that a definition gives. -/
def asBool : Definition → Option Bool
  | .value (.scalar (.boolean value)) => some value
  | _ => none

/-- Reads a setting, which may be missing but not of the wrong type. -/
def setting {α : Type} (read : Definition → Option α) (name : String)
    (entries : List (Text × Definition)) : Option (Option α) :=
  match entries.find? fun entry => entry.1 = name.toList with
  | none => some none
  | some (_, definition) => (read definition).map some

/-- The preset with the given entries. -/
def ofEntries (entries : List (Text × Definition)) : Option Preset := do
  some {
    description := ← setting asText "description" entries
    comment := ← setting asText "comment" entries
    includeMarker := ← setting asText "include_marker" entries
    keepBlankLines := ← setting asBool "keep_blank_lines" entries
    trimWhitespace := ← setting asBool "trim_whitespace" entries }

/-- The preset that a value stands for. A moment of time counts as a table without settings. -/
def ofValue : Value → Option Preset
  | .inline entries => do ofEntries ((← Definitions.ofEntries entries).children [])
  | .array [description, comment, includeMarker, keepBlankLines, trimWhitespace] => do
    some {
      description := ← (asText (.value description)).map some
      comment := ← (asText (.value comment)).map some
      includeMarker := ← (asText (.value includeMarker)).map some
      keepBlankLines := ← (asBool (.value keepBlankLines)).map some
      trimWhitespace := ← (asBool (.value trimWhitespace)).map some }
  | .scalar .moment => some {}
  | _ => none

/-- The preset that a name at the top of a file stands for. -/
def ofDefinition (definitions : Definitions) (name : Text) : Definition → Option Preset
  | .headed | .implied | .dotted => ofEntries (definitions.children [.key name])
  | .list _ => none
  | .value value => ofValue value

end Preset

/-- Reads presets. -/
def Presets.parse? (text : Text) : Option Presets := do
  let definitions ← Toml.parse? text
  (definitions.children []).mapM fun (name, definition) => do
    some (name, ← Preset.ofDefinition definitions name definition)

/-- Why no presets were loaded. -/
inductive PresetsError where
  /-- The file could not be read. -/
  | unreadable (path : Path) (fault : Fault)
  /-- The file holds no presets. -/
  | malformed (path : Path)
  deriving DecidableEq, Repr

namespace PresetsError

/-- What could not be done. -/
def message : PresetsError → Text
  | .unreadable path _ => "Failed to read presets at ".toList ++ Text.quoted path.text
  | .malformed path => "Failed to parse ".toList ++ Text.quoted path.text

/-- What could not be done, and why. What is wrong with a file that holds no presets is not looked
into: the words for it are this library's own. -/
def fullMessage (error : PresetsError) : Text :=
  error.message ++ ": ".toList ++ match error with
    | .unreadable _ fault => fault.message
    | .malformed _ => "not a valid list of presets".toList

end PresetsError

/-- The presets in a file with the given content; a file that is not there has none. -/
def Presets.load (path : Path) (content : Option (Except Fault (List UInt8))) :
    Except PresetsError Presets :=
  match content with
  | none => .ok []
  | some (.error fault) => .error (.unreadable path fault)
  | some (.ok bytes) =>
    match Utf8.decode? bytes with
    | none => .error (.unreadable path .notUtf8)
    | some text =>
      match Presets.parse? text with
      | none => .error (.malformed path)
      | some presets => .ok presets

end Splice
