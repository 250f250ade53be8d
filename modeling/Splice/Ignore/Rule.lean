import Splice.Fault
import Splice.Glob.Parser
import Splice.Path

/-!
# Ignore rules

The lines of an ignore file. A rule is a pattern for paths below the directory that the file is
for; it hides what it matches, or keeps it if it starts with an exclamation mark. The last rule of
a file that matches decides.
-/

namespace Splice.Ignore

/-- A rule of an ignore file. -/
structure Rule where
  /-- The paths that the rule is about. -/
  pattern : Glob.Pattern
  /-- Whether the rule keeps what it matches. -/
  keeps : Bool
  /-- Whether the rule is about directories alone. -/
  onlyDirectories : Bool
  deriving Repr

/-- What is wrong with a line of an ignore file. -/
inductive LineFault where
  /-- The line could not be read. -/
  | unreadable (fault : Fault)
  /-- The line holds no pattern. -/
  | pattern (text : Text) (kind : Glob.ErrorKind)
  deriving DecidableEq, Repr

/-- The text of what is wrong with a line. -/
def LineFault.message : LineFault → Text
  | .unreadable fault => fault.message
  | .pattern text kind => kind.messageIn text

/-- Whether a line could not be read. -/
def LineFault.isUnreadable : LineFault → Bool
  | .unreadable _ => true
  | .pattern _ _ => false

/-- Drops the sign in front of a rule: whether the rule keeps, whether it is bound to the directory
of its file, and the rest. A backslash takes an exclamation mark or a number sign as it is. -/
def dropSign : Text → Bool × Bool × Text
  | '\\' :: '!' :: rest => (false, false, '!' :: rest)
  | '\\' :: '#' :: rest => (false, false, '#' :: rest)
  | '!' :: '/' :: rest => (true, true, rest)
  | '!' :: rest => (true, false, rest)
  | '/' :: rest => (false, true, rest)
  | rest => (false, false, rest)

/-- Drops the slash that ends a rule about directories alone, together with a backslash before
it. -/
def dropFinalSlash (text : Text) : Bool × Text :=
  if text.getLast? = some '/' then (true, Text.dropFinal '\\' text.dropLast) else (false, text)

/-- The pattern of a rule in full. One without a slash matches at any depth. One that ends in two
stars matches what is inside of a directory, but not the directory. -/
def widen (bound : Bool) (text : Text) : Text :=
  let deep := "**/".toList
  let text :=
    if bound ∨ text.contains '/' ∨ deep.isPrefixOf text ∨ text = "**".toList then text
    else deep ++ text
  if "/**".toList.isSuffixOf text then text ++ "/*".toList else text

/-- The rule of a line, if it holds one: blank lines and comments do not. White space at the end
counts only after a backslash. -/
def Rule.ofLine? (line : Text) : Option (Except LineFault Rule) :=
  let line := if "\\ ".toList.isSuffixOf line then line else line.trimEnd
  if line.head? = some '#' ∨ line = [] then none
  else
    let (keeps, bound, text) := dropSign line
    let (onlyDirectories, text) := dropFinalSlash text
    match Glob.parseWithin (widen bound text) with
    | .ok pattern => some (.ok { pattern, keeps, onlyDirectories })
    | .error kind => some (.error (.pattern line kind))

/-- An ignore file that has been read. -/
structure RuleFile where
  /-- The path of the file. -/
  path : Path
  /-- The rules, in order. -/
  rules : List Rule := []
  /-- The lines that are no rules, by number. -/
  faults : List (Nat × LineFault) := []
  deriving Repr

namespace RuleFile

/-- Adds a line to a file that has been read so far. Nothing is added once a line could not be
read. -/
def addLine (file : RuleFile) (number : Nat) (line : List UInt8) : RuleFile :=
  if file.faults.any (·.2.isUnreadable) then file
  else
    match Utf8.decode? line with
    | none => { file with faults := file.faults ++ [(number, .unreadable .notUtf8)] }
    | some text =>
      let text := if number = 1 then text.dropWhile (· = '\uFEFF') else text
      match Rule.ofLine? text with
      | none => file
      | some (.ok rule) => { file with rules := file.rules ++ [rule] }
      | some (.error fault) => { file with faults := file.faults ++ [(number, fault)] }

/-- Reads the lines of an ignore file. A byte order mark in front of the first line does not
count. -/
def ofLines (path : Path) (lines : List (List UInt8)) : RuleFile :=
  (lines.zipIdx 1).foldl (fun file (line, number) => file.addLine number line) { path }

/-- What a file says about a path below its directory: whether it is hidden, or nothing. -/
def hides? (file : RuleFile) (relative : Text) (isDirectory : Bool) : Option Bool :=
  (file.rules.reverse.find? fun rule =>
    (!rule.onlyDirectories || isDirectory) && rule.pattern.isMatch relative).map fun rule =>
      !rule.keeps

/-- The texts of all that is wrong with a file, unless that is only that it could not be read. -/
def complaints (file : RuleFile) : List Text :=
  match file.faults with
  | [(_, .unreadable _)] => []
  | faults => faults.map fun (number, fault) =>
    file.path.text ++ ": line ".toList ++ Text.decimal number ++ ": ".toList ++ fault.message

end RuleFile

end Splice.Ignore
