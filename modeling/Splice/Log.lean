import Splice.Text

/-!
# The log

Messages with a level and the part of the program they come from, and which of them are shown. A
filter is a list of directives: each sets the level for the parts whose names start with its own,
and the longest name that fits decides. A filter may end in a text that every shown message has to
contain; it is searched for as it stands, and is no regular expression. Messages carry no time.
-/

namespace Splice.Log

/-- How important a message is, the most important first. -/
inductive Level where
  | error
  | warn
  | info
  | debug
  | trace
  deriving DecidableEq, Repr

namespace Level

/-- The name of a level. -/
def name : Level → Text
  | .error => "ERROR".toList
  | .warn => "WARN".toList
  | .info => "INFO".toList
  | .debug => "DEBUG".toList
  | .trace => "TRACE".toList

/-- How many levels are as important as this one, or more. -/
def rank : Level → Nat
  | .error => 1
  | .warn => 2
  | .info => 3
  | .debug => 4
  | .trace => 5

end Level

/-- A message. -/
structure Entry where
  /-- How important it is. -/
  level : Level
  /-- The part of the program that it comes from. -/
  origin : Text
  /-- What it says. -/
  text : Text
  deriving DecidableEq, Repr

/-- The line that shows a message. The lines of a longer message after the first are indented. The
time of the message, which stands in front of the level, is left out. -/
def Entry.line (entry : Entry) : Text :=
  let padding := List.replicate (5 - entry.level.name.length) ' '
  "[".toList ++ entry.level.name ++ padding ++ " ".toList ++ entry.origin ++ "] ".toList
    ++ Text.join "\n    ".toList (Text.split '\n' entry.text) ++ ['\n']

/-- Which messages of a part of the program are shown. -/
structure Directive where
  /-- What the names of the parts start with; without it the directive is about all parts. -/
  name : Option Text
  /-- Up to which rank messages are shown; none are when it is zero. -/
  rank : Nat
  deriving DecidableEq, Repr

/-- Which messages are shown. -/
structure Filter where
  /-- The directives. -/
  directives : List Directive
  /-- What every message that is shown contains, taken as it is: characters that stand for more than
  themselves in a regular expression stand for themselves here. -/
  containing : Option Text := none
  deriving DecidableEq, Repr

namespace Filter

/-- The rank that the name of a level stands for; letters of both cases are alike. -/
def rank? (name : Text) : Option Nat :=
  let upper := name.map Char.toUpper
  if upper = "OFF".toList then some 0
  else ([.error, .warn, .info, .debug, .trace].find? fun level : Level => level.name = upper).map
    Level.rank

/-- Reads a directive, or says what is wrong with it. -/
def readDirective (text : Text) : Except Text Directive :=
  let invalid (text : Text) : Text := "invalid logging spec '".toList ++ text ++ ['\'']
  match Text.split '=' text with
  | [single] =>
    match rank? single with
    | some rank => .ok ⟨none, rank⟩
    | none => .ok ⟨some single, Level.trace.rank⟩
  | [name, level] =>
    let level := Text.trim level
    if level = [] then .ok ⟨some name, Level.trace.rank⟩
    else
      match rank? level with
      | some rank => .ok ⟨some name, rank⟩
      | none => .error (invalid level)
  | _ => .error (invalid text)

/-- Adds a directive, in place of an earlier one for the same parts. -/
def add (directives : List Directive) (directive : Directive) : List Directive :=
  if directives.any (·.name = directive.name) then
    directives.map fun earlier => if earlier.name = directive.name then directive else earlier
  else directives ++ [directive]

/-- Reads a filter: directives between commas, and after a slash what messages have to contain.
Without a directive only errors are shown. Answers also what is wrong with it. -/
def read (text : Text) : Filter × List Text :=
  let errorsOnly : Directive := ⟨none, Level.error.rank⟩
  match Text.split '/' text with
  | _ :: _ :: _ :: _ =>
    (⟨[errorsOnly], none⟩, ["invalid logging spec '".toList ++ text ++ "' (too many '/'s)".toList])
  | parts =>
    let words := ((Text.split ',' (parts.head?.getD [])).map Text.trim).filter (· ≠ [])
    let readings := words.map readDirective
    let directives := readings.filterMap Except.toOption
    let complaints := readings.filterMap fun
      | .ok _ => none
      | .error complaint => some complaint
    let directives := directives.foldl add []
    (⟨if directives = [] then [errorsOnly] else directives, parts[1]?⟩, complaints)

/-- The filter when none is set: warnings and errors are shown. -/
def standard : Filter :=
  ⟨[⟨none, Level.warn.rank⟩], none⟩

/-- How closely a directive fits a part of the program, if it does. -/
def closeness? (origin : Text) (directive : Directive) : Option Nat :=
  match directive.name with
  | none => some 0
  | some name => if name.isPrefixOf origin then some name.length else none

/-- The rank up to which messages of a part of the program are shown. Of directives that fit
equally well the last decides. -/
def rankFor (filter : Filter) (origin : Text) : Nat :=
  (filter.directives.foldl (fun (best : Nat × Nat) directive =>
    match closeness? origin directive with
    | some closeness => if best.1 ≤ closeness then (closeness, directive.rank) else best
    | none => best) (0, 0)).2

/-- Whether a text contains another one. -/
def contains (text inner : Text) : Bool :=
  match text with
  | [] => inner.isEmpty
  | c :: rest => inner.isPrefixOf (c :: rest) || contains rest inner

/-- Whether a message is shown. -/
def shows (filter : Filter) (entry : Entry) : Bool :=
  entry.level.rank ≤ filter.rankFor entry.origin
    && filter.containing.all fun inner => contains entry.text inner

/-- The lines of the messages that are shown. -/
def lines (filter : Filter) (entries : List Entry) : Text :=
  (entries.filter filter.shows).flatMap Entry.line

end Filter

end Splice.Log
