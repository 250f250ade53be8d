import Splice.Toml.Scalar

/-!
# TOML text

How a TOML document is written: white space and comments, the four kinds of strings, keys, values,
and the statements that a document is a list of. Every reader takes text and answers what it has
read with the text that is left, or nothing where the text is not well formed.
-/

namespace Splice.Toml

/-- A value. -/
inductive Value where
  /-- A string. -/
  | string (text : Text)
  /-- A value written as a word. -/
  | scalar (scalar : Scalar)
  /-- A list of values. -/
  | array (items : List Value)
  /-- A table between braces: its keys, each a path, with their values. -/
  | inline (entries : List (List Text × Value))
  deriving Repr

/-- A statement of a document. -/
inductive Statement where
  /-- A header: the statements that follow are about the table of this path. -/
  | table (path : List Text)
  /-- A header for one more table in the list of this path. -/
  | item (path : List Text)
  /-- A key with its value. -/
  | entry (path : List Text) (value : Value)
  deriving Repr

/-- A space or a tab. -/
def isSpace (c : Char) : Bool :=
  c == ' ' || c == '\t'

/-- A character that comments and literal strings may hold. -/
def isPlain (c : Char) : Bool :=
  c == '\t' || (' ' ≤ c && c ≠ '\x7f')

/-- The text after spaces and tabs. -/
def skipSpace (text : Text) : Text :=
  text.dropWhile isSpace

/-- The text after one newline. -/
def skipNewline? : Text → Option Text
  | '\n' :: rest => some rest
  | '\r' :: '\n' :: rest => some rest
  | _ => none

/-- The newline, or the end, that a comment leads to. -/
def endOfComment : Text → Option Text
  | [] => some []
  | '\n' :: rest => some ('\n' :: rest)
  | '\r' :: '\n' :: rest => some ('\r' :: '\n' :: rest)
  | c :: rest => if isPlain c then endOfComment rest else none

/-- The text after spaces and a comment, each of which may be missing. -/
def skipComment (text : Text) : Option Text :=
  match skipSpace text with
  | '#' :: rest => endOfComment rest
  | rest => some rest

/-- The text after spaces, comments and newlines, as far as `fuel` newlines go. -/
def skipLines (fuel : Nat) (text : Text) : Option Text :=
  match fuel, skipComment text with
  | fuel + 1, some rest =>
    match skipNewline? rest with
    | some next => skipLines fuel next
    | none => some rest
  | _, rest => rest

/-! ## Strings -/

/-- The character of a code point, unless it is a surrogate or beyond the last one. -/
def charOf? (code : Nat) : Option Char :=
  if code.isValidChar then some (Char.ofNat code) else none

/-- The character named by hexadecimal digits, and how many characters the escape has. -/
def numericEscape (count : Nat) (text : Text) : Option (Char × Nat) :=
  let digits := text.take count
  if digits.length = count ∧ digits.all isHexDigit then
    (charOf? (digitsValue 16 digits)).map fun c => (c, count + 1)
  else none

/-- The character that an escape stands for, and how many characters after the backslash it
has. -/
def escape : Text → Option (Char × Nat)
  | '"' :: _ => some ('"', 1)
  | '\\' :: _ => some ('\\', 1)
  | 'b' :: _ => some ('\x08', 1)
  | 't' :: _ => some ('\t', 1)
  | 'n' :: _ => some ('\n', 1)
  | 'f' :: _ => some ('\x0c', 1)
  | 'r' :: _ => some ('\r', 1)
  | 'e' :: _ => some ('\x1b', 1)
  | 'x' :: rest => numericEscape 2 rest
  | 'u' :: rest => numericEscape 4 rest
  | 'U' :: rest => numericEscape 8 rest
  | _ => none

/-- Reads a string with escapes up to the quote that ends it. -/
def basicString (text : Text) : Option (Text × Text) :=
  match text with
  | [] => none
  | '"' :: rest => some ([], rest)
  | '\\' :: rest =>
    match escape rest with
    | none => none
    | some (c, count) => (basicString (rest.drop count)).map fun (read, rest) => (c :: read, rest)
  | c :: rest =>
    if isPlain c then (basicString rest).map fun (read, rest) => (c :: read, rest) else none
termination_by text.length
decreasing_by all_goals grind

/-- Reads a string without escapes up to the quote that ends it. -/
def literalString : Text → Option (Text × Text)
  | [] => none
  | c :: rest =>
    if c = '\'' then some ([], rest)
    else if isPlain c then (literalString rest).map fun (read, rest) => (c :: read, rest)
    else none

/-- The quotes that start a text, when three of them end a string: at most two belong to the
string. -/
def closingQuotes (quote : Char) (text : Text) : Option (Text × Text) :=
  let count := min 5 (text.takeWhile (· = quote)).length
  if 3 ≤ count then some (List.replicate (count - 3) quote, text.drop count) else none

/-- A backslash that ends a line, with the white space and the newlines after it. -/
def lineContinuation? (text : Text) : Option Text :=
  match skipNewline? (skipSpace text) with
  | none => none
  | some rest => some (rest.dropWhile fun c => isSpace c || c == '\n' || c == '\r')

/-- Nothing is added by skipping a newline. -/
theorem length_le_of_skipNewline? {text rest : Text} (skipped : skipNewline? text = some rest) :
    rest.length ≤ text.length := by
  unfold skipNewline? at skipped
  split at skipped <;> grind

/-- Nothing is added by continuing a line. -/
theorem length_le_of_lineContinuation? {text rest : Text}
    (continued : lineContinuation? text = some rest) : rest.length ≤ text.length := by
  unfold lineContinuation? at continued
  split at continued
  · cases continued
  · next after skipped =>
    cases continued
    have first := length_le_of_skipNewline? skipped
    have spaces := (List.dropWhile_sublist isSpace (l := text)).length_le
    have rest := (List.dropWhile_sublist
      (fun c => isSpace c || c == '\n' || c == '\r') (l := after)).length_le
    exact Nat.le_trans rest (Nat.le_trans first spaces)

/-- Reads a string of several lines with escapes up to the three quotes that end it. -/
def basicLines (text : Text) : Option (Text × Text) :=
  match closingQuotes '"' text with
  | some ended => some ended
  | none =>
    match text with
    | [] => none
    | '\\' :: rest =>
      match continued : lineContinuation? rest with
      | some next =>
        have := length_le_of_lineContinuation? continued
        basicLines next
      | none =>
        match escape rest with
        | none => none
        | some (c, count) =>
          (basicLines (rest.drop count)).map fun (read, rest) => (c :: read, rest)
    | '\r' :: '\n' :: rest =>
      (basicLines rest).map fun (read, rest) => ('\r' :: '\n' :: read, rest)
    | c :: rest =>
      if isPlain c ∨ c = '\n' then
        (basicLines rest).map fun (read, rest) => (c :: read, rest)
      else none
termination_by text.length
decreasing_by all_goals grind

/-- Reads a string of several lines without escapes up to the three quotes that end it. -/
def literalLines (text : Text) : Option (Text × Text) :=
  match closingQuotes '\'' text with
  | some ended => some ended
  | none =>
    match text with
    | [] => none
    | '\r' :: '\n' :: rest =>
      (literalLines rest).map fun (read, rest) => ('\r' :: '\n' :: read, rest)
    | c :: rest =>
      if isPlain c ∨ c = '\n' then
        (literalLines rest).map fun (read, rest) => (c :: read, rest)
      else none
termination_by text.length
decreasing_by all_goals grind

/-- Reads a string of one line, if the text starts with a quote. -/
def quotedString? : Text → Option (Option (Text × Text))
  | '"' :: rest => some (basicString rest)
  | '\'' :: rest => some (literalString rest)
  | _ => none

/-- Reads a string of one or several lines, if the text starts with a quote. A newline right after
three quotes does not count. -/
def anyString? (text : Text) : Option (Option (Text × Text)) :=
  let afterNewline (text : Text) : Text := (skipNewline? text).getD text
  match text with
  | '"' :: '"' :: '"' :: rest => some (basicLines (afterNewline rest))
  | '\'' :: '\'' :: '\'' :: rest => some (literalLines (afterNewline rest))
  | text => quotedString? text

/-! ## Keys -/

/-- A character of a key without quotes. -/
def isBare (c : Char) : Bool :=
  c.isAlphanum || c == '_' || c == '-'

/-- Reads one key. -/
def simpleKey (text : Text) : Option (Text × Text) :=
  match quotedString? text with
  | some quoted => quoted
  | none =>
    let key := text.takeWhile isBare
    if key = [] then none else some (key, text.drop key.length)

/-- Reads keys with dots between them, at most `fuel` of them. -/
def dottedKey (fuel : Nat) (text : Text) : Option (List Text × Text) :=
  match fuel with
  | 0 => none
  | fuel + 1 => do
    let (key, rest) ← simpleKey text
    match skipSpace rest with
    | '.' :: more => do
      let (keys, rest) ← dottedKey fuel (skipSpace more)
      some (key :: keys, rest)
    | _ => some ([key], rest)

/-! ## Values -/

/-- A character that may stand in a word. -/
def isWordChar (c : Char) : Bool :=
  c.isAlphanum || c == '_' || c == '-' || c == '+' || c == '.' || c == ':'

/-- Reads a value written as a word. A date may be followed by a space and a time. -/
def scalar (text : Text) : Option (Scalar × Text) := do
  let word := text.takeWhile isWordChar
  let rest := text.drop word.length
  let time := rest.tail.takeWhile isWordChar
  if readDate word = some [] ∧ rest.head? = some ' ' ∧ time.head?.any Char.isDigit then
    let scalar ← Scalar.ofWord? (word ++ ' ' :: time)
    some (scalar, rest.drop (time.length + 1))
  else
    let scalar ← Scalar.ofWord? word
    some (scalar, rest)

/-- How deep values may be nested. -/
def maxDepth : Nat := 80

mutual

/-- Reads a value that may be nested `depth` deep. The fuel has to exceed the length of the text
by far enough; the length twice is. -/
def value (fuel depth : Nat) (text : Text) : Option (Value × Text) :=
  match fuel with
  | 0 => none
  | fuel + 1 =>
    match anyString? text with
    | some quoted => quoted.map fun (read, rest) => (.string read, rest)
    | none =>
      match text, depth with
      | '[' :: rest, depth + 1 =>
        (arrayItems fuel depth rest).map fun (items, rest) => (.array items, rest)
      | '\x7b' :: rest, depth + 1 =>
        (inlineEntries fuel depth rest).map fun (entries, rest) => (.inline entries, rest)
      | text, _ => (scalar text).map fun (read, rest) => (.scalar read, rest)

/-- Reads the items of an array up to its end. A comma may follow the last one. -/
def arrayItems (fuel depth : Nat) (text : Text) : Option (List Value × Text) :=
  match fuel with
  | 0 => none
  | fuel + 1 =>
    match skipLines text.length text with
    | none => none
    | some (']' :: rest) => some ([], rest)
    | some text =>
      match value fuel depth text with
      | none => none
      | some (item, rest) =>
        match skipLines rest.length rest with
        | some (',' :: rest) =>
          (arrayItems fuel depth rest).map fun (items, rest) => (item :: items, rest)
        | some (']' :: rest) => some ([item], rest)
        | _ => none

/-- Reads the entries of a table between braces up to its end. A comma may follow the last one. -/
def inlineEntries (fuel depth : Nat) (text : Text) : Option (List (List Text × Value) × Text) :=
  match fuel with
  | 0 => none
  | fuel + 1 =>
    match skipLines text.length text with
    | none => none
    | some ('\x7d' :: rest) => some ([], rest)
    | some text =>
      match entry fuel depth text with
      | none => none
      | some (item, rest) =>
        match skipLines rest.length rest with
        | some (',' :: rest) =>
          (inlineEntries fuel depth rest).map fun (items, rest) => (item :: items, rest)
        | some ('\x7d' :: rest) => some ([item], rest)
        | _ => none

/-- Reads a key, an equals sign, and a value. -/
def entry (fuel depth : Nat) (text : Text) : Option ((List Text × Value) × Text) :=
  match fuel with
  | 0 => none
  | fuel + 1 =>
    match dottedKey text.length text with
    | none => none
    | some (path, rest) =>
      match skipSpace rest with
      | '=' :: rest =>
        (value fuel depth (skipSpace rest)).map fun (read, rest) => ((path, read), rest)
      | _ => none

end

/-! ## Documents -/

/-- Reads a path in brackets up to `close`. -/
def header (close text : Text) : Option (List Text × Text) := do
  let text := skipSpace text
  let (path, rest) ← dottedKey text.length text
  let rest ← close.isPrefixOf? (skipSpace rest)
  some (path, rest)

/-- Reads a statement. -/
def statement (text : Text) : Option (Statement × Text) :=
  match text with
  | '[' :: '[' :: rest => (header "]]".toList rest).map fun (path, rest) => (.item path, rest)
  | '[' :: rest => (header "]".toList rest).map fun (path, rest) => (.table path, rest)
  | text =>
    (entry (2 * text.length + 2) maxDepth text).map fun ((path, value), rest) =>
      (.entry path value, rest)

/-- Reads the statements of at most `fuel` lines. -/
def statements (fuel : Nat) (text : Text) : Option (List Statement) :=
  match fuel with
  | 0 => none
  | fuel + 1 =>
    match skipLines text.length text with
    | none => none
    | some [] => some []
    | some text =>
      match statement text with
      | none => none
      | some (read, rest) =>
        match skipComment rest with
        | none => none
        | some [] => some [read]
        | some rest =>
          match skipNewline? rest with
          | none => none
          | some rest => (statements fuel rest).map (read :: ·)

/-- The statements of a document, which may start with a byte order mark. -/
def readDocument (text : Text) : Option (List Statement) :=
  let text := (['\uFEFF'].isPrefixOf? text).getD text
  statements (text.length + 1) text

end Splice.Toml
