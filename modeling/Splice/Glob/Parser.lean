import Splice.Glob.Pattern

/-!
# Reading glob patterns

How the text of a pattern becomes tokens, and what can be wrong with it. Two stars are special only
as a whole component of a path; braces may be nested; a backslash takes the next character as it
is. An opening bracket without its end is an error, or, where the caller wishes, an ordinary
character, as are all the brackets after it.
-/

namespace Splice.Glob

/-- What can be wrong with a pattern. -/
inductive ErrorKind where
  /-- A class without its closing bracket. -/
  | unclosedClass
  /-- A range in a class that runs backwards. -/
  | invalidRange (first last : Char)
  /-- A closing brace without an opening one. -/
  | unopenedAlternatives
  /-- An opening brace without a closing one. -/
  | unclosedAlternatives
  /-- A backslash at the end. -/
  | danglingEscape
  deriving DecidableEq, Repr

/-- The text of an error in a pattern. -/
def ErrorKind.message : ErrorKind → Text
  | .unclosedClass => "unclosed character class; missing ']'".toList
  | .invalidRange first last =>
    "invalid range; '".toList ++ [first] ++ "' > '".toList ++ [last] ++ "'".toList
  | .unopenedAlternatives =>
    "unopened alternate group; missing '\x7b' (maybe escape '\x7d' with '[\x7d]'?)".toList
  | .unclosedAlternatives =>
    "unclosed alternate group; missing '\x7d' (maybe escape '\x7b' with '[\x7b]'?)".toList
  | .danglingEscape => "dangling '\\'".toList

/-- The text of an error together with the pattern. -/
def ErrorKind.messageIn (kind : ErrorKind) (pattern : Text) : Text :=
  "error parsing glob '".toList ++ pattern ++ "': ".toList ++ kind.message

/-- How a class in brackets reads. -/
inductive ClassReading where
  /-- The class is closed; the text after it is left. -/
  | closed (ranges : List (Char × Char)) (rest : List Char)
  /-- The text ends before the class does. -/
  | unclosed
  /-- A range runs backwards. -/
  | backwards (first last : Char)

/-- Reads the members of a class. `ranges` are those read so far, the latest first; `inRange` says
that a hyphen waits for the end of the latest. A closing bracket or a hyphen that comes first
stands for itself, and so does a hyphen before the end. -/
def readClass (first inRange : Bool) (ranges : List (Char × Char)) : List Char → ClassReading
  | [] => .unclosed
  | c :: rest =>
    if c = ']' ∧ first = false then
      .closed (ranges.reverse ++ if inRange then [('-', '-')] else []) rest
    else if c = '-' ∧ first = false ∧ inRange = false then
      readClass false true ranges rest
    else
      match inRange, ranges with
      | true, (start, _) :: earlier =>
        if c < start then .backwards start c
        else readClass false false ((start, c) :: earlier) rest
      | _, _ => readClass false false ((c, c) :: ranges) rest

/-- Whether a class is negated, and the text of its members. -/
def classSign : List Char → Bool × List Char
  | '!' :: rest => (true, rest)
  | '^' :: rest => (true, rest)
  | rest => (false, rest)

/-- A pattern that has been read in part. Tokens and branches are kept with the latest first. -/
structure Reading where
  /-- The tokens of the branch that is being read. -/
  branch : List Token := []
  /-- The open groups, the innermost first: the branches that are complete, and the tokens before
  the group. -/
  groups : List (List (List Token) × List Token) := []
  /-- The character before the next one. -/
  previous : Option Char := none
  /-- Whether brackets are ordinary from here on, since one was found without its end. -/
  plainBrackets : Bool := false

namespace Reading

/-- Adds a token to the branch. -/
def push (reading : Reading) (token : Token) : Reading :=
  { reading with branch := token :: reading.branch }

/-- The reading after a character. -/
def past (reading : Reading) (c : Char) : Reading :=
  { reading with previous := some c }

/-- Adds two stars that have nothing special about them. -/
def pushTwoStars (reading : Reading) : Reading :=
  ((reading.push .star).push .star).past '*'

/-- Puts the token for two stars in place of the slash or the separator before them. -/
def spread (reading : Reading) (token : Token) : Reading :=
  match reading.branch with
  | .anyAbove :: _ | .anyBelow :: _ => reading
  | _ :: earlier => { reading with branch := token :: earlier }
  | [] => reading.push token

/-- Reads two stars; `next` is what follows them. The answer says whether a slash after them is
taken as well. -/
def twoStars (reading : Reading) (next : List Char) : Reading × Bool :=
  let whole := next.head?.all (· == '/')
  if reading.branch.isEmpty then
    if whole then ((reading.push .anyAbove).past (next.head?.getD '*'), true)
    else (reading.pushTwoStars, false)
  else
    let afterSeparator := reading.previous == some '/'
      || (!reading.groups.isEmpty
        && (reading.previous == some ',' || reading.previous == some '\x7b'))
    let endsBranch :=
      !reading.groups.isEmpty && (next.head? == some ',' || next.head? == some '\x7d')
    if !afterSeparator then (reading.pushTwoStars, false)
    else if next.isEmpty || endsBranch then ((reading.spread .anyBelow).past '*', false)
    else if whole then ((reading.spread .anyBetween).past '/', true)
    else (reading.pushTwoStars, false)

/-- Closes the innermost group. -/
def closeGroup (reading : Reading) : Option Reading :=
  match reading.groups with
  | [] => none
  | (branches, before) :: outer =>
    some { reading with
      branch := .alternatives ((reading.branch.reverse :: branches).reverse) :: before
      groups := outer }

/-- Reads a comma: a new branch inside of a group, an ordinary character outside of one. -/
def comma (reading : Reading) : Reading :=
  match reading.groups with
  | [] => reading.push (.literal ',')
  | (branches, before) :: outer =>
    { reading with branch := [], groups := (reading.branch.reverse :: branches, before) :: outer }

/-- Opens a group. -/
def openGroup (reading : Reading) : Reading :=
  { reading with branch := [], groups := ([], reading.branch) :: reading.groups }

end Reading

/-- What is left after a class is shorter than what the class was read from. -/
theorem length_lt_of_readClass {first inRange : Bool} {ranges result : List (Char × Char)}
    {text rest : List Char} (closed : readClass first inRange ranges text = .closed result rest) :
    rest.length < text.length := by
  fun_induction readClass first inRange ranges text with
  | case1 => cases closed
  | case2 =>
    cases closed
    simp
  | case4 => cases closed
  | case3 | case5 | case6 => grind

/-- The text of the members of a class is no longer than the class. -/
theorem length_classSign_le (text : List Char) : (classSign text).2.length ≤ text.length := by
  unfold classSign
  split <;> simp

/-- Reads the rest of a pattern. -/
def readTokens (plainUnclosed : Bool) (reading : Reading) (text : List Char) :
    Except ErrorKind (List Token) :=
  match text with
  | [] =>
    if reading.groups.isEmpty then .ok reading.branch.reverse else .error .unclosedAlternatives
  | '\\' :: rest =>
    match rest with
    | [] => .error .danglingEscape
    | c :: rest => readTokens plainUnclosed ((reading.push (.literal c)).past c) rest
  | '?' :: rest => readTokens plainUnclosed ((reading.push .any).past '?') rest
  | '*' :: rest =>
    match rest with
    | '*' :: next =>
      match reading.twoStars next with
      | (reading, true) => readTokens plainUnclosed reading next.tail
      | (reading, false) => readTokens plainUnclosed reading next
    | rest => readTokens plainUnclosed ((reading.push .star).past '*') rest
  | '\x7b' :: rest => readTokens plainUnclosed (reading.openGroup.past '\x7b') rest
  | '\x7d' :: rest =>
    match reading.closeGroup with
    | none => .error .unopenedAlternatives
    | some reading => readTokens plainUnclosed (reading.past '\x7d') rest
  | ',' :: rest => readTokens plainUnclosed (reading.comma.past ',') rest
  | '[' :: rest =>
    if reading.plainBrackets then
      readTokens plainUnclosed ((reading.push (.literal '[')).past '[') rest
    else
      match closed : readClass true false [] (classSign rest).2 with
      | .closed ranges rest' =>
        have : rest'.length < rest.length :=
          Nat.lt_of_lt_of_le (length_lt_of_readClass closed) (length_classSign_le rest)
        readTokens plainUnclosed ((reading.push (.oneOf (classSign rest).1 ranges)).past ']') rest'
      | .backwards first last => .error (.invalidRange first last)
      | .unclosed =>
        if plainUnclosed then
          readTokens plainUnclosed
            { (reading.push (.literal '[')).past '[' with plainBrackets := true } rest
        else .error .unclosedClass
  | c :: rest => readTokens plainUnclosed ((reading.push (.literal c)).past c) rest
termination_by text.length
decreasing_by all_goals simp_all <;> omega

/-- Reads a pattern whose wildcards also stand for slashes. -/
def parse (text : Text) : Except ErrorKind Pattern :=
  (readTokens false {} text).map (Pattern.ofTokens true)

/-- Reads a pattern whose wildcards stop at slashes, and in which a bracket without its end is an
ordinary character. -/
def parseWithin (text : Text) : Except ErrorKind Pattern :=
  (readTokens true {} text).map (Pattern.ofTokens false)

end Splice.Glob
