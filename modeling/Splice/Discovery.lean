import Splice.Disk.Walk

/-!
# Discovery

Finding the files to parse below a directory by glob patterns. Of what a walk finds, the files stay
whose path below the root matches an include pattern and no exclude pattern; nothing of a
repository's own directory stays. They are put in the order of paths.
-/

namespace Splice

/-- A pattern that could not be read. -/
structure PatternError where
  /-- The pattern. -/
  pattern : Text
  /-- What is wrong with it. -/
  kind : Glob.ErrorKind
  deriving DecidableEq, Repr

namespace PatternError

/-- The pattern that is wrong. -/
def message (error : PatternError) : Text :=
  "Invalid glob pattern: ".toList ++ error.pattern

/-- The pattern that is wrong, and why. -/
def fullMessage (error : PatternError) : Text :=
  error.message ++ ": ".toList ++ error.kind.messageIn error.pattern

end PatternError

/-- Why no files were looked for. -/
inductive SearchError where
  /-- There is no current directory to look below. -/
  | nowhere (fault : Fault)
  /-- A pattern could not be read. -/
  | pattern (error : PatternError)
  deriving DecidableEq, Repr

/-- What could not be done, and why. -/
def SearchError.fullMessage : SearchError → Text
  | .nowhere fault => "Failed to get current directory: ".toList ++ fault.message
  | .pattern error => error.fullMessage

/-- What files to look for, and where. -/
structure Discovery where
  /-- The directory to look below. -/
  root : Path
  /-- Patterns for files that stay. -/
  included : List Glob.Pattern
  /-- Patterns for files that do not stay. -/
  excluded : List Glob.Pattern

namespace Discovery

/-- Reads patterns, up to the first that is wrong. -/
def readPatterns : List Text → Except PatternError (List Glob.Pattern)
  | [] => .ok []
  | text :: rest =>
    match Glob.parse text with
    | .error kind => .error ⟨text, kind⟩
    | .ok pattern =>
      match readPatterns rest with
      | .error error => .error error
      | .ok patterns => .ok (pattern :: patterns)

/-- A search below a directory, from the texts of its patterns. -/
def ofTexts (root : Path) (included excluded : List Text) : Except PatternError Discovery :=
  match readPatterns included with
  | .error error => .error error
  | .ok included =>
    match readPatterns excluded with
    | .error error => .error error
    | .ok excluded => .ok { root, included, excluded }

/-- Whether a path lies in a repository's own directory. -/
def isPrivate (path : Path) : Bool :=
  path.components.contains (.name Ignore.repositoryName)

/-- Whether an entry is a file that stays. -/
def selects (discovery : Discovery) (path : Path) (leadsToDirectory : Bool) : Bool :=
  let relative := (discovery.root.relativeTo path).text
  !(path.sameAs discovery.root) && !leadsToDirectory && !isPrivate path
    && !discovery.excluded.any (·.isMatch relative) && discovery.included.any (·.isMatch relative)

/-- The path of a finding, if it is a file that stays. -/
def selected? (discovery : Discovery) : Finding → Option Path
  | .entry path leadsToDirectory =>
    if discovery.selects path leadsToDirectory then some path else none
  | .fault _ => none

/-- The files that stay of what a walk found, in order. -/
def files (discovery : Discovery) (findings : List Finding) : List Path :=
  (findings.filterMap discovery.selected?).mergeSort fun left right => !right.precedes left

/-- What went wrong in a walk, for the log. -/
def warnings (findings : List Finding) : List Text :=
  findings.filterMap fun
    | .entry .. => none
    | .fault message => some ("Error walking entry: ".toList ++ message)

end Discovery

end Splice
