import Splice.Home
import Splice.Provenance
import Splice.Text.Quoted

/-!
# Problems

What can go wrong in a parse. A problem never stops the parse: it is recorded, and costs at most
the file or the line that it names.
-/

namespace Splice

/-- Why a line was refused by what it was delivered to: an outermost cause, and what is behind
it. -/
structure Refusal where
  /-- The outermost cause. -/
  message : Text
  /-- The causes behind it, outermost first. -/
  reasons : List Text := []
  deriving DecidableEq, Repr

/-- All causes of a refusal, outermost first. -/
def Refusal.causes (refusal : Refusal) : List Text :=
  refusal.message :: refusal.reasons

/-- Something that went wrong in a parse. -/
inductive Problem where
  /-- The root name could not be turned into a path. -/
  | unexpanded (note : Text) (name : Text) (cause : HomeFault)
  /-- A directive names a file that is being expanded already. -/
  | loop (note : Text) (path : Path) (link : Link)
  /-- A file did not open. -/
  | unopened (note : Text) (path : Path) (cause : Fault)
  /-- A directive names no file. -/
  | nameless (location : Location)
  /-- A line was refused. -/
  | refused (location : Location) (cause : Refusal)
  /-- Reading a file failed at a line. -/
  | unreadable (location : Location) (cause : Fault)
  deriving DecidableEq, Repr

namespace Problem

/-- The line that a problem is about, where it is about one. -/
def location? : Problem → Option Location
  | .nameless location | .refused location _ | .unreadable location _ => some location
  | .unexpanded .. | .loop .. | .unopened .. => none

/-- How a problem with a line begins. -/
def atLine (location : Location) : Text :=
  location.note ++ ": ".toList ++ location.display ++ ": ".toList

/-- The text of a problem. -/
def message : Problem → Text
  | .unexpanded note name cause =>
    note ++ ": couldn't expand '".toList ++ name ++ "': ".toList ++ cause.message
  | .loop note path link =>
    note ++ ": loop found: '".toList ++ path.text ++ "' has been visited before: ".toList
      ++ link.display
  | .unopened note path cause =>
    note ++ ": couldn't open '".toList ++ path.text ++ "': ".toList ++ cause.message
  | .nameless location =>
    atLine location ++ "missing include file name: ".toList
      ++ Text.quoted (location.content.getD [])
  | .refused location cause => atLine location ++ cause.message
  | .unreadable location cause =>
    atLine location ++ "read failed: ".toList ++ cause.message

end Problem

end Splice
