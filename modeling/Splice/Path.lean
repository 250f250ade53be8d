import Splice.Text

/-!
# Paths

A path is the text that names a file, read as components: the root, the current directory where a
relative path starts with it, the parent directory, and names. The text is kept because answers
show it; two paths are the same file name when their components agree. Nothing here looks at a file
system.
-/

namespace Splice

/-- One step of a path. -/
inductive Component where
  /-- The root directory, at the start of an absolute path. -/
  | root
  /-- The current directory, at the start of a relative path. -/
  | here
  /-- The parent directory. -/
  | up
  /-- An entry of a directory. -/
  | name (text : Text)
  deriving DecidableEq, Repr

namespace Component

/-- The written form. The root's own text is empty: the slash that follows it shows it. -/
def text : Component → Text
  | .root => []
  | .here => ['.']
  | .up => ['.', '.']
  | .name text => text

/-- What a piece of a path between slashes stands for. Empty pieces and single dots stand for
nothing. -/
def ofPiece? (piece : Text) : Option Component :=
  if piece = [] ∨ piece = ['.'] then none
  else if piece = ['.', '.'] then some .up
  else some (.name piece)

/-- The place of each kind of component in the order of paths. -/
def rank : Component → Nat
  | .root => 0
  | .here => 1
  | .up => 2
  | .name _ => 3

/-- Whether the first component sorts before the second: by kind, and names by their
characters. -/
def precedes : Component → Component → Bool
  | .name left, .name right => left.precedes right
  | left, right => left.rank < right.rank

end Component

/-- A path, by its text. -/
structure Path where
  /-- The path as written. -/
  text : Text
  deriving DecidableEq, Repr

namespace Path

/-- Whether the path starts at the root. -/
def isAbsolute (path : Path) : Bool :=
  path.text.head? == some '/'

/-- The components of a path. Repeated slashes, a final slash, and single dots other than one in
front of a relative path leave no trace. -/
def components (path : Path) : List Component :=
  let pieces := Text.split '/' path.text
  let steps := pieces.filterMap Component.ofPiece?
  if path.isAbsolute then .root :: steps
  else if pieces.head? = some ['.'] then .here :: steps
  else steps

/-- The path that spells the given components with single slashes. -/
def ofComponents : List Component → Path
  | .root :: rest => ⟨'/' :: Text.join ['/'] (rest.map Component.text)⟩
  | steps => ⟨Text.join ['/'] (steps.map Component.text)⟩

/-- Whether two paths have the same components. -/
def sameAs (left right : Path) : Bool :=
  left.components == right.components

/-- `path` read from the directory `base`. An absolute path stays itself. -/
def joined (base path : Path) : Path :=
  if path.isAbsolute then path
  else if base.text = [] ∨ base.text.getLast? = some '/' then ⟨base.text ++ path.text⟩
  else ⟨base.text ++ '/' :: path.text⟩

/-- The path without its last component; the root and the empty path have none to drop. -/
def parent? (path : Path) : Option Path :=
  match path.components.getLast? with
  | none | some .root => none
  | some _ => some (ofComponents path.components.dropLast)

/-- The last component, where it is a name. -/
def fileName? (path : Path) : Option Text :=
  match path.components.getLast? with
  | some (.name text) => some text
  | _ => none

/-- Whether components sort before others: the first difference decides, and a path sorts before
those it leads to. -/
def componentsPrecede : List Component → List Component → Bool
  | _, [] => false
  | [], _ :: _ => true
  | left :: lefts, right :: rights =>
    left.precedes right || (left == right && componentsPrecede lefts rights)

/-- The order of paths, component by component. -/
def precedes (left right : Path) : Bool :=
  componentsPrecede left.components right.components

/-- What leads from one list of components to another: what they share is dropped, and each
further step of the start is undone first. -/
def stepsFrom : List Component → List Component → List Component
  | base :: bases, step :: steps =>
    if base = step then stepsFrom bases steps
    else List.replicate (bases.length + 1) .up ++ step :: steps
  | bases, steps => List.replicate bases.length .up ++ steps

/-- `path` as seen from `base`, where both are absolute or both are relative. -/
def relativeTo (base path : Path) : Path :=
  ofComponents (stepsFrom base.components path.components)

end Path

end Splice
