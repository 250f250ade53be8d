import Splice.Path

/-!
# Provenance

Where a line comes from. A location is a line of a file together with how the file was reached; a
chain holds the include directives that are being followed, outermost first. A chain is never
changed: following a directive makes a longer one, so sibling includes see only their own
ancestors.
-/

namespace Splice

/-- What a file is known by, however it is spelled: the components of its canonical path. -/
abbrev Identity := List Component

/-- A line of a file. -/
structure Location where
  /-- The file. -/
  source : Path
  /-- The number of the line, from one; zero before the first line. -/
  line : Nat := 0
  /-- How the file was reached. -/
  note : Text := []
  /-- The line as it stands in the file, where it was recorded. -/
  content : Option Text := none
  deriving DecidableEq, Repr

namespace Location

/-- The next line. What was recorded of the line before is forgotten. -/
def next (location : Location) : Location :=
  { location with line := location.line + 1, content := none }

/-- A location with the text of its line. -/
def withContent (location : Location) (content : Text) : Location :=
  { location with content := some content }

/-- The file and the line number. -/
def display (location : Location) : Text :=
  location.source.text ++ ':' :: Text.decimal location.line

end Location

/-- An include directive that is being followed. -/
structure Link where
  /-- The file that holds the directive. -/
  path : Path
  /-- The line of the directive. -/
  line : Nat
  /-- What that file is known by. -/
  identity : Identity
  deriving DecidableEq, Repr

namespace Link

/-- The file and the line number of the directive. -/
def display (link : Link) : Text :=
  link.path.text ++ ':' :: Text.decimal link.line

/-- Whether two links are of the same directive; the spelling of the path is left aside. -/
def sameAs (left right : Link) : Bool :=
  left.path.sameAs right.path && left.line == right.line && left.identity == right.identity

end Link

/-- The include directives that are being followed, outermost first. -/
structure Chain where
  /-- The directives. -/
  links : List Link := []
  deriving DecidableEq, Repr

namespace Chain

/-- The identities of the files whose directives are being followed. -/
def identities (chain : Chain) : List Identity :=
  chain.links.map Link.identity

/-- The chain after following the directive at a location. -/
def extended (chain : Chain) (location : Location) (identity : Identity) : Chain :=
  ⟨chain.links ++ [⟨location.source, location.line, identity⟩]⟩

/-- The directive being followed in the file of the given identity. -/
def find? (chain : Chain) (identity : Identity) : Option Link :=
  chain.links.find? fun link => link.identity = identity

/-- The directives in words. -/
def display (chain : Chain) : Text :=
  Text.join " : ".toList (chain.links.map fun link => "included from ".toList ++ link.display)

/-- Whether two chains follow the same directives. -/
def sameAs (left right : Chain) : Bool :=
  left.links.length == right.links.length
    && (left.links.zip right.links).all fun (one, other) => one.sameAs other

/-- Following a directive adds the identity of its file. -/
@[simp] theorem identities_extended (chain : Chain) (location : Location) (identity : Identity) :
    (chain.extended location identity).identities = chain.identities ++ [identity] := by
  simp [identities, extended]

/-- No directive is being followed in a file exactly when its identity is not in the chain. -/
theorem find?_eq_none_iff {chain : Chain} {identity : Identity} :
    chain.find? identity = none ↔ identity ∉ chain.identities := by
  simp [find?, identities]

end Chain

end Splice
