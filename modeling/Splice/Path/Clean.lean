import Splice.Path

/-!
# Clean paths

The lexical normal form of a path: no single dots, and no name followed by a step to the parent
directory. Above the root there is nothing, so a step up from it is dropped; a relative path keeps
the steps up that it starts with. Include targets are resolved here as well, against the directory
of the file that names them.
-/

namespace Splice.Path

/-- Adds one component to those kept so far, the latest first. -/
def keep (kept : List Component) : Component → List Component
  | .here => kept
  | .up =>
    match kept with
    | .name _ :: below => below
    | .root :: _ => kept
    | _ => .up :: kept
  | step => step :: kept

/-- The components that are left once dots and undone names are gone. -/
def cleanComponents (steps : List Component) : List Component :=
  (steps.foldl keep []).reverse

/-- The normal form of a path. A path that leads nowhere is the current directory. -/
def clean (path : Path) : Path :=
  match cleanComponents path.components with
  | [] => ⟨['.']⟩
  | steps => ofComponents steps

/-- The file that an include directive in the file `current` names: an absolute target stands for
itself, any other is read from the directory of `current`. -/
def includedFrom (current target : Path) : Path :=
  if target.isAbsolute then target.clean
  else (joined (current.parent?.getD ⟨[]⟩) target).clean

end Splice.Path
