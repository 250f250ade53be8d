import Splice.Disk

/-!
# Changing a disk

Writing and removing entries. Directories that are missing on the way are made, and writing a file
through a symbolic link writes to what the link leads to.
-/

namespace Splice.Disk

/-- Puts a node at a place, in place of what stood there. -/
def put (disk : Disk) (place : Place) (node : Node) : Disk :=
  ⟨(place, node) :: disk.nodes.filter fun entry => entry.1 ≠ place⟩

/-- One step of making directories: the place reached, and the directory made for it if nothing is
there. -/
def enter (state : Disk × Place) (step : Component) : Disk × Place :=
  let (disk, here) := state
  match step with
  | .root => (disk, [])
  | .here => (disk, here)
  | .up => (disk, here.dropLast)
  | .name name =>
    match disk.follow maxLinks here [name] with
    | .ok place => (disk, place)
    | .error _ => (disk.put (here ++ [name]) .directory, here ++ [name])

/-- Makes the directories that are missing on the way of `steps`, and answers the place they lead
to. -/
def makeDirectories (disk : Disk) (here : Place) (steps : List Component) : Disk × Place :=
  steps.foldl enter (disk, here)

/-- The place that a file written at `place` ends up at: links are followed, also to where nothing
is yet. -/
def writtenAt (disk : Disk) (links : Nat) (place : Place) : Place :=
  match links, disk.node? place with
  | links + 1, some (.link target) =>
    let steps := (Path.mk target).components
    match disk.follow maxLinks (startOf target place.dropLast)
        ((steps.filter (· ≠ .root)).dropLast.map Component.text), steps.getLast? with
    | .ok directory, some (.name name) => disk.writtenAt links (directory ++ [name])
    | _, _ => place
  | _, _ => place

/-- Writes a node at a path. -/
def write (disk : Disk) (here : Place) (path : Path) (node : Node) : Disk :=
  match node, path.components.getLast? with
  | .directory, _ => (disk.makeDirectories here path.components).1
  | node, some (.name name) =>
    let (disk, directory) := disk.makeDirectories here path.components.dropLast
    match node with
    | .link target => disk.put (directory ++ [name]) (.link target)
    | node => disk.put (disk.writtenAt maxLinks (directory ++ [name])) node
  | _, _ => disk

/-- Removes what a path names, and everything below it. A link is removed and not what it leads
to. -/
def remove (disk : Disk) (here : Place) (path : Path) : Disk :=
  match path.components.getLast? with
  | some (.name name) =>
    let (_, directory) := disk.makeDirectories here path.components.dropLast
    ⟨disk.nodes.filter fun entry => !(directory ++ [name]).isPrefixOf entry.1⟩
  | _ => disk

end Splice.Disk
