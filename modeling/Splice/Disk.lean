import Splice.Snapshot

/-!
# Disks

A small file system held as a value: files, directories and symbolic links, each at the names that
lead to it from the root without links. Paths are followed as the operating system does it, with
its limits on the length of names and paths and on the number of links, and with its errors.
-/

namespace Splice

/-- The names that lead from the root to an entry, by directories alone. -/
abbrev Place := List Text

/-- What stands at a place. -/
inductive Node where
  /-- A file with its bytes. -/
  | file (bytes : List UInt8)
  /-- A directory. -/
  | directory
  /-- A symbolic link with its target. -/
  | link (target : Text)
  deriving DecidableEq, Repr

/-- A file system. The root directory is always there. -/
structure Disk where
  /-- Everything but the root, by place. -/
  nodes : List (Place × Node) := []

namespace Disk

/-- The longest name of an entry, in bytes. -/
def maxName : Nat := 255

/-- The length in bytes that a path has to stay below. -/
def maxPath : Nat := 4096

/-- How many links may be followed on the way to one entry. -/
def maxLinks : Nat := 40

/-- What stands at a place. -/
def node? (disk : Disk) (place : Place) : Option Node :=
  if place = [] then some .directory
  else (disk.nodes.find? fun entry => entry.1 = place).map Prod.snd

/-- The places of everything, the root among them. -/
def places (disk : Disk) : List Place :=
  [] :: disk.nodes.map Prod.fst

/-- Whether a directory stands at a place. -/
def isDirectory (disk : Disk) (place : Place) : Bool :=
  disk.node? place == some .directory

/-- Where a path of links starts: at the root, or in the directory `here`. -/
def startOf (path : Text) (here : Place) : Place :=
  if path.head? = some '/' then [] else here

/-- Follows the pieces of a path between slashes, from the place `here`. At most `links` links are
followed. -/
def follow (disk : Disk) (links : Nat) (here : Place) : List Text → Except Fault Place
  | [] => .ok here
  | piece :: rest =>
    if !disk.isDirectory here then .error .notDirectory
    else if piece = [] ∨ piece = ['.'] then disk.follow links here rest
    else if piece = ['.', '.'] then disk.follow links here.dropLast rest
    else
      match disk.node? (here ++ [piece]) with
      | none =>
        if maxName < (Utf8.encode piece).length then .error .nameTooLong else .error .notFound
      | some (.link target) =>
        match links with
        | 0 => .error .tooManyLinks
        | links + 1 =>
          disk.follow links (startOf target here) (Text.split '/' target ++ rest)
      | some _ => disk.follow links (here ++ [piece]) rest
termination_by pieces => (links, pieces.length)

/-- The place that a path leads to, read from the directory `here`. -/
def locate (disk : Disk) (here : Place) (path : Path) : Except Fault Place :=
  if path.text = [] then .error .notFound
  else if path.text.contains '\x00' then .error .zeroByte
  else if maxPath ≤ (Utf8.encode path.text).length then .error .nameTooLong
  else disk.follow maxLinks (startOf path.text here) (Text.split '/' path.text)

/-- The absolute path of a place. -/
def pathOf (place : Place) : Path :=
  Path.ofComponents (.root :: place.map Component.name)

/-- What opening a path yields. A directory opens, but cannot be read. -/
def source (disk : Disk) (here : Place) (path : Path) : Except Fault Source :=
  match disk.locate here path with
  | .error fault => .error fault
  | .ok place =>
    match disk.node? place with
    | some (.file bytes) => .ok (Source.ofBytes bytes)
    | some .directory => .ok ⟨[], some .isDirectory⟩
    | some (.link _) | none => .error .notFound

/-- The bytes of the file that a path leads to. -/
def bytes? (disk : Disk) (here : Place) (path : Path) : Except Fault (List UInt8) :=
  match disk.source here path with
  | .error fault => .error fault
  | .ok source => source.bytes?

/-- Whether a path leads to anything. -/
def exists? (disk : Disk) (here : Place) (path : Path) : Bool :=
  match disk.locate here path with
  | .ok _ => true
  | .error _ => false

/-- The canonical path of what a path leads to. -/
def canonical? (disk : Disk) (here : Place) (path : Path) : Option Path :=
  match disk.locate here path with
  | .ok place => some (pathOf place)
  | .error _ => none

/-- A node stands only at one of the places. -/
theorem mem_places_of_node? {disk : Disk} {place : Place} {node : Node}
    (found : disk.node? place = some node) : place ∈ disk.places := by
  unfold node? at found
  split at found
  · next root => simp [places, root]
  · obtain ⟨entry, isEntry, _⟩ := Option.map_eq_some_iff.1 found
    have atPlace := List.find?_some isEntry
    have isIn := List.mem_of_find?_eq_some isEntry
    simp only [decide_eq_true_eq] at atPlace
    exact List.mem_cons_of_mem _ (List.mem_map.2 ⟨entry, isIn, atPlace⟩)

/-- The disk as a snapshot, with relative paths read from the directory `here`. -/
def snapshot (disk : Disk) (here : Place) : Snapshot where
  canonical? := disk.canonical? here
  source := disk.source here
  identities := disk.places.map fun place => (pathOf place).components
  known := by
    intro path content opened
    unfold source at opened
    split at opened
    · cases opened
    · next place located =>
      have found : ∃ node, disk.node? place = some node := by
        cases here : disk.node? place with
        | none => simp [here] at opened
        | some node => exact ⟨node, rfl⟩
      obtain ⟨node, isNode⟩ := found
      simp only [canonical?, located, Option.getD_some]
      exact List.mem_map_of_mem (mem_places_of_node? isNode)

end Disk

end Splice
