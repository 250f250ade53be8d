import Splice.Ignore.Scope

/-!
# Walking a directory

All that stands below a directory and that no ignore rule hides. What is below a hidden directory
is hidden with it. Symbolic links are shown and not followed, but for the directory itself.
-/

namespace Splice

/-- A finding of a walk. -/
inductive Finding where
  /-- An entry; `leadsToDirectory` also holds of a link to a directory. -/
  | entry (path : Path) (leadsToDirectory : Bool)
  /-- Something went wrong. -/
  | fault (message : Text)
  deriving DecidableEq, Repr

namespace Disk

/-- Whether a path leads to a directory. -/
def leadsToDirectory (disk : Disk) (here : Place) (path : Path) : Bool :=
  match disk.locate here path with
  | .ok place => disk.isDirectory place
  | .error _ => false

/-- The path of a root with the names below it. -/
def below (root : Path) (names : List Text) : Path :=
  if names = [] then root else root.joined ⟨Text.join ['/'] names⟩

/-- A path as the rules for all repositories see it: without a leading dot component, and read from
the directory `here`. -/
def spelledFrom (here : Place) (path : Path) : Text :=
  let text := ("./".toList.isPrefixOf? path.text).getD path.text
  if text.contains '/' then
    match (pathOf here).text.isPrefixOf? text with
    | some ('/' :: rest) => rest
    | some rest => rest
    | none => text
  else text

/-- The names that lead from a place to an entry below it. -/
def namesBelow? (place entry : Place) : Option (List Text) :=
  match place.isPrefixOf? entry with
  | some [] | none => none
  | some names => some names

/-- The places above an entry, from its directory to the root. -/
def above (place : Place) : List Place :=
  (List.range place.length).reverse.map place.take

/-- Whether a rule hides an entry or a directory that it is in, from `top` on downwards. -/
def isHidden (disk : Disk) (here : Place) (scopes : List Ignore.Scope)
    (everywhere : Ignore.RuleFile) (root : Path) (top : Place) (names : List Text) : Bool :=
  (List.range names.length).any fun count =>
    let names := names.take (count + 1)
    let place := top ++ names
    let outward := (above place).filterMap fun place => scopes.find? (·.place = place)
    Ignore.hides? outward everywhere place (spelledFrom here (below root names))
      (disk.isDirectory place) == some true

/-- What walking the directory `root` finds, with relative paths read from the directory `here`.
Faults in the ignore files of the directories above are findings as well. -/
def walk (disk : Disk) (here : Place) (homes : Homes) (root : Path) : List Finding :=
  if root.sameAs ⟨['-']⟩ then
    let input : Path := ⟨"<stdin>".toList⟩
    [.entry input (disk.leadsToDirectory here input)]
  else
    match disk.locate here root with
    | .error fault =>
      [.fault (root.text ++ ": IO error for operation on ".toList ++ root.text ++ ": ".toList
        ++ fault.message)]
    | .ok top =>
      let scopes := (disk.places.filter disk.isDirectory).map (Ignore.Scope.ofPlace disk here)
      let complaints := (above top).reverse.flatMap fun place =>
        ((scopes.find? (·.place = place)).map Ignore.Scope.complaints).getD []
      let faults :=
        if complaints = [] then [] else [Finding.fault (Text.join ['\n'] complaints)]
      let everywhere := Ignore.everywhere disk here homes
      let entries := disk.nodes.filterMap fun (place, _) =>
        match namesBelow? top place with
        | none => none
        | some names =>
          if disk.isHidden here scopes everywhere root top names then none
          else
            let path := below root names
            some (Finding.entry path (disk.leadsToDirectory here path))
      faults ++ .entry root (disk.isDirectory top) :: entries

end Disk

end Splice
