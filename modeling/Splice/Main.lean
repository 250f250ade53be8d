import Splice.Disk.Edit
import Splice.Observation

/-!
# The program

The outermost layer: it looks at the file system and the environment, hands what it sees to
`Splice.Command.run`, and writes the outcome. Nothing is decided here. The files are observed as the
run asks for them; the tree below the current directory is only read when patterns are given.
-/

namespace Splice.Main

/-- A path as the operating system takes it. -/
def native (path : Path) : String :=
  String.ofList path.text

/-- The fault that an error of the operating system stands for. -/
def faultOf : IO.Error → Fault
  | .alreadyExists _ code _ | .otherError code _ | .resourceBusy code _
  | .resourceVanished code _ | .unsupportedOperation code _ | .hardwareFault code _
  | .unsatisfiedConstraints code _ | .illegalOperation code _ | .protocolError code _
  | .timeExpired code _ | .interrupted _ code _ | .noFileOrDirectory _ code _
  | .invalidArgument _ code _ | .permissionDenied _ code _ | .resourceExhausted _ code _
  | .inappropriateType _ code _ | .noSuchThing _ code _ => .system code.toNat
  | .unexpectedEof => .other "failed to fill whole buffer".toList
  | .userError text => .other text.toList

/-- What opening a path yields. -/
def open? (path : Path) : IO (Except Fault Source) := do
  if path.text.contains '\x00' then return .error .zeroByte
  match ← (IO.FS.Handle.mk (native path) .read).toBaseIO with
  | .error error => return .error (faultOf error)
  | .ok handle =>
    match ← handle.readBinToEnd.toBaseIO with
    | .error error => return .ok ⟨[], some (faultOf error)⟩
    | .ok bytes => return .ok (Source.ofBytes bytes.toList)

/-- The canonical path of what a path leads to. -/
def canonical? (path : Path) : IO (Option Path) := do
  if path.text.contains '\x00' then return none
  match ← (IO.FS.realPath (native path)).toBaseIO with
  | .error _ => return none
  | .ok canonical =>
    match ← canonical.metadata.toBaseIO with
    | .error _ => return none
    | .ok _ => return some ⟨canonical.toString.toList⟩

/-- Looks at a path. -/
def observe (path : Path) : IO Observation := do
  return { path, canonical? := ← canonical? path, source := ← open? path }

/-- The names that lead to a canonical path. -/
def placeOf (path : Path) : Place :=
  path.components.filterMap fun
    | .name text => some text
    | _ => none

/-- The bytes of a file; none where it cannot be read. -/
def bytesOf (path : Path) : IO (Option (List UInt8)) := do
  match ← open? path with
  | .ok source => return source.bytes?.toOption
  | .error _ => return none

/-- Adds a file to a disk, if it is there. -/
def addFile (disk : Disk) (path : Path) : IO Disk := do
  match ← bytesOf path with
  | some bytes => return disk.write [] path (.file bytes)
  | none => return disk

/-- Adds the ignore files of a directory to a disk, with what belongs to a repository in it. -/
def addIgnoreFiles (disk : Disk) (directory : Path) : IO Disk := do
  let inside (name : String) : Path := directory.joined ⟨name.toList⟩
  let disk ← addFile disk (inside ".ignore")
  let disk ← addFile disk (inside ".gitignore")
  let repository := inside ".git"
  match ← bytesOf repository with
  | some bytes =>
    let disk := disk.write [] repository (.file bytes)
    match (Ignore.firstLine? disk [] repository).bind ("gitdir: ".toList.isPrefixOf? ·) with
    | none => return disk
    | some text =>
      let disk ← addFile disk ((Path.mk text).joined ⟨"commondir".toList⟩)
      match Ignore.privateDirectory? disk [] (placeOf directory) with
      | some common => addFile disk (common.joined ⟨"info/exclude".toList⟩)
      | none => return disk
  | none =>
    if (← canonical? repository).isSome then
      addFile (disk.write [] repository .directory) (inside ".git/info/exclude")
    else return disk

/-- Whether a path leads to a directory. -/
def isDirectory (path : Path) : IO Bool := do
  match ← (IO.FS.realPath (native path)).toBaseIO with
  | .ok canonical => canonical.isDir
  | .error _ => return false

/-- Adds a symbolic link to a disk, and what it leads to. -/
def addLink (disk : Disk) (place : Place) (path : Path) : IO Disk := do
  match ← canonical? path with
  | none => return disk.put place (.link "?".toList)
  | some target =>
    let disk := disk.put place (.link target.text)
    if ← isDirectory target then return (disk.makeDirectories [] target.components).1
    else return disk.write [] target (.file [])

/-- Adds all that stands below a directory to a disk. Only ignore files keep their content. -/
partial def addTree (disk : Disk) (directory : Path) : IO Disk := do
  let mut disk ← addIgnoreFiles (disk.write [] directory .directory) directory
  let entries ← match ← (IO.FS.realPath (native directory)).toBaseIO with
    | .ok path => path.readDir
    | .error _ => pure #[]
  for entry in entries do
    let path := directory.joined ⟨entry.fileName.toList⟩
    let place := placeOf path
    if (disk.node? place).isSome then continue
    match ← entry.path.symlinkMetadata.toBaseIO with
    | .error _ => continue
    | .ok metadata =>
      match metadata.type with
      | .dir => disk ← addTree disk path
      | .symlink => disk ← addLink disk place path
      | _ => disk := disk.put place (.file [])
  return disk

/-- The disk that a walk of the current directory sees. -/
def walkedDisk (here : Place) (homes : Homes) : IO Disk := do
  let mut disk : Disk := {}
  for place in Disk.above here do
    disk ← addIgnoreFiles (disk.makeDirectories [] (place.map Component.name)).1 (Disk.pathOf place)
  disk ← addTree disk (Disk.pathOf here)
  if let some home := homes.own then
    for name in [".gitconfig", ".config/git/config"] do
      disk ← addFile disk (home.joined ⟨name.toList⟩)
  match Ignore.everywherePath? disk here homes with
  | some path => addFile disk path
  | none => return disk

/-- Runs the program, looking at further paths until it asks for no other. -/
partial def settle (surroundings : Surroundings) (words : List Text) (options : Options)
    (observed : List Observation) : IO Outcome := do
  let surroundings := { surroundings with snapshot := Snapshot.ofObservations observed }
  let missing := (Command.lookups surroundings options).eraseDups.filter fun path =>
    (Snapshot.observation? observed path).isNone
  if missing.isEmpty then return Command.run surroundings words
  settle surroundings words options (observed ++ (← missing.mapM observe))

/-- What the environment says, without the files. -/
def surroundings : IO Surroundings := do
  let opened ← open? ⟨"/etc/passwd".toList⟩
  let accounts : Except Fault Text := do
    match Utf8.decode? (← (← opened).bytes?) with
    | some text => .ok text
    | none => .error .notUtf8
  let user := ((← IO.getEnv "USER").getD "").toList
  let account := accounts.toOption.bind fun accounts => Homes.homeOf accounts user
  let here ← IO.currentDir.toBaseIO
  return {
    snapshot := Snapshot.ofObservations []
    homes :=
      { own := Homes.ownHome ((← IO.getEnv "HOME").map String.toList) account
        accounts }
    here := match here with
      | .ok path => .ok ⟨path.toString.toList⟩
      | .error error => .error (faultOf error)
    walk := fun _ => []
    logFilter := (← IO.getEnv "RUST_LOG").map String.toList }

end Splice.Main

/-- Runs the program with the words of its command line. -/
def main (arguments : List String) : IO UInt32 := do
  let words := arguments.map String.toList
  let surroundings ← Splice.Main.surroundings
  let outcome ← match Splice.Options.parse words with
    | .error _ => pure (Splice.Command.run surroundings words)
    | .ok options =>
      match options.glob, surroundings.here with
      | some _, .ok path =>
        let here := Splice.Main.placeOf path
        let disk ← Splice.Main.walkedDisk here surroundings.homes
        let surroundings := { surroundings with walk := disk.walk here surroundings.homes }
        Splice.Main.settle surroundings words options []
      | _, _ => Splice.Main.settle surroundings words options []
  let output ← IO.getStdout
  output.write (ByteArray.mk outcome.output.toArray)
  output.flush
  IO.eprint (String.ofList outcome.errors)
  return outcome.status.toUInt32
