import Splice.Disk
import Splice.Home
import Splice.Ignore.Rule

/-!
# Scopes

Which ignore files count for an entry of a disk. Each directory above the entry may hold files of
three kinds; a deeper directory goes before those above it, and a kind before the next. Two kinds
count only inside of a repository, and not beyond its top directory, which is the one that holds
the repository's own directory. Rules for all repositories come last.
-/

namespace Splice.Ignore

/-- The name of a repository's own directory. -/
def repositoryName : Text := ".git".toList

/-- The ignore files of a directory. -/
structure Scope where
  /-- The directory. -/
  place : Place
  /-- Whether the directory is the top of a repository. -/
  isTop : Bool
  /-- Rules that always count. -/
  always : RuleFile
  /-- Rules that count inside of a repository. -/
  shared : RuleFile
  /-- Rules of the repository that are not part of it. -/
  unshared : RuleFile
  deriving Repr

/-- The lines of a file, without their endings. -/
def lines (bytes : List UInt8) : List (List UInt8) :=
  (Source.ofBytes bytes).lines.map fun line =>
    if line.getLast? = some Source.newline then Source.withoutEnding line else line

/-- Reads an ignore file, with relative paths read from the directory `here`. A file that is not
there has no rules. -/
def readRules (disk : Disk) (here : Place) (path : Path) : RuleFile :=
  match disk.source here path with
  | .error _ => { path }
  | .ok source =>
    match source.bytes? with
    | .ok bytes => .ofLines path (lines bytes)
    | .error fault => { path, faults := [(1, .unreadable fault)] }

/-- The first line of a file. -/
def firstLine? (disk : Disk) (here : Place) (path : Path) : Option Text :=
  match disk.bytes? here path with
  | .error _ => none
  | .ok bytes => (lines bytes).head?.bind Utf8.decode?

/-- The directory with the private files of the repository whose top is `place`. Usually it stands
there; a file of its name leads to another one, whose files are shared by several work trees. -/
def privateDirectory? (disk : Disk) (here place : Place) : Option Path :=
  let own := Disk.pathOf (place ++ [repositoryName])
  match disk.bytes? here own with
  | .error _ => some own
  | .ok _ =>
    match (firstLine? disk here own).bind ("gitdir: ".toList.isPrefixOf? ·) with
    | none => none
    | some directory =>
      let directory : Path := ⟨directory⟩
      (firstLine? disk here (directory.joined ⟨"commondir".toList⟩)).map fun common =>
        if common.head? = some '.' then directory.joined ⟨common⟩ else ⟨common⟩

/-- The ignore files of a directory. -/
def Scope.ofPlace (disk : Disk) (here place : Place) : Scope :=
  let file (name : Text) := readRules disk here (Disk.pathOf (place ++ [name]))
  { place
    isTop := disk.exists? here (Disk.pathOf (place ++ [repositoryName]))
    always := file ".ignore".toList
    shared := file ".gitignore".toList
    unshared :=
      match privateDirectory? disk here place with
      | none => { path := ⟨[]⟩ }
      | some directory => readRules disk here (directory.joined ⟨"info/exclude".toList⟩) }

/-- The path of an entry below the directory of a scope. -/
def Scope.relative (scope : Scope) (place : Place) : Text :=
  Text.join ['/'] (place.drop scope.place.length)

/-- All that is wrong with the ignore files of a directory. -/
def Scope.complaints (scope : Scope) : List Text :=
  scope.always.complaints ++ scope.shared.complaints ++ scope.unshared.complaints

/-- The scopes from the innermost to the first that is the top of a repository, if there is
one. -/
def insideRepository : List Scope → List Scope
  | [] => []
  | scope :: outer => if scope.isTop then [scope] else scope :: insideRepository outer

/-- What scopes, the innermost first, and the rules for all repositories say about an entry:
whether it is hidden, or nothing. `spelled` is the entry as the rules for all repositories see
it. -/
def hides? (scopes : List Scope) (everywhere : RuleFile) (place : Place) (spelled : Text)
    (isDirectory : Bool) : Option Bool :=
  let first (scopes : List Scope) (file : Scope → RuleFile) : Option Bool :=
    scopes.findSome? fun scope => (file scope).hides? (scope.relative place) isDirectory
  let inside := insideRepository scopes
  first scopes Scope.always <|>
    if scopes.any Scope.isTop then
      first inside Scope.shared <|> first inside Scope.unshared
        <|> everywhere.hides? spelled isDirectory
    else none

/-- A value without the quotes and the white space around it. -/
def unquote (value : Text) : Text :=
  let value := value.trim
  let value := if value.head? = some '"' then Text.trimStart value.tail else value
  Text.trimEnd (Text.dropFinal '"' value)

/-- The value in a line of the user's configuration, if the line is the one that names the file
with rules for all repositories. -/
def excludesFile? (line : Text) : Option Text :=
  let key := "excludesfile".toList
  let line := line.trimStart
  if (line.take key.length).map Char.toLower = key then
    match Text.trimStart (line.drop key.length) with
    | '=' :: value =>
      let value := unquote value
      if value = [] ∨ value.any Text.isBlank then none else some value
    | _ => none
  else none

/-- The path of the file with rules for all repositories: the one that the user's configuration
names, or the usual one. -/
def everywherePath? (disk : Disk) (here : Place) (homes : Homes) : Option Path :=
  homes.own.map fun home =>
    let named (name : String) : Option Text :=
      match disk.bytes? here (home.joined ⟨name.toList⟩) with
      | .error _ => none
      | .ok bytes => (lines bytes).findSome? fun line => (Utf8.decode? line).bind excludesFile?
    match named ".gitconfig" <|> named ".config/git/config" with
    | some path => ⟨path.flatMap fun c => if c = '~' then home.text else [c]⟩
    | none => home.joined ⟨".config/git/ignore".toList⟩

/-- The rules for all repositories. -/
def everywhere (disk : Disk) (here : Place) (homes : Homes) : RuleFile :=
  match everywherePath? disk here homes with
  | some path => readRules disk here path
  | none => { path := ⟨[]⟩ }

end Splice.Ignore
