import Splice.Fault
import Splice.Path.Clean

/-!
# Home directories

A tilde in front of a root name stands for a home directory: alone for that of the user running the
program, with a name for that of the named user, which the account list gives. The account list has
one account a line, with fields between colons; the name is the first field and the home directory
the sixth.
-/

namespace Splice

/-- Why a root name could not be turned into a path. -/
inductive HomeFault where
  /-- The user running the program has no known home directory. -/
  | none
  /-- The account list has no such user. -/
  | unknownUser (user : Text)
  /-- The account list could not be read. -/
  | accounts (fault : Fault)
  deriving DecidableEq, Repr

/-- The text of a home directory fault. -/
def HomeFault.message : HomeFault → Text
  | .none => "cannot determine the home directory".toList
  | .unknownUser user => "unknown user: ".toList ++ user
  | .accounts fault => "cannot read the password database: ".toList ++ fault.message

/-- What is known about home directories. -/
structure Homes where
  /-- The home directory of the user running the program. -/
  own : Option Path
  /-- The text of the account list. -/
  accounts : Except Fault Text

namespace Homes

/-- Whether the fields of an account line are those of `user`, with a home directory among
them. -/
def describes (user : Text) (fields : List Text) : Bool :=
  6 ≤ fields.length && fields.head? == some user

/-- The home directory that an account list gives for a user: that of the first account with this
very name. Lines that start with a number sign, and lines of fewer than six fields, count for
nothing. -/
def homeOf (accounts user : Text) : Option Path :=
  let fields := ((Text.lines accounts).filter (·.head? != some '#')).map (Text.split ':')
  match fields.find? (describes user) with
  | some account => account[5]?.map Path.mk
  | none => none

/-- The home directory of the user running the program: the one that the environment names, or the
one of the user's account if the environment names none or has an empty name. -/
def ownHome (named : Option Text) (account : Option Path) : Option Path :=
  match named with
  | none | some [] => account
  | some name => some ⟨name⟩

/-- The home directory that a name with a leading tilde stands for. Any other name stands for
itself. -/
def expandTilde (homes : Homes) : Text → Except HomeFault Path
  | ['~'] =>
    match homes.own with
    | some home => .ok home
    | none => .error .none
  | '~' :: user =>
    match homes.accounts with
    | .error fault => .error (.accounts fault)
    | .ok accounts =>
      match homeOf accounts user with
      | some home => .ok home
      | none => .error (.unknownUser user)
  | name => .ok ⟨name⟩

/-- The path of a root file as the user names it: clean, and with a leading tilde replaced. -/
def resolve (homes : Homes) (name : Path) : Except HomeFault Path :=
  match name.clean.components with
  | .name first :: rest =>
    if first.head? = some '~' then
      match homes.expandTilde first with
      | .ok home => .ok (home.joined (Path.ofComponents rest)).clean
      | .error fault => .error fault
    else .ok name.clean
  | _ => .ok name.clean

end Homes

end Splice
