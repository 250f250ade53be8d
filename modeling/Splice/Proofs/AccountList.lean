import Splice.Home
import Splice.Proofs.Text.Split
import Splice.Proofs.Text.Strip

/-!
# Account lists

Looking a user up in an account list undoes how the list is written
(`AccountList.looked_up_by_name`): what is found is the home directory of the first account with the
very name of the user. Lines may end in either way, and the last one not at all. Comments, and lines
that are too short for an account, may stand anywhere, and say whatever they like.

A list is written from accounts (`AccountList.text`), and read line by line (`Homes.homeOf_eq`): a
line gives a home directory only if it is that of an account.
-/

namespace Splice

/-! ## Lists as they are written -/

/-- An account that can be written in one line. -/
structure Account where
  /-- The first one names the user, and the sixth one is the home directory. -/
  fields : List Text
  /-- Neither is missing. -/
  enough : 6 ≤ fields.length
  /-- No field holds what divides fields or ends lines. -/
  plain : ∀ field ∈ fields, ':' ∉ field ∧ '\n' ∉ field ∧ '\r' ∉ field
  /-- The name does not make a comment of the line. -/
  named : ∀ name ∈ fields.head?, name.head? ≠ some '#'

namespace Account

/-- The name of the user. -/
def name (account : Account) : Text :=
  account.fields.get ⟨0, Nat.lt_of_lt_of_le (by decide) account.enough⟩

/-- The home directory of the user. -/
def home (account : Account) : Path :=
  ⟨account.fields.get ⟨5, account.enough⟩⟩

/-- The line of the account. -/
def text (account : Account) : Text :=
  Text.join [':'] account.fields

end Account

/-- A line of an account list. -/
inductive Entry where
  | record (account : Account)
  /-- What follows a number sign. -/
  | comment (text : Text) (free : '\n' ∉ text)
  /-- A line of fewer than six fields. -/
  | short (text : Text) (free : '\n' ∉ text) (few : text.count ':' < 5)

namespace Entry

/-- The line without its ending. -/
def text : Entry → Text
  | .record account => account.text
  | .comment text _ => '#' :: text
  | .short text _ _ => text

/-- The account that the line is of. -/
def account? : Entry → Option Account
  | .record account => some account
  | .comment _ _ | .short _ _ _ => none

end Entry

/-- How a line ends. -/
inductive LineEnding where
  | newline
  | returned

/-- What ends the line. -/
def LineEnding.text : LineEnding → Text
  | newline => ['\n']
  | returned => ['\r', '\n']

/-- An account list, line by line. -/
structure AccountList where
  /-- The lines that have endings. -/
  ended : List (Entry × LineEnding)
  /-- The line that lacks one, if any does. -/
  last : Option Entry

namespace AccountList

/-- The lines of the list. -/
def entries (list : AccountList) : List Entry :=
  list.ended.map Prod.fst ++ list.last.toList

/-- The accounts of the list. -/
def accounts (list : AccountList) : List Account :=
  list.entries.filterMap Entry.account?

/-- Lines with their endings. -/
def endedText (ended : List (Entry × LineEnding)) : Text :=
  ended.flatMap fun (entry, ending) => entry.text ++ ending.text

/-- The list as it is written. -/
def text (list : AccountList) : Text :=
  endedText list.ended ++ list.last.elim [] Entry.text

end AccountList

/-! ## Lists as they are read -/

namespace Homes

variable {user line : Text}

/-- The home directory that a line gives for a user. -/
def homeAt (user line : Text) : Option Path :=
  if line.head? ≠ some '#' ∧ describes user (Text.split ':' line) then
    (Text.split ':' line)[5]?.map Path.mk
  else none

theorem homeAt_of_comment (marked : line.head? = some '#') : homeAt user line = none :=
  if_neg fun account => account.1 marked

theorem homeAt_of_short (few : line.count ':' < 5) : homeAt user line = none := by
  refine if_neg fun account => ?_
  have enough := account.2
  simp only [describes, Text.length_split, Bool.and_eq_true, decide_eq_true_eq] at enough
  omega

/-- The first line that gives a home directory counts. -/
theorem homeOf_eq (accounts user : Text) :
    homeOf accounts user = (Text.lines accounts).findSome? (homeAt user) := by
  unfold homeOf
  dsimp only
  induction Text.lines accounts with
  | nil => rfl
  | cons line rest ih =>
    by_cases marked : line.head? = some '#'
    · rw [List.filter_cons_of_neg (by simp [marked]), ih, List.findSome?_cons,
        homeAt_of_comment marked]
    · rw [List.filter_cons_of_pos (by simp [marked]), List.map_cons, List.findSome?_cons]
      by_cases isUser : describes user (Text.split ':' line) = true
      · have enough : 5 < (Text.split ':' line).length := by
          simp only [describes, Bool.and_eq_true, decide_eq_true_eq] at isUser
          exact isUser.1
        simp [List.find?_cons_of_pos isUser, homeAt, marked, isUser,
          List.getElem?_eq_getElem enough]
      · rw [List.find?_cons_of_neg isUser, ih, homeAt, if_neg fun account => isUser account.2]

end Homes

/-! ## What a line gives -/

namespace Account

theorem exists_fields_eq (account : Account) :
    ∃ next more, account.fields = account.name :: next :: more := by
  obtain ⟨fields, enough, plain, named⟩ := account
  match fields, enough with
  | first :: next :: more, _ => exact ⟨next, more, rfl⟩

@[simp] theorem head?_fields (account : Account) : account.fields.head? = some account.name := by
  obtain ⟨next, more, fields⟩ := account.exists_fields_eq
  rw [fields]
  rfl

@[simp] theorem getElem?_fields (account : Account) :
    account.fields[5]? = some account.home.text :=
  List.getElem?_eq_getElem account.enough

/-- The line is divided into the fields again. -/
@[simp] theorem split_text (account : Account) :
    Text.split ':' account.text = account.fields :=
  Text.split_join (List.ne_nil_of_length_pos (Nat.lt_of_lt_of_le (by decide) account.enough))
    fun field isIn => (account.plain field isIn).1

/-- The characters of the line are those of the fields, and colons. -/
theorem notMem_text {account : Account} {c : Char} (other : c ≠ ':')
    (free : ∀ field ∈ account.fields, c ∉ field) : c ∉ account.text := by
  intro isIn
  rcases Text.mem_join isIn with colon | ⟨field, isField, isIn⟩
  · exact other colon
  · exact free field isField isIn

/-- The line is no comment: it starts with the name, or with a colon if that is empty. -/
theorem head?_text_ne (account : Account) : account.text.head? ≠ some '#' := by
  have named := account.named account.name account.head?_fields
  obtain ⟨next, more, fields⟩ := account.exists_fields_eq
  rw [text, fields, Text.join_cons_cons, List.append_assoc, List.head?_append]
  cases first : account.name.head? with
  | none => simp
  | some c =>
    rw [first] at named
    exact named

/-- It gives the home directory for the name and for no other. -/
theorem homeAt_text (account : Account) (user : Text) :
    Homes.homeAt user account.text = if account.name = user then some account.home else none := by
  have enough := account.enough
  simp [Homes.homeAt, Homes.describes, account.head?_text_ne, enough]

end Account

namespace Entry

variable (user : Text)

/-- The home directory that a line gives for a user. -/
def homeFor (entry : Entry) : Option Path :=
  entry.account?.bind fun account => if account.name = user then some account.home else none

/-- No line is two. -/
theorem newline_notMem_text (entry : Entry) : '\n' ∉ entry.text := by
  cases entry with
  | record account =>
    exact Account.notMem_text (by decide) fun field isIn => (account.plain field isIn).2.1
  | comment words free => simpa [text] using free
  | short words free few => exact free

theorem homeAt_text (entry : Entry) : Homes.homeAt user entry.text = entry.homeFor user := by
  cases entry with
  | record account => exact account.homeAt_text user
  | comment words free => exact Homes.homeAt_of_comment rfl
  | short words free few => exact Homes.homeAt_of_short few

/-- A carriage return at the end of a line, which is lost to the newline after it, makes no
difference. -/
theorem homeAt_dropFinal (entry : Entry) :
    Homes.homeAt user (Text.dropFinal '\r' entry.text) = entry.homeFor user := by
  cases entry with
  | record account =>
    have free : '\r' ∉ account.text :=
      Account.notMem_text (by decide) fun field isIn => (account.plain field isIn).2.2
    have kept : account.text.getLast? ≠ some '\r' :=
      fun isLast => free (List.mem_of_getLast? isLast)
    rw [text, Text.dropFinal_of_ne kept]
    exact account.homeAt_text user
  | comment words free =>
    have marked : Text.dropFinal '\r' ('#' :: words) = '#' :: Text.dropFinal '\r' words :=
      Text.dropFinal_append_of_ne (by decide : ['#'].getLast? ≠ some '\r') words
    rw [text, marked]
    exact Homes.homeAt_of_comment rfl
  | short words free few =>
    have shorter : Text.dropFinal '\r' words <+: words := Text.dropFinal_isPrefix words
    have fewer := shorter.sublist.count_le ':'
    exact Homes.homeAt_of_short (Nat.lt_of_le_of_lt fewer few)

/-- A line is read, however it ends. -/
theorem exists_lines_eq (entry : Entry) (ending : LineEnding) (rest : Text) :
    ∃ line, Text.lines (entry.text ++ ending.text ++ rest) = line :: Text.lines rest ∧
      Homes.homeAt user line = entry.homeFor user := by
  have free := entry.newline_notMem_text
  cases ending with
  | newline =>
    -- A carriage return that belongs to the line itself is dropped here.
    refine ⟨Text.dropFinal '\r' entry.text, ?_, entry.homeAt_dropFinal user⟩
    rw [LineEnding.text, List.append_assoc]
    exact Text.lines_append_newline free rest
  | returned =>
    have free' : '\n' ∉ entry.text ++ ['\r'] := by simpa using free
    refine ⟨entry.text, ?_, entry.homeAt_text user⟩
    have lines := Text.lines_append_newline free' rest
    rw [Text.dropFinal_concat] at lines
    simpa [LineEnding.text] using lines

end Entry

/-! ## What a list gives -/

namespace AccountList

/-- Lines that have endings are read one after the other, and then what follows them. -/
theorem findSome?_ended (user : Text) (ended : List (Entry × LineEnding)) (rest : Text) :
    (Text.lines (endedText ended ++ rest)).findSome? (Homes.homeAt user) =
      ((ended.map Prod.fst).findSome? (Entry.homeFor user)).or
        ((Text.lines rest).findSome? (Homes.homeAt user)) := by
  induction ended with
  | nil => rfl
  | cons line more ih =>
    obtain ⟨entry, ending⟩ := line
    obtain ⟨line, lines, gives⟩ :=
      entry.exists_lines_eq user ending (endedText more ++ rest)
    rw [endedText, List.flatMap_cons, List.append_assoc, ← endedText, lines,
      List.findSome?_cons, gives, ih, List.map_cons, List.findSome?_cons]
    cases entry.homeFor user <;> rfl

/-- The last line is read as well. -/
theorem findSome?_last (user : Text) (last : Option Entry) :
    (Text.lines (last.elim [] Entry.text)).findSome? (Homes.homeAt user) =
      last.toList.findSome? (Entry.homeFor user) := by
  cases last with
  | none => rfl
  | some entry =>
    have gives := entry.homeAt_text user
    by_cases empty : entry.text = []
    · -- At the end of the list, an empty line without an ending is none, and it would give nothing.
      rw [empty, Homes.homeAt_of_short (by decide)] at gives
      simp [empty, ← gives]
    · simp [Text.lines_of_notMem entry.newline_notMem_text empty, gives]

/-- The first account of a user is the first line that gives something for the user. -/
theorem findSome?_homeFor (user : Text) (entries : List Entry) :
    entries.findSome? (Entry.homeFor user) =
      ((entries.filterMap Entry.account?).find? (·.name = user)).map Account.home := by
  induction entries with
  | nil => rfl
  | cons entry rest ih =>
    rw [List.findSome?_cons, ih]
    cases entry with
    | record account =>
      by_cases same : account.name = user <;>
        simp [Entry.homeFor, Entry.account?, same]
    | _ => rfl

/-- The home directory of the first account with the name is found. -/
theorem homeOf_text (list : AccountList) (user : Text) :
    Homes.homeOf list.text user = (list.accounts.find? (·.name = user)).map Account.home := by
  rw [Homes.homeOf_eq, text, findSome?_ended, findSome?_last, ← List.findSome?_append,
    findSome?_homeFor]
  rfl

/-- What a user is given by an account list. -/
structure Gives (list : AccountList) (user : Text) (answer : Option Path) : Prop where
  /-- A home directory is that of the first account with the very name of the user. -/
  some_iff : ∀ home, answer = some home ↔
    ∃ before account after, list.accounts = before ++ account :: after ∧
      account.name = user ∧ (∀ other ∈ before, other.name ≠ user) ∧ account.home = home
  /-- There is none if no account has that name. -/
  none_iff : answer = none ↔ ∀ account ∈ list.accounts, account.name ≠ user

/-- Users are looked up by their names among the accounts, and among nothing else: other lines make
no difference, wherever they stand, nor does how lines are ended. -/
theorem looked_up_by_name (list : AccountList) (user : Text) :
    list.Gives user (Homes.homeOf list.text user) ∧
      ∀ other : AccountList, other.accounts = list.accounts →
        Homes.homeOf other.text user = Homes.homeOf list.text user := by
  refine ⟨⟨fun home => ?_, ?_⟩, fun other same => ?_⟩
  · rw [homeOf_text, Option.map_eq_some_iff]
    constructor
    · rintro ⟨account, found, isHome⟩
      obtain ⟨isUser, before, after, divided, others⟩ := List.find?_eq_some_iff_append.1 found
      exact ⟨before, account, after, divided, by simpa using isUser, by simpa using others, isHome⟩
    · rintro ⟨before, account, after, divided, isUser, others, isHome⟩
      refine ⟨account, ?_, isHome⟩
      exact List.find?_eq_some_iff_append.2
        ⟨by simpa using isUser, before, after, divided, by simpa using others⟩
  · rw [homeOf_text, Option.map_eq_none_iff, List.find?_eq_none]
    simp
  · rw [homeOf_text, homeOf_text, same]

/-- An account whose home directory is empty. -/
def unhoused : Account :=
  ⟨["me".toList, ['x'], ['1'], ['1'], [], []], by decide, by decide, by decide⟩

/-- Another account of the same user. -/
def rehoused : Account :=
  ⟨["me".toList, ['x'], ['2'], ['2'], [], "/me".toList, "/bin/sh".toList], by decide, by decide,
    by decide⟩

/-- A comment and a short line that name the user, before and between the accounts. The last line
has no ending. -/
def mingled : AccountList where
  ended := [(.comment "me:x:3:3::/comment".toList (by decide), .returned),
    (.record unhoused, .returned),
    (.short "me:/short\r".toList (by decide) (by decide), .newline)]
  last := some (.record rehoused)

/-- The accounts alone. -/
def unmingled : AccountList where
  ended := [(.record unhoused, .newline), (.record rehoused, .newline)]
  last := none

/-- The user is given the empty home directory of the first account, by either list. -/
theorem mingled_looked_up :
    unmingled.accounts = mingled.accounts ∧
      Homes.homeOf mingled.text "me".toList = some ⟨[]⟩ ∧
      Homes.homeOf unmingled.text "me".toList = some ⟨[]⟩ := by
  have same : unmingled.accounts = mingled.accounts := rfl
  obtain ⟨gives, unchanged⟩ := looked_up_by_name mingled "me".toList
  have found : Homes.homeOf mingled.text "me".toList = some ⟨[]⟩ :=
    (gives.some_iff ⟨[]⟩).2 ⟨[], unhoused, [rehoused], rfl, rfl, by simp, rfl⟩
  exact ⟨same, found, (unchanged unmingled same).trans found⟩

end AccountList

end Splice
