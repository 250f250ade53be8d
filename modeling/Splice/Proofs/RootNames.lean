import Mathlib.Data.List.Basic
import Mathlib.Data.List.TakeWhile
import Splice.Proofs.Path.Canonical
import Splice.Reading

/-!
# Root names

What the name of a root file stands for (`resolved_by_clean_name`). A tilde stands for a home
directory where the *clean* name starts with it, which is not always where it was typed: a rest that
climbs out of the home directory undoes the tilde first, and cleaning may bring a tilde to the front
that was typed behind a dot (`tilde_moved`).

A root name that has been resolved is resolved for good (`resolve_stable`), provided that home
directories are absolute. The path of an included file stands for itself as well, unless it starts
with a tilde (`resolve_includedFrom`): directives are not expanded, so that there a tilde is part of
a name.
-/

namespace Splice

namespace Path

variable {name path : Path}

/-- What is typed in front of the first slash. -/
def typedFirst (name : Path) : Text :=
  name.text.takeWhile (· ≠ '/')

/-- What is typed after that, without slashes in front. -/
def typedRest (name : Path) : Path :=
  ⟨(name.text.dropWhile (· ≠ '/')).dropWhile (· = '/')⟩

/-- Whether a tilde is typed in front. -/
def Tilded (name : Path) : Prop :=
  name.text.head? = some '~'

/-- Whether a path leads out of the directory that it is read from. -/
def Climbs (path : Path) : Prop :=
  path.clean.components.head? = some .up

/-! ## Names with a tilde in front -/

/-- Slashes in front add no step. -/
theorem steps_dropWhile_slash (text : Text) : steps ⟨text.dropWhile (· = '/')⟩ = steps ⟨text⟩ := by
  induction text with
  | nil => rfl
  | cons c rest ih =>
    by_cases same : c = '/'
    · subst same
      have slash : steps ⟨'/' :: rest⟩ = steps ⟨rest⟩ := steps_append_slash [] rest
      rw [slash, ← ih]
      rfl
    · rw [List.dropWhile_cons_of_neg (by simpa using same)]

/-- The steps of a path are what is typed before the first slash, and those after it. -/
theorem steps_typed (name : Path) :
    name.steps = steps ⟨name.typedFirst⟩ ++ name.typedRest.steps := by
  have whole : name.typedFirst ++ name.text.dropWhile (· ≠ '/') = name.text :=
    List.takeWhile_append_dropWhile
  have opens := List.head?_dropWhile_not (· ≠ '/') name.text
  rw [typedRest, steps_dropWhile_slash]
  cases tail : name.text.dropWhile (· ≠ '/') with
  | nil =>
    rw [tail, List.append_nil] at whole
    rw [whole]
    exact (List.append_nil _).symm
  | cons c after =>
    rw [tail] at whole opens
    obtain rfl : c = '/' := by simpa using opens
    have slash : steps ⟨'/' :: after⟩ = steps ⟨after⟩ := steps_append_slash [] after
    rw [slash, ← steps_append_slash, whole]

/-- No slash is typed in front of the rest. -/
theorem isAbsolute_typedRest (name : Path) : name.typedRest.isAbsolute = false := by
  have opens := List.head?_dropWhile_not (· = '/') (name.text.dropWhile (· ≠ '/'))
  rw [isAbsolute, beq_eq_false_iff_ne]
  intro slash
  rw [typedRest] at slash
  simp only [slash] at opens
  cases opens

namespace Tilded

theorem exists_text (tilded : name.Tilded) : ∃ rest, name = ⟨'~' :: rest⟩ :=
  ⟨_, congrArg mk (List.eq_cons_of_mem_head? tilded)⟩

theorem isAbsolute (tilded : name.Tilded) : name.isAbsolute = false := by
  obtain ⟨rest, rfl⟩ := tilded.exists_text
  rfl

theorem head?_typedFirst (tilded : name.Tilded) : name.typedFirst.head? = some '~' := by
  obtain ⟨rest, rfl⟩ := tilded.exists_text
  rfl

/-- There is neither a root nor a dot in front of the steps. -/
theorem components (tilded : name.Tilded) : name.components = name.steps := by
  have relative := tilded.isAbsolute
  obtain ⟨rest, rfl⟩ := tilded.exists_text
  obtain ⟨piece, pieces, divided⟩ := Text.exists_split_eq_cons '/' rest
  have first : (Text.split '/' ('~' :: rest)).head? ≠ some ['.'] := by
    rw [Text.split_cons_of_ne (by decide) divided]
    simp
  unfold Path.components
  dsimp only
  rw [relative, if_neg Bool.false_ne_true, if_neg first]
  rfl

/-- What is typed before the first slash is a name. -/
theorem steps (tilded : name.Tilded) :
    name.steps = .name name.typedFirst :: name.typedRest.steps := by
  have free : '/' ∉ name.typedFirst := fun slash => by
    simpa using List.mem_takeWhile_imp slash
  have other (text : Text) (untilded : text.head? ≠ some '~') : name.typedFirst ≠ text :=
    fun same => untilded (same ▸ tilded.head?_typedFirst)
  have plain : (Component.name name.typedFirst).Plain :=
    ⟨other [] (by decide), other ['.'] (by decide), other ['.', '.'] (by decide), free⟩
  have own : Path.steps ⟨name.typedFirst⟩ = [.name name.typedFirst] := by
    rw [Path.steps, Text.split_of_notMem free]
    exact filterMap_ofPiece? (List.forall_mem_singleton.2 plain)
  rw [steps_typed, own]
  rfl

/-- The rest is followed from the name with the tilde. -/
theorem kept (tilded : name.Tilded) :
    name.kept = name.typedRest.kept.reverse.foldl keep [.name name.typedFirst] := by
  rw [kept_of_relative name.isAbsolute_typedRest, foldl_keep_kept _ name.typedRest.plain_steps,
    kept_of_relative tilded.isAbsolute, tilded.steps]
  rfl

end Tilded

/-! ## Rests that climb -/

/-- A path climbs if what is kept of it starts with a step up. -/
theorem climbs_iff : path.Climbs ↔ path.kept.reverse.head? = some .up := by
  have kept : cleanComponents path.components = path.kept.reverse := rfl
  rw [Climbs]
  obtain same | ⟨dot, none⟩ := path.components_clean
  · rw [same, kept]
  · rw [dot, ← kept, none]
    simp

/-- What is kept of a relative path is names, unless it climbs. -/
theorem exists_names_of_not_climbs (relative : path.isAbsolute = false) (stays : ¬ path.Climbs) :
    ∃ names : List Text, path.kept.reverse = names.map .name := by
  rw [climbs_iff] at stays
  obtain ⟨names, -, shape | ⟨ups, shape⟩⟩ := path.settled_kept.exists_names
  · have root : .root ∈ path.kept := by
      rw [← List.mem_reverse, shape]
      exact List.mem_cons_self
    rw [root_mem_kept_iff, relative] at root
    cases root
  · cases ups with
    | zero => exact ⟨names, shape⟩
    | succ ups =>
      rw [shape] at stays
      exact absurd rfl stays

/-- A tilde stays in front of a rest that does not climb. -/
theorem Tilded.components_clean (tilded : name.Tilded) (stays : ¬ name.typedRest.Climbs) :
    name.clean.components = .name name.typedFirst :: name.typedRest.kept.reverse := by
  obtain ⟨names, shape⟩ := exists_names_of_not_climbs name.isAbsolute_typedRest stays
  have kept : name.clean.kept = (names.map .name).reverse ++ [.name name.typedFirst] := by
    rw [kept_clean, tilded.kept, shape, foldl_keep_names]
  rw [components_of_clean (clean_clean name) (by simp [kept]), kept, shape]
  simp

/-- What is kept of a path that climbs is a step up, then others in normal form. -/
theorem exists_onward_of_climbs (climbs : path.Climbs) :
    ∃ onward, path.kept.reverse = .up :: onward ∧ Settled onward.reverse := by
  rw [climbs_iff] at climbs
  obtain ⟨names, plain, shape | ⟨ups, shape⟩⟩ := path.settled_kept.exists_names
  · rw [shape] at climbs
    cases climbs
  · cases ups with
    | zero =>
      rw [shape] at climbs
      cases names <;> cases climbs
    | succ ups =>
      exact ⟨List.replicate ups Component.up ++ names.map Component.name, shape,
        settled_bare ups plain⟩

/-- A rest that climbs undoes the tilde, and leads on from there. -/
theorem Tilded.clean_of_climbs (tilded : name.Tilded) (climbs : name.typedRest.Climbs) :
    name.clean = (ofComponents name.typedRest.clean.components.tail).clean := by
  obtain ⟨onward, shape, settled⟩ := exists_onward_of_climbs climbs
  have components : name.typedRest.clean.components.tail = onward := by
    have some : name.typedRest.clean.kept ≠ [] := by
      rw [kept_clean, ← List.reverse_ne_nil_iff, shape]
      exact List.cons_ne_nil _ _
    rw [components_of_clean (clean_clean _) some, kept_clean, shape]
    rfl
  have undone : name.kept = onward.foldl keep [] := by
    rw [tilded.kept, shape]
    rfl
  have again := settled.foldl_keep_reverse
  rw [List.reverse_reverse] at again
  apply clean_eq_of_kept
  rw [components, kept_of_settled settled, undone, again]

/-- In a clean name with a tilde in front, the rest does not climb: there is a name before any step
up. -/
theorem Tilded.not_climbs_of_clean (tilded : name.Tilded) (clean : name.clean = name) :
    ¬ name.typedRest.Climbs := by
  have some : name.kept ≠ [] := by
    intro none
    have dot : name = ⟨['.']⟩ := eq_of_kept clean rfl none
    rw [Tilded, dot] at tilded
    cases tilded
  have shape : name.kept.reverse = .name name.typedFirst :: name.typedRest.steps := by
    rw [← components_of_clean clean some, tilded.components, tilded.steps]
  obtain ⟨names, -, rooted | ⟨ups, bare⟩⟩ := name.settled_kept.exists_names
  · rw [shape] at rooted
    cases rooted
  · rw [shape] at bare
    cases ups with
    | succ ups => cases bare
    | zero =>
      rw [List.replicate_zero, List.nil_append] at bare
      obtain ⟨first, rest, -, -, restSteps⟩ := List.map_eq_cons_iff.1 bare.symm
      rw [climbs_iff, kept_of_relative name.isAbsolute_typedRest, ← restSteps, foldl_keep_names]
      cases rest <;> simp

end Path

namespace Homes

variable {homes : Homes} {name path : Path}

/-! ## What a name stands for -/

/-- What a tilde stands for together with the name that follows it: a home directory, or the reason
why there is none. -/
inductive Gives (homes : Homes) : Text → Except HomeFault Path → Prop where
  /-- The home directory of the user running the program. -/
  | own {home : Path} (known : homes.own = some home) : Gives homes ['~'] (.ok home)
  /-- There is none. -/
  | homeless (unknown : homes.own = none) : Gives homes ['~'] (.error .none)
  /-- The home directory of a user with an account. -/
  | user {user accounts : Text} {home : Path} (named : user ≠ [])
      (readable : homes.accounts = .ok accounts) (known : homeOf accounts user = some home) :
      Gives homes ('~' :: user) (.ok home)
  /-- There is no such account. -/
  | stranger {user accounts : Text} (named : user ≠ []) (readable : homes.accounts = .ok accounts)
      (unknown : homeOf accounts user = none) :
      Gives homes ('~' :: user) (.error (.unknownUser user))
  /-- The accounts are not known. -/
  | unreadable {user : Text} {fault : Fault} (named : user ≠ [])
      (failed : homes.accounts = .error fault) :
    Gives homes ('~' :: user) (.error (.accounts fault))

/-- A user is looked up among the accounts. -/
theorem expandTilde_of_ne_nil (homes : Homes) {user : Text} (named : user ≠ []) :
    homes.expandTilde ('~' :: user) =
      match homes.accounts with
      | .error fault => .error (.accounts fault)
      | .ok accounts =>
        match homeOf accounts user with
        | some home => .ok home
        | none => .error (.unknownUser user) := by
  obtain ⟨c, rest, rfl⟩ := List.exists_cons_of_ne_nil named
  rfl

/-- What a tilde stands for is what it is expanded to. -/
theorem gives_iff {user : Text} {answer : Except HomeFault Path} :
    homes.Gives ('~' :: user) answer ↔ homes.expandTilde ('~' :: user) = answer := by
  constructor
  · intro gives
    cases gives with
    | own known => rw [expandTilde, known]
    | homeless unknown => rw [expandTilde, unknown]
    | user named readable known => simp only [expandTilde_of_ne_nil homes named, readable, known]
    | stranger named readable unknown =>
      simp only [expandTilde_of_ne_nil homes named, readable, unknown]
    | unreadable named failed => simp only [expandTilde_of_ne_nil homes named, failed]
  · rintro rfl
    by_cases named : user = []
    · subst named
      rw [expandTilde]
      split
      · next known => exact .own known
      · next unknown => exact .homeless unknown
    · rw [expandTilde_of_ne_nil homes named]
      split
      · next failed => exact .unreadable named failed
      · next readable =>
        split
        · next known => exact .user named readable known
        · next unknown => exact .stranger named readable unknown

/-- The answer for a name with a tilde in front: the rest, read from the home directory that what is
typed before the first slash stands for. -/
def Expanded (homes : Homes) (name : Path) (answer : Except HomeFault Path) : Prop :=
  ∃ given, homes.Gives name.typedFirst given ∧
    answer = given.map fun home => (home.joined name.typedRest).clean

/-- Names that are cleaned alike are resolved alike. -/
theorem resolve_congr {other : Path} (same : name.clean = other.clean) :
    homes.resolve name = homes.resolve other := by
  rw [resolve, resolve, same]

/-- Cleaning a name first makes no difference. -/
@[simp] theorem resolve_clean (homes : Homes) (name : Path) :
    homes.resolve name.clean = homes.resolve name :=
  resolve_congr (Path.clean_clean name)

/-- A tilde that stays in front is expanded. -/
theorem expanded_of_tilded (homes : Homes) (tilded : name.Tilded)
    (stays : ¬ name.typedRest.Climbs) :
    homes.Expanded name (homes.resolve name) := by
  have first := tilded.head?_typedFirst
  obtain ⟨user, shape⟩ : ∃ user, name.typedFirst = '~' :: user :=
    ⟨_, List.eq_cons_of_mem_head? first⟩
  refine ⟨homes.expandTilde name.typedFirst, ?_, ?_⟩
  · rw [shape]
    exact gives_iff.2 rfl
  · have anchored (home : Path) :
        (home.joined (Path.ofComponents name.typedRest.kept.reverse)).clean =
          (home.joined name.typedRest).clean := by
      exact Path.anchored_eq_of_kept home (Path.kept_ofComponents name.typedRest.settled_kept)
    rw [resolve, tilded.components_clean stays]
    simp only [first, ↓reduceIte, anchored]
    cases homes.expandTilde name.typedFirst <;> rfl

/-- A tilde that comes to the front is expanded. -/
theorem expanded_of_tilded_clean (homes : Homes) (tilded : name.clean.Tilded) :
    homes.Expanded name.clean (homes.resolve name) := by
  have stays := tilded.not_climbs_of_clean (Path.clean_clean name)
  have expanded := homes.expanded_of_tilded tilded stays
  rwa [resolve_clean] at expanded

/-- What a root name stands for, by where its tilde is. -/
structure Resolves (homes : Homes) (name : Path) : Prop where
  /-- A tilde that is typed in front is expanded, if the rest does not lead out of the home
  directory. -/
  expanded : name.Tilded → ¬ name.typedRest.Climbs → homes.Expanded name (homes.resolve name)
  /-- A rest that does undoes the tilde by its first step up, whoever's home it is: the name stands
  for what the rest stands for after that step. -/
  undone : name.Tilded → name.typedRest.Climbs →
    homes.resolve name =
      homes.resolve (Path.ofComponents name.typedRest.clean.components.tail)
  /-- A name without a tilde in front is only cleaned, if cleaning brings none there. -/
  cleaned : ¬ name.Tilded → ¬ name.clean.Tilded → homes.resolve name = .ok name.clean
  /-- A tilde that cleaning brings to the front is expanded. -/
  uncovered : ¬ name.Tilded → name.clean.Tilded →
    homes.Expanded name.clean (homes.resolve name)

/-- A root name is resolved by its clean form: a tilde is expanded where that starts with it. -/
theorem resolved_by_clean_name (homes : Homes) (name : Path) : homes.Resolves name where
  expanded := homes.expanded_of_tilded
  undone tilded climbs := resolve_congr (tilded.clean_of_climbs climbs)
  cleaned _ untilded := homes.resolve_of_head? untilded
  uncovered _ tilded := homes.expanded_of_tilded_clean tilded

/-- A user with a home directory, and no accounts. -/
def lone : Homes where
  own := some ⟨"/home/me".toList⟩
  accounts := .ok []

/-- A tilde that is typed in front is not expanded if the rest climbs, and nobody is missed whose
home directory is not known. One that is typed behind a dot is expanded. -/
theorem tilde_moved :
    lone.resolve ⟨"~/../x".toList⟩ = .ok ⟨"x".toList⟩ ∧
      ¬ lone.Expanded ⟨"~/../x".toList⟩ (lone.resolve ⟨"~/../x".toList⟩) ∧
      lone.resolve ⟨"~nobody/..".toList⟩ = .ok ⟨".".toList⟩ ∧
      lone.resolve ⟨"./~draft".toList⟩ = .error (.unknownUser "draft".toList) := by
  refine ⟨by decide, ?_, by decide, by decide⟩
  rintro ⟨given, gives, answer⟩
  have tilde : Path.typedFirst ⟨"~/../x".toList⟩ = ['~'] := by decide
  rw [tilde, gives_iff] at gives
  subst gives
  revert answer
  decide

/-! ## Names that have been resolved -/

/-- Whether all home directories are named from the root. -/
structure Absolute (homes : Homes) : Prop where
  own : ∀ home, homes.own = some home → home.isAbsolute = true
  users : ∀ accounts user home, homes.accounts = .ok accounts → homeOf accounts user = some home →
    home.isAbsolute = true

/-- It is enough that the sixth fields of the accounts are. -/
theorem Absolute.of_fields (own : ∀ home, homes.own = some home → home.isAbsolute = true)
    (users : ∀ accounts, homes.accounts = .ok accounts → ∀ line ∈ Text.lines accounts,
      (Text.split ':' line)[5]?.all (Path.isAbsolute ⟨·⟩) = true) : homes.Absolute where
  own := own
  users accounts user home readable known := by
    unfold homeOf at known
    dsimp only at known
    split at known
    · next fields found =>
      have isAccount := List.mem_of_find?_eq_some found
      obtain ⟨line, isLine, rfl⟩ := List.mem_map.1 isAccount
      obtain ⟨field, isField, rfl⟩ := Option.map_eq_some_iff.1 known
      have absolute := users accounts readable line (List.mem_filter.1 isLine).1
      rw [isField] at absolute
      exact absolute
    · cases known

theorem Absolute.of_gives (absolute : homes.Absolute) {tilde : Text} {home : Path}
    (gives : homes.Gives tilde (.ok home)) : home.isAbsolute = true := by
  cases gives with
  | own known => exact absolute.own _ known
  | user named readable known => exact absolute.users _ _ _ readable known

/-- Where home directories are absolute, a tilde is expanded to an absolute path. -/
theorem Absolute.of_expanded (absolute : homes.Absolute)
    (expanded : homes.Expanded name (.ok path)) :
    path.isAbsolute = true := by
  obtain ⟨given, gives, answer⟩ := expanded
  cases given with
  | error fault => cases answer
  | ok home =>
    obtain rfl := Except.ok.inj answer
    rw [Path.isAbsolute_clean, Path.isAbsolute_joined home name.isAbsolute_typedRest]
    exact absolute.of_gives gives

/-- Resolved names are stable. -/
structure Stable (homes : Homes) (name : Path) : Prop where
  /-- It does not matter whether the name is cleaned first. -/
  cleaned : homes.resolve name.clean = homes.resolve name
  /-- What the name stands for is clean. -/
  clean : ∀ path, homes.resolve name = .ok path → path.clean = path
  /-- It stands for itself. -/
  again : ∀ path, homes.resolve name = .ok path → homes.resolve path = .ok path
  /-- It is absolute if the name is, or if a tilde has been expanded. -/
  absolute : ∀ path, homes.resolve name = .ok path → name.isAbsolute = true ∨ name.clean.Tilded →
    path.isAbsolute = true
  /-- It is parsed like the name. -/
  parsed : ∀ path, homes.resolve name = .ok path →
    ∀ {σ : Type} (snapshot : Snapshot) (settings : Settings) (handler : Handler σ) (state : σ),
      parse snapshot settings handler homes path state =
        parse snapshot settings handler homes name state

/-- Where home directories are absolute, root names are resolved for good: nothing is expanded
twice. -/
theorem resolve_stable (absolute : homes.Absolute) (name : Path) : homes.Stable name := by
  have again (path : Path) (resolved : homes.resolve name = .ok path) :
      homes.resolve path = .ok path := by
    by_cases tilded : name.clean.Tilded
    · have expanded := homes.expanded_of_tilded_clean tilded
      rw [resolved] at expanded
      rw [homes.resolve_of_isAbsolute (absolute.of_expanded expanded), clean_of_resolve resolved]
    · have plain := homes.resolve_of_head? tilded
      obtain rfl : path = name.clean := Except.ok.inj (resolved.symm.trans plain)
      rw [resolve_clean, resolved]
  constructor
  · exact homes.resolve_clean name
  · exact fun path resolved => clean_of_resolve resolved
  · exact again
  · rintro path resolved (rooted | tilded)
    · have plain := homes.resolve_of_isAbsolute rooted
      obtain rfl : path = name.clean := Except.ok.inj (resolved.symm.trans plain)
      rw [Path.isAbsolute_clean, rooted]
    · have expanded := homes.expanded_of_tilded_clean tilded
      rw [resolved] at expanded
      exact absolute.of_expanded expanded
  · intro path resolved σ snapshot settings handler state
    rw [parse, parse, resolved, again path resolved]

/-- A user whose home directory is spelled by detours, and another whose home directory starts with
a tilde. -/
def housed : Homes where
  own := some ⟨"/srv//./~me/..".toList⟩
  accounts := .ok "bob:x:1:1::/~bob/./x:/bin/sh\n".toList

theorem housed_stable :
    housed.Absolute ∧
      housed.resolve ⟨"./~bob//a/../b".toList⟩ = .ok ⟨"/~bob/x/b".toList⟩ ∧
      housed.resolve ⟨"/~bob/x/b".toList⟩ = .ok ⟨"/~bob/x/b".toList⟩ := by
  have absolute : housed.Absolute := by
    refine .of_fields ?_ ?_
    · rintro home ⟨⟩
      decide
    · rintro accounts ⟨⟩
      decide
  have resolved : housed.resolve ⟨"./~bob//a/../b".toList⟩ = .ok ⟨"/~bob/x/b".toList⟩ := by
    decide
  exact ⟨absolute, resolved, (resolve_stable absolute _).again _ resolved⟩

/-- The path of an included file stands for itself as a root name, unless it starts with a tilde. -/
theorem resolve_includedFrom (homes : Homes) (current target : Path)
    (untilded : ¬ (current.includedFrom target).Tilded) :
    homes.resolve (current.includedFrom target) = .ok (current.includedFrom target) := by
  have clean := Path.clean_includedFrom current target
  rw [homes.resolve_of_head? (by rwa [clean]), clean]

end Homes

end Splice
