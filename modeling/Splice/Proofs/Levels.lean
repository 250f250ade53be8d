import Mathlib.Data.List.Induction
import Mathlib.Data.List.Infix
import Splice.Proofs.Origin
import Splice.Proofs.Path.Joined

/-!
# Directives level by level

A directive is read from the directory of the file that it stands in, and at every level of
inclusion (`included_level_by_level`): wherever the files are looked at from, the target of a
directive is found from the directory where the including file is found. Once a target is named from
the root, it does not matter any more where that is.

Home directories play no part below the root file. A name with a tilde in front is kept like any
other name, unless steps up behind it lead out of it again.
-/

namespace Splice

namespace Path

/-! ## Steps behind a name -/

/-- Steps lead out of where they start: one of them leads up, after others that lead back there. -/
def LeadOut (steps : List Component) : Prop :=
  ∃ back onward, steps = back ++ .up :: onward ∧ back.foldl keep [] = []

/-- What begins with steps that lead out does so as well. -/
theorem LeadOut.append {steps : List Component} (out : LeadOut steps) (more : List Component) :
    LeadOut (steps ++ more) := by
  obtain ⟨back, onward, rfl, nowhere⟩ := out
  exact ⟨back, onward ++ more, by simp, nowhere⟩

/-- A name stays where it is, unless steps lead out of it. The induction takes the steps from the
end: a step up that would undo the name finds nothing above it, and so leads out. -/
theorem foldl_keep_name (below : List Component) (name : Text) {steps : List Component}
    (stay : ¬ LeadOut steps) :
    steps.foldl keep (.name name :: below) = steps.foldl keep [] ++ .name name :: below := by
  induction steps using List.reverseRecOn with
  | nil => rfl
  | append_singleton before step ih =>
    have onward := ih fun out => stay (out.append [step])
    rw [List.foldl_append, List.foldl_append, onward]
    cases step with
    | root => rfl
    | here => rfl
    | name text => rfl
    | up =>
      cases shape : before.foldl keep [] with
      | nil => exact absurd ⟨before, [], rfl, shape⟩ stay
      | cons last rest => cases last <;> rfl

/-- A name is undone by the step up that leads out of it. -/
theorem foldl_keep_undone (below : List Component) (name : Text) {back : List Component}
    (plain : ∀ step ∈ back, step.Plain) (nowhere : back.foldl keep [] = []) :
    (Component.name name :: back ++ [Component.up]).foldl keep below = below := by
  have returned : back.foldl keep (.name name :: below) = .name name :: below := by
    rw [← foldl_keep_kept _ plain, nowhere]
    rfl
  have entered : keep below (.name name) = .name name :: below := rfl
  rw [List.cons_append, List.foldl_cons, entered, List.foldl_append, returned]
  rfl

/-! ## One directive -/

/-- A path ends in a name, as those of files do. -/
def Named (path : Path) : Prop :=
  path.fileName?.isSome = true

instance (path : Path) : Decidable path.Named :=
  inferInstanceAs (Decidable (_ = true))

section

variable {base path target : Path}

/-- The name that a clean path ends in is kept. -/
theorem Named.exists_kept (named : path.Named) (clean : path.clean = path) :
    ∃ text below, path.kept = .name text :: below := by
  obtain rfl | rfl | up | kept := kept_cases clean
  · cases named
  · cases named
  · rw [Named, fileName?, up] at named
    cases named
  · exact kept

/-- A clean path that is read from a directory ends in the same name. -/
theorem exists_kept_anchored (base : Path) {text : Text} {below : List Component}
    (clean : path.clean = path) (named : path.kept = .name text :: below) :
    ∃ below', (base.anchored path).kept = .name text :: below' := by
  cases start : path.isAbsolute with
  | true => exact ⟨below, by rw [anchored_of_isAbsolute base clean start, named]⟩
  | false =>
    refine ⟨below.reverse.foldl keep base.kept, ?_⟩
    rw [anchored, kept_clean, kept_joined base start, named, List.reverse_cons, List.foldl_append]
    rfl

/-- What is kept of the file that a directive leads to: the steps of the target, from the root or
from the directory of the file that the directive stands in. -/
theorem kept_includedFrom (path target : Path) :
    (path.includedFrom target).kept =
      target.steps.foldl keep
        (if target.isAbsolute then [.root] else (path.parent?.getD ⟨[]⟩).kept) := by
  cases origin : target.isAbsolute with
  | true =>
    rw [includedFrom, if_pos origin, kept_clean, kept_eq, start, origin]
    rfl
  | false =>
    rw [includedFrom, if_neg (by simp [origin]), kept_clean, kept_joined_steps _ origin]
    rfl

/-- From whatever directory the including file is read, the target is found in the directory that it
is found in. -/
theorem exists_parent_anchored (base target : Path) (clean : path.clean = path)
    (named : path.Named) :
    ∃ dir, (base.anchored path).parent? = some dir ∧
      base.anchored (path.includedFrom target) = (dir.joined target).clean := by
  obtain ⟨text, below, kept⟩ := named.exists_kept clean
  obtain ⟨below', kept'⟩ := exists_kept_anchored base clean kept
  obtain ⟨dir, parent, -, -⟩ := exists_parent (clean_anchored base path) kept'
  refine ⟨dir, parent, ?_⟩
  rw [← includedFrom_anchored base target clean kept, includedFrom, parent]
  cases origin : target.isAbsolute with
  | true => rw [if_pos rfl, joined_of_isAbsolute dir origin]
  | false => rfl

/-- A directive leads to an absolute path if its target is absolute, or the file that it stands
in. -/
theorem isAbsolute_includedFrom (clean : path.clean = path) (named : path.Named)
    (absolute : path.isAbsolute = true ∨ target.isAbsolute = true) :
    (path.includedFrom target).isAbsolute = true := by
  cases origin : target.isAbsolute with
  | true => rw [includedFrom, if_pos origin, isAbsolute_clean, origin]
  | false =>
    obtain ⟨text, below, kept⟩ := named.exists_kept clean
    obtain ⟨dir, parent, -, start⟩ := exists_parent clean kept
    rw [includedFrom, if_neg (by simp [origin]), parent, isAbsolute_clean, Option.getD_some,
      isAbsolute_joined dir origin, start]
    simpa [origin] using absolute

end

/-! ## Directives one after the other -/

/-- Where directives lead from a file, each of them in the file that the one before it leads to. -/
def reached (first : Path) (targets : List Path) : Path :=
  targets.foldl includedFrom first

section

variable {first target : Path} {targets : List Path}

@[simp] theorem reached_nil (first : Path) : first.reached [] = first := rfl

@[simp] theorem reached_concat (first : Path) (targets : List Path) (target : Path) :
    first.reached (targets ++ [target]) = (first.reached targets).includedFrom target := by
  rw [reached, List.foldl_append]
  rfl

/-- All files that are reached from a clean path have clean paths. -/
theorem clean_reached (clean : first.clean = first) (targets : List Path) :
    (first.reached targets).clean = first.reached targets := by
  induction targets using List.reverseRecOn with
  | nil => exact clean
  | append_singleton before target _ => rw [reached_concat, clean_includedFrom]

/-- All files on the way end in names, from the first to the last. -/
def NamedAlong (first : Path) (targets : List Path) : Prop :=
  ∀ before, before <+: targets → (first.reached before).Named

instance : Decidable (first.NamedAlong targets) :=
  decidable_of_iff (∀ before ∈ targets.inits, (first.reached before).Named) <| by
    simp only [List.mem_inits, NamedAlong]

/-- Behind an absolute target, all files have absolute paths. -/
theorem isAbsolute_reached (clean : first.clean = first) (named : first.NamedAlong targets)
    (absolute : ∃ path ∈ first :: targets, path.isAbsolute = true) :
    (first.reached targets).isAbsolute = true := by
  induction targets using List.reverseRecOn with
  | nil =>
    obtain ⟨path, isFirst, absolute⟩ := absolute
    rwa [List.mem_singleton.1 isFirst] at absolute
  | append_singleton before target ih =>
    have onTheWay : before <+: before ++ [target] := List.prefix_append _ _
    rw [reached_concat]
    refine isAbsolute_includedFrom (clean_reached clean before) (named before onTheWay) ?_
    obtain ⟨path, isIn, absolute⟩ := absolute
    rw [← List.cons_append, List.mem_append, List.mem_singleton] at isIn
    rcases isIn with earlier | rfl
    · exact .inl (ih (fun inner isPrefix => named inner (isPrefix.trans onTheWay))
        ⟨path, earlier, absolute⟩)
    · exact .inr absolute

end

/-- How the target of a directive is found, in a file that other directives have led to, all looked
at from the directory `base`. -/
structure Level (base first : Path) (before : List Path) (target : Path) : Prop where
  /-- It is found from the directory where the including file is found. -/
  inDirectory : ∃ dir, (base.joined (first.reached before)).clean.parent? = some dir ∧
    (base.joined (first.reached (before ++ [target]))).clean = (dir.joined target).clean
  /-- It is found alike from everywhere, if the root file or any target so far is named from the
  root. -/
  absolute : (∃ path ∈ first :: (before ++ [target]), path.isAbsolute = true) →
    (base.joined (first.reached (before ++ [target]))).clean = first.reached (before ++ [target])
  /-- Its path is clean. -/
  clean : (first.reached (before ++ [target])).clean = first.reached (before ++ [target])
  /-- A name in the target with a tilde in front is kept as a name, if the steps behind it do not
  lead out of it. -/
  tildeKept : ∀ inside user onward, target.steps = inside ++ .name ('~' :: user) :: onward →
    ¬ LeadOut onward →
    ∃ above, (first.reached (before ++ [target])).components =
      above ++ .name ('~' :: user) :: (onward.foldl keep []).reverse
  /-- If they do, the target leads where it leads without the name and all that undoes it. -/
  tildeUndone : ∀ inside user back onward,
    target.steps = inside ++ .name ('~' :: user) :: back ++ .up :: onward →
    back.foldl keep [] = [] → ∀ shorter : Path, shorter.isAbsolute = target.isAbsolute →
    shorter.steps = inside ++ onward →
      first.reached (before ++ [target]) = first.reached (before ++ [shorter])

section

variable {base first target : Path} {before targets : List Path}

/-- The target of each directive is found from the directory of the file that it stands in. -/
theorem level (base target : Path) (clean : first.clean = first)
    (named : first.NamedAlong (before ++ [target])) : Level base first before target where
  inDirectory := by
    have clean' := clean_reached clean before
    rw [reached_concat]
    exact exists_parent_anchored base target clean' (named before (List.prefix_append _ _))
  absolute absolute :=
    anchored_of_isAbsolute base (clean_reached clean _) (isAbsolute_reached clean named absolute)
  clean := clean_reached clean _
  tildeKept := by
    intro inside user onward shape stay
    have kept := kept_includedFrom (first.reached before) target
    rw [shape, List.foldl_append, List.foldl_cons] at kept
    change _ = onward.foldl keep (.name ('~' :: user) :: _) at kept
    rw [foldl_keep_name _ _ stay] at kept
    have some : ((first.reached before).includedFrom target).kept ≠ [] := by simp [kept]
    rw [reached_concat, components_of_clean (clean_includedFrom _ target) some, kept,
      List.reverse_append, List.reverse_cons, List.append_assoc]
    exact ⟨_, rfl⟩
  tildeUndone := by
    intro inside user back onward shape nowhere shorter start steps
    have plain : ∀ step ∈ back, step.Plain := by
      intro step isIn
      refine target.plain_steps step ?_
      simp [shape, isIn]
    have undone (below : List Component) := foldl_keep_undone below ('~' :: user) plain nowhere
    have divided : inside ++ .name ('~' :: user) :: back ++ .up :: onward =
        inside ++ ((.name ('~' :: user) :: back ++ [.up]) ++ onward) := by simp
    rw [reached_concat, reached_concat]
    refine eq_of_kept (clean_includedFrom _ _) (clean_includedFrom _ _) ?_
    rw [kept_includedFrom, kept_includedFrom, start, steps, shape, divided, List.foldl_append,
      List.foldl_append, undone, List.foldl_append]

end

end Path

/-- Every file that a parse comes to is reached by directives from the file that the root name
stands for. -/
theorem Trail.exists_reached {snapshot : Snapshot} {settings : Settings} {homes : Homes}
    {root first path : Path} {links : List (Path × Nat)} (resolved : homes.resolve root = .ok first)
    (trail : Trail snapshot settings homes root links path) :
    ∃ targets, targets.length = links.length ∧ path = first.reached targets := by
  induction trail with
  | root resolved' =>
    obtain rfl : first = _ := Except.ok.inj (resolved.symm.trans resolved')
    exact ⟨[], rfl, rfl⟩
  | inner _ directs ih =>
    obtain ⟨targets, length, rfl⟩ := ih
    obtain ⟨_, _, name, -, -, -, -, rfl⟩ := directs
    exact ⟨targets ++ [⟨name⟩], by simp [length], (Path.reached_concat _ _ _).symm⟩

/-- Directives are read from the directories of the files that they stand in, at every level. What
they lead to is found from there wherever the files are looked at from, and whatever is known about
home directories: these count for what the root name stands for, and nothing below it. -/
theorem included_level_by_level {first : Path} {targets : List Path} (clean : first.clean = first)
    (named : first.NamedAlong targets) :
    (∀ base before target, before ++ [target] <+: targets →
      Path.Level base first before target) ∧
    (∀ snapshot settings homes root links path, homes.resolve root = .ok first →
      Trail snapshot settings homes root links path →
      ∃ targets, targets.length = links.length ∧ path = first.reached targets) ∧
    ∀ {σ : Type} (snapshot : Snapshot) (settings : Settings) (handler : Handler σ) (state : σ)
      (homes homes' : Homes) (root root' : Path),
      homes.resolve root = .ok first → homes'.resolve root' = .ok first →
      parse snapshot settings handler homes root state =
        parse snapshot settings handler homes' root' state := by
  refine ⟨?_, ?_, ?_⟩
  · intro base before target isPrefix
    exact Path.level base target clean fun inner isPrefix' => named inner (isPrefix'.trans isPrefix)
  · intro snapshot settings homes root links path resolved trail
    exact trail.exists_reached resolved
  · intro σ snapshot settings handler state homes homes' root root' resolved resolved'
    rw [parse, parse, resolved, resolved']

/-- Names with tildes, one of them undone, a way out of the directory of the first file, and a
target that is named from the root. -/
theorem tildes_level_by_level :
    let first : Path := ⟨"conf/main".toList⟩
    let targets : List Path :=
      [⟨"~me/../sub/~a".toList⟩, ⟨"../../../b".toList⟩, ⟨"/etc/~c".toList⟩, ⟨"d".toList⟩]
    first.clean = first ∧ first.NamedAlong targets ∧
      first.reached (targets.take 1) = ⟨"conf/sub/~a".toList⟩ ∧
      first.reached (targets.take 2) = ⟨"../b".toList⟩ ∧
      first.reached targets = ⟨"/etc/d".toList⟩ ∧
      (Path.joined ⟨"/srv".toList⟩ (first.reached (targets.take 2))).clean = ⟨"/b".toList⟩ ∧
      ∃ dir : Path, (Path.joined ⟨"/srv".toList⟩ (first.reached (targets.take 1))).clean.parent? =
        some dir ∧ (dir.joined ⟨"../../../b".toList⟩).clean = ⟨"/b".toList⟩ := by
  intro first targets
  have clean : first.clean = first := by decide
  have named : first.NamedAlong targets := by decide
  have level := (included_level_by_level clean named).1 ⟨"/srv".toList⟩ (targets.take 1)
    ⟨"../../../b".toList⟩ ⟨_, rfl⟩
  obtain ⟨dir, parent, found⟩ := level.inDirectory
  have answer : (Path.joined ⟨"/srv".toList⟩ (first.reached (targets.take 2))).clean =
      ⟨"/b".toList⟩ := by decide
  exact ⟨clean, named, by decide, by decide, by decide, answer, dir, parent, found ▸ answer⟩

end Splice
