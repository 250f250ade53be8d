import Splice.Disk
import Splice.Proofs.Path.Length

/-!
# Where clean paths lead

A path is walked one component after the other: a name has to stand in the directory reached so far,
and a step up leads to the directory above. Where a walk succeeds, that of the clean path does and
leads to the same place (`walked?_clean`). The converse fails, as it should: a clean path no longer
shows the names that were undone, whether they stand anywhere or not.

The operating system asks for more: a path may be too long, and a slash may not follow a file.
Still, on a disk without links it finds by the clean path whatever it finds by the path
(`Linkless.locate_clean`). With links this fails, since a step up then leads to the directory above
the link's target.
-/

namespace Splice

namespace Disk

variable {disk : Disk} {here place place' : Place} {steps kept : List Component}

/-! ## Walking a path -/

/-- Where one component leads from a place. Only a directory has entries, and a directory above it;
the root is above itself. No link is followed. -/
def step? (disk : Disk) (here : Place) : Component → Option Place
  | .root => some []
  | .here => some here
  | .up => if disk.isDirectory here then some here.dropLast else none
  | .name name =>
    if disk.isDirectory here ∧ (disk.node? (here ++ [name])).isSome then some (here ++ [name])
    else none

/-- Where components lead, one after the other. -/
def walked? (disk : Disk) (here : Place) (steps : List Component) : Option Place :=
  steps.foldlM disk.step? here

@[simp] theorem walked?_nil : disk.walked? here [] = some here := rfl

@[simp] theorem walked?_cons (step : Component) :
    disk.walked? here (step :: steps) = (disk.step? here step).bind (disk.walked? · steps) := rfl

@[simp] theorem walked?_concat (step : Component) :
    disk.walked? here (steps ++ [step]) = (disk.walked? here steps).bind (disk.step? · step) := by
  rw [walked?, List.foldlM_append]
  simp [walked?]

theorem step?_up_eq_some_iff :
    disk.step? here .up = some place ↔ disk.isDirectory here = true ∧ here.dropLast = place := by
  simp [step?]

theorem step?_name_eq_some_iff {name : Text} :
    disk.step? here (.name name) = some place ↔
      (disk.isDirectory here = true ∧ (disk.node? (here ++ [name])).isSome = true) ∧
        here ++ [name] = place := by
  simp [step?]

/-- A plain component only leads on from a directory. -/
theorem isDirectory_of_step? {step : Component} (plain : step.Plain)
    (entered : disk.step? here step = some place) : disk.isDirectory here = true := by
  cases step with
  | root | here => exact plain.elim
  | up => exact (step?_up_eq_some_iff.1 entered).1
  | name name => exact (step?_name_eq_some_iff.1 entered).1.1

/-- Where a walk goes on by a step, so does the walk of what cleaning keeps of it: a step up that
undoes a name leads back to where the name was entered. -/
theorem walked?_keep {step : Component} (before : disk.walked? here kept.reverse = some place)
    (onward : disk.step? place step = some place') :
    disk.walked? here (Path.keep kept step).reverse = some place' := by
  have added : disk.walked? here (step :: kept).reverse = some place' := by
    rw [List.reverse_cons, walked?_concat, before]
    exact onward
  match step with
  | .root | .name _ => exact added
  | .here =>
    obtain rfl := Option.some.inj onward
    exact before
  | .up =>
    obtain ⟨-, above⟩ := step?_up_eq_some_iff.1 onward
    match kept with
    | [] | .here :: _ | .up :: _ => exact added
    | .root :: below =>
      have atRoot : place = [] := by
        rw [List.reverse_cons, walked?_concat, Option.bind_eq_some_iff] at before
        obtain ⟨_, -, entered⟩ := before
        exact (Option.some.inj entered).symm
      rw [Path.keep, before, ← above, atRoot]
      rfl
    | .name name :: below =>
      rw [List.reverse_cons, walked?_concat, Option.bind_eq_some_iff] at before
      obtain ⟨dir, reached, entered⟩ := before
      obtain ⟨-, inside⟩ := step?_name_eq_some_iff.1 entered
      rw [Path.keep, reached, ← above, ← inside, List.dropLast_concat]

/-- What cleaning keeps of a walk leads where the walk does. -/
theorem walked?_foldl_keep (before : disk.walked? here kept.reverse = some place)
    (onward : disk.walked? place steps = some place') :
    disk.walked? here (steps.foldl Path.keep kept).reverse = some place' := by
  induction steps generalizing kept place with
  | nil =>
    obtain rfl := Option.some.inj onward
    exact before
  | cons step rest ih =>
    rw [walked?_cons, Option.bind_eq_some_iff] at onward
    obtain ⟨next, entered, onward⟩ := onward
    exact ih (walked?_keep before entered) onward

/-- Where walking a path succeeds, walking the clean path does and leads to the same place. -/
theorem walked?_clean {path : Path} (walked : disk.walked? here path.components = some place) :
    disk.walked? here path.clean.components = some place := by
  have keeps : disk.walked? here (Path.cleanComponents path.components) = some place :=
    walked?_foldl_keep walked?_nil walked
  obtain same | ⟨dot, none⟩ := path.components_clean
  · rw [same, keeps]
  · rw [none] at keeps
    rw [dot]
    exact keeps

/-! ## The operating system -/

/-- A disk without links. -/
def Linkless (disk : Disk) : Prop :=
  ∀ entry ∈ disk.nodes, ∀ target, entry.2 ≠ .link target

theorem Linkless.node?_ne (linkless : disk.Linkless) (target : Text) :
    disk.node? place ≠ some (.link target) := by
  unfold node?
  split
  · simp
  · intro found
    obtain ⟨entry, isEntry, isLink⟩ := Option.map_eq_some_iff.1 found
    exact linkless entry (List.mem_of_find?_eq_some isEntry) target isLink

theorem isDirectory_root (disk : Disk) : disk.isDirectory [] = true := by
  simp [isDirectory, node?]

section

variable {links : Nat} {piece : Text} {pieces : List Text}

/-- The operating system only goes on from a directory. -/
theorem isDirectory_of_follow (followed : disk.follow links here (piece :: pieces) = .ok place) :
    disk.isDirectory here = true := by
  rw [follow] at followed
  split at followed
  · cases followed
  · next directory => simpa using directory

/-- In a directory, a piece that stands for nothing is passed over. -/
theorem follow_cons_of_none (directory : disk.isDirectory here = true)
    (nothing : Component.ofPiece? piece = none) :
    disk.follow links here (piece :: pieces) = disk.follow links here pieces := by
  have passed : piece = [] ∨ piece = ['.'] := by
    by_contra something
    rw [Component.ofPiece?, if_neg something] at nothing
    split at nothing <;> cases nothing
  rw [follow, directory, if_pos passed]
  rfl

/-- Where there are no links, any other piece is a step of the walk. -/
theorem Linkless.follow_cons_of_some (linkless : disk.Linkless)
    (directory : disk.isDirectory here = true) {step : Component}
    (stands : Component.ofPiece? piece = some step) :
    disk.follow links here (piece :: pieces) = .ok place ↔
      ∃ next, disk.step? here step = some next ∧ disk.follow links next pieces = .ok place := by
  unfold Component.ofPiece? at stands
  split at stands
  · cases stands
  · next something =>
    rw [follow, directory, if_neg something]
    split at stands
    · next up =>
      obtain rfl := Option.some.inj stands
      simp [step?, directory, up]
    · next notUp =>
      obtain rfl := Option.some.inj stands
      rw [if_neg notUp]
      cases found : disk.node? (here ++ [piece]) with
      | none =>
        simp only [Bool.not_true, Bool.false_eq_true, ↓reduceIte, step?, directory, found,
          Option.isSome_none, and_false, reduceCtorEq, false_and, exists_false, iff_false]
        split <;> simp
      | some node =>
        cases node with
        | file bytes => simp [step?, directory, found]
        | directory => simp [step?, directory, found]
        | link target => exact absurd found (linkless.node?_ne target)

/-- Where there are no links, whatever the operating system finds is found by walking. -/
theorem Linkless.walked?_of_follow (linkless : disk.Linkless)
    (followed : disk.follow links here pieces = .ok place) :
    disk.walked? here (pieces.filterMap Component.ofPiece?) = some place := by
  induction pieces generalizing here with
  | nil =>
    rw [follow] at followed
    exact congrArg some (Except.ok.inj followed)
  | cons piece rest ih =>
    have directory := isDirectory_of_follow followed
    rw [List.filterMap_cons]
    split
    · next nothing =>
      rw [follow_cons_of_none directory nothing] at followed
      exact ih followed
    · next step stands =>
      obtain ⟨next, entered, onward⟩ :=
        (linkless.follow_cons_of_some directory stands).1 followed
      rw [walked?_cons, entered]
      exact ih onward

/-- Where there are no links, the operating system finds what is found by walking plain
components. -/
theorem Linkless.follow_of_walked? (linkless : disk.Linkless)
    (plain : ∀ step ∈ steps, step.Plain) (walked : disk.walked? here steps = some place) :
    disk.follow links here (steps.map Component.text) = .ok place := by
  induction steps generalizing here with
  | nil =>
    obtain rfl := Option.some.inj walked
    rw [List.map_nil, follow]
  | cons step rest ih =>
    rw [List.forall_mem_cons] at plain
    rw [walked?_cons, Option.bind_eq_some_iff] at walked
    obtain ⟨next, entered, onward⟩ := walked
    have directory := isDirectory_of_step? plain.1 entered
    rw [List.map_cons, linkless.follow_cons_of_some directory plain.1.ofPiece?_text]
    exact ⟨next, entered, ih plain.2 onward⟩

/-- So it does where they are spelled by a text. -/
theorem Linkless.follow_split_join (linkless : disk.Linkless) (notNil : steps ≠ [])
    (plain : ∀ step ∈ steps, step.Plain)
    (walked : disk.walked? here (Path.steps ⟨Text.join ['/'] (steps.map Component.text)⟩) =
      some place) :
    disk.follow links here (Text.split '/' (Text.join ['/'] (steps.map Component.text))) =
      .ok place := by
  rw [Path.steps, Path.split_join_text notNil plain, Path.filterMap_ofPiece? plain] at walked
  rw [Path.split_join_text notNil plain]
  exact linkless.follow_of_walked? plain walked

/-- A canonical spelling has no piece too many: where there are no links, the operating system finds
by it what is found by walking. -/
theorem Linkless.follow_of_canonical (linkless : disk.Linkless) {text : Text}
    (canonical : Path.Canonical text) (directory : disk.isDirectory (startOf text here) = true)
    (walked : disk.walked? (startOf text here) (Path.steps ⟨text⟩) = some place) :
    disk.follow links (startOf text here) (Text.split '/' text) = .ok place := by
  cases canonical with
  | here =>
    obtain rfl : startOf ['.'] here = place := Option.some.inj walked
    have split : Text.split '/' ['.'] = [['.']] := rfl
    rw [split, follow_cons_of_none directory rfl, follow]
  | @rooted names plain =>
    have start : startOf ('/' :: Text.join ['/'] names) here = [] := rfl
    rw [start] at walked ⊢
    rw [Text.split_cons_separator, follow_cons_of_none (isDirectory_root disk) rfl]
    rw [Path.steps, Text.split_cons_separator, List.filterMap_cons] at walked
    by_cases none : names = []
    · subst none
      obtain rfl : [] = place := Option.some.inj walked
      have split : Text.split '/' (Text.join ['/'] []) = [[]] := rfl
      rw [split, follow_cons_of_none (isDirectory_root disk) rfl, follow]
    · rw [← Path.map_text_names names] at walked ⊢
      exact linkless.follow_split_join (by simpa using none) (Path.plain_names plain) walked
  | @bare ups names plain something =>
    rw [← Path.map_text_bare] at walked ⊢
    exact linkless.follow_split_join (Path.bare_ne_nil_iff.2 something) (Path.plain_bare ups plain)
      walked

/-- What it takes for the operating system to find something. -/
theorem locate_eq_ok_iff {path : Path} :
    disk.locate here path = .ok place ↔
      path.text ≠ [] ∧ '\x00' ∉ path.text ∧ (Utf8.encode path.text).length < maxPath ∧
        disk.follow maxLinks (startOf path.text here) (Text.split '/' path.text) = .ok place := by
  unfold locate
  by_cases empty : path.text = []
  · simp [empty]
  · by_cases zero : '\x00' ∈ path.text
    · simp [empty, zero]
    · by_cases long : maxPath ≤ (Utf8.encode path.text).length
      · simp [empty, zero, long, Nat.not_lt.2 long]
      · simp [empty, zero, long, Nat.not_le.1 long]

/-- Walking a path is walking its steps from where it starts. -/
theorem walked?_components (path : Path) :
    disk.walked? here path.components = disk.walked? (startOf path.text here) path.steps := by
  have start : startOf path.text here = if path.isAbsolute then [] else here := by
    simp [startOf, Path.isAbsolute]
  rw [start, Path.components, ← Path.steps]
  cases path.isAbsolute with
  | true => rfl
  | false =>
    simp only [Bool.false_eq_true, ↓reduceIte]
    split <;> rfl

/-- Where there are no links, the operating system finds by the clean path what it finds by the
path. -/
theorem Linkless.locate_clean (linkless : disk.Linkless) {path : Path}
    (located : disk.locate here path = .ok place) : disk.locate here path.clean = .ok place := by
  obtain ⟨something, noZero, short, followed⟩ := locate_eq_ok_iff.1 located
  have start : startOf path.clean.text here = startOf path.text here := by
    have absolute := path.isAbsolute_clean
    rw [Path.isAbsolute, Path.isAbsolute, Bool.eq_iff_iff, beq_iff_eq, beq_iff_eq] at absolute
    rw [startOf, startOf]
    simp only [absolute]
  have directory : disk.isDirectory (startOf path.clean.text here) = true := by
    obtain ⟨piece, pieces, divided⟩ := Text.exists_split_eq_cons '/' path.text
    rw [divided] at followed
    rw [start]
    exact isDirectory_of_follow followed
  have walked : disk.walked? (startOf path.clean.text here) path.clean.steps = some place := by
    rw [← walked?_components]
    apply walked?_clean
    rw [walked?_components]
    exact linkless.walked?_of_follow followed
  refine locate_eq_ok_iff.2 ⟨?_, ?_, ?_, ?_⟩
  · exact path.canonical_clean.ne_nil
  · intro isIn
    rcases Path.mem_text_clean isIn with isIn | dot | slash
    · exact noZero isIn
    · cases dot
    · cases slash
  · exact Nat.lt_of_le_of_lt (Path.length_encode_clean_le something) short
  · exact linkless.follow_of_canonical path.canonical_clean directory walked

end

end Disk

/-- Cleaning two paths that are joined changes nothing once the whole is cleaned. -/
theorem Path.clean_joined_clean (base path : Path) :
    (base.clean.joined path.clean).clean = (base.joined path).clean := by
  cases start : path.isAbsolute with
  | true =>
    have start' : path.clean.isAbsolute = true := by rw [isAbsolute_clean, start]
    rw [joined_of_isAbsolute base start, joined_of_isAbsolute base.clean start', clean_clean]
  | false =>
    have start' : path.clean.isAbsolute = false := by rw [isAbsolute_clean, start]
    apply clean_eq_of_kept
    rw [kept_joined base start, kept_joined base.clean start', kept_clean, kept_clean]

/-- Cleaning keeps what a path means. Joined paths may be cleaned before or after. A walk that
succeeds, from any place of any disk, succeeds by the clean path and leads to the same place; and so
it is with what the operating system finds, where there are no links. -/
theorem Path.clean_keeps_meaning :
    (∀ base path : Path, (base.joined path).clean = (base.clean.joined path.clean).clean) ∧
      (∀ (disk : Disk) (here place : Place) (path : Path),
        disk.walked? here path.components = some place →
          disk.walked? here path.clean.components = some place) ∧
      ∀ disk : Disk, disk.Linkless → ∀ (here place : Place) (path : Path),
        disk.locate here path = .ok place → disk.locate here path.clean = .ok place := by
  refine ⟨fun base path => ?_, fun disk here place path walked => ?_,
    fun disk linkless here place path located => ?_⟩
  · exact (clean_joined_clean base path).symm
  · exact Disk.walked?_clean walked
  · exact linkless.locate_clean located

/-- Two directories, and a file in one of them. -/
def Disk.paired : Disk where
  nodes := [(["near".toList], .directory), (["far".toList], .directory),
    (["far".toList, "file".toList], .file [])]

theorem Disk.paired_walked :
    paired.walked? ["near".toList] (Path.components ⟨"../..//far/../far/./file".toList⟩) =
        some ["far".toList, "file".toList] ∧
      paired.walked? ["near".toList] (Path.clean ⟨"../..//far/../far/./file".toList⟩).components =
        some ["far".toList, "file".toList] ∧
      paired.Linkless ∧
      paired.locate [] ⟨"near/../far".toList⟩ = .ok ["far".toList] ∧
      paired.locate [] (Path.clean ⟨"near/../far".toList⟩) = .ok ["far".toList] := by
  have walked : paired.walked? ["near".toList]
      (Path.components ⟨"../..//far/../far/./file".toList⟩) =
        some ["far".toList, "file".toList] := by decide
  have linkless : paired.Linkless := by
    simp [Linkless, paired]
  have located : paired.locate [] ⟨"near/../far".toList⟩ = .ok ["far".toList] := by
    have steps : paired.walked? [] [.name "near".toList, .up, .name "far".toList] =
        some ["far".toList] := by decide
    have plain : ∀ step ∈ [.name "near".toList, .up, .name "far".toList], Component.Plain step := by
      simp [Component.Plain]
    exact locate_eq_ok_iff.2
      ⟨by decide, by decide, by decide, linkless.follow_of_walked? plain steps⟩
  exact ⟨walked, Path.clean_keeps_meaning.2.1 _ _ _ _ walked, linkless, located,
    Path.clean_keeps_meaning.2.2 _ linkless _ _ _ located⟩

end Splice
