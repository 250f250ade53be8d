import Splice.Disk.Walk
import Splice.Proofs.Path.Joined

/-!
# Paths below a directory

What lies below a directory is spelled by the path of the directory and the names that lead there
from it. Seen from the directory, such a path is the names alone (`relativeTo_below`), however the
directory itself is spelled.
-/

namespace Splice

/-- Pieces in two lots are joined by one more separator. -/
theorem Text.join_append (separator : Text) {first rest : List Text} (notNil : first ≠ [])
    (notNil' : rest ≠ []) :
    join separator (first ++ rest) = join separator first ++ separator ++ join separator rest := by
  induction first with
  | nil => exact absurd rfl notNil
  | cons piece more ih =>
    cases more with
    | nil =>
      obtain ⟨next, others, rfl⟩ := List.exists_cons_of_ne_nil notNil'
      simp
    | cons next others =>
      have onward := ih (List.cons_ne_nil _ _)
      rw [List.cons_append, List.cons_append, join_cons_cons, join_cons_cons,
        ← List.cons_append, onward]
      simp

namespace Path

variable {path : Path}

/-! ## Components -/

/-- The components of a path are its steps, after the root or a dot where it starts with one. -/
theorem components_eq (path : Path) :
    path.components =
      (if path.isAbsolute then [.root]
        else if (Text.split '/' path.text).head? = some ['.'] then [.here] else []) ++
        path.steps := by
  unfold components steps
  dsimp only
  split
  · rfl
  · split <;> rfl

/-- A path that is read from a directory starts with a dot where the directory does. -/
theorem head?_split_joined (base : Path) (relative : path.isAbsolute = false)
    (dotless : (Text.split '/' path.text).head? ≠ some ['.']) :
    (Text.split '/' (base.joined path).text).head? = some ['.'] ↔
      (Text.split '/' base.text).head? = some ['.'] := by
  have divided (before after : Text) : (Text.split '/' (before ++ '/' :: after)).head? =
      (Text.split '/' before).head? := by
    obtain ⟨first, more, shape⟩ := Text.exists_split_eq_cons '/' before
    rw [Text.split_append_separator, shape]
    rfl
  rw [joined, if_neg (by simp [relative])]
  by_cases ended : base.text.getLast? = some '/'
  · obtain ⟨front, shape⟩ := List.getLast?_eq_some_iff.1 ended
    rw [if_pos (.inr ended), shape, List.append_assoc, List.singleton_append, divided, divided]
  · by_cases empty : base.text = []
    · have nowhere : (Text.split '/' []).head? ≠ some ['.'] := by decide
      rw [if_pos (.inl empty), empty, List.nil_append]
      exact iff_of_false dotless nowhere
    · rw [if_neg (not_or_intro empty ended), divided]

/-- A relative path that is read from a directory continues the components of the directory. -/
theorem components_joined (base : Path) (relative : path.isAbsolute = false)
    (dotless : (Text.split '/' path.text).head? ≠ some ['.']) :
    (base.joined path).components = base.components ++ path.steps := by
  rw [components_eq, components_eq base, isAbsolute_joined base relative,
    steps_joined base relative, List.append_assoc]
  simp only [head?_split_joined base relative dotless]

/-- What continues some components is seen from there. -/
theorem stepsFrom_append (base steps : List Component) :
    stepsFrom base (base ++ steps) = steps := by
  induction base with
  | nil => simp [stepsFrom]
  | cons step rest ih => simpa [stepsFrom] using ih

end Path

/-! ## Names -/

instance (name : Text) : Decidable (Component.name name).Plain :=
  inferInstanceAs (Decidable (_ ∧ _))

/-- Names that lead to something below a directory, by the directories in between. -/
structure Names (names : List Text) : Prop where
  notNil : names ≠ []
  plain : ∀ name ∈ names, (Component.name name).Plain

namespace Names

variable {names above below : List Text}

theorem singleton {name : Text} (plain : (Component.name name).Plain) : Names [name] where
  notNil := List.cons_ne_nil _ _
  plain := List.forall_mem_singleton.2 plain

theorem append (first : Names above) (rest : Names below) : Names (above ++ below) where
  notNil := List.append_ne_nil_of_left_ne_nil first.notNil below
  plain := List.forall_mem_append.2 ⟨first.plain, rest.plain⟩

/-- Joined names are the names before a slash and those after it. -/
theorem join_append (first : Names above) (rest : Names below) :
    Text.join ['/'] (above ++ below) = Text.join ['/'] above ++ '/' :: Text.join ['/'] below := by
  rw [Text.join_append _ first.notNil rest.notNil, List.append_assoc]
  rfl

/-- Names are the pieces of what they are joined to. -/
theorem split_join (proper : Names names) :
    Text.split '/' (Text.join ['/'] names) = names :=
  Text.split_join proper.notNil fun name isIn => (proper.plain name isIn).slash_notMem

/-- Each of them is a step. -/
theorem steps_join (proper : Names names) :
    Path.steps ⟨Text.join ['/'] names⟩ = names.map .name := by
  have plain : ∀ step ∈ names.map Component.name, step.Plain := by
    simpa using proper.plain
  have texts : (names.map Component.name).map Component.text = names := by
    simp [Component.text, Function.comp_def]
  have steps := Path.filterMap_ofPiece? plain
  rw [texts] at steps
  rw [Path.steps, proper.split_join, steps]

/-- They start neither at the root nor with a dot. -/
theorem relative_join (proper : Names names) :
    Path.isAbsolute ⟨Text.join ['/'] names⟩ = false ∧
      (Text.split '/' (Text.join ['/'] names)).head? ≠ some ['.'] := by
  obtain ⟨name, rest, rfl⟩ := List.exists_cons_of_ne_nil proper.notNil
  have plain := proper.plain name List.mem_cons_self
  have notNil : name ≠ [] := plain.text_ne_nil
  obtain ⟨c, more, rfl⟩ := List.exists_cons_of_ne_nil notNil
  have notSlash : c ≠ '/' := fun same => plain.slash_notMem (by simp [Component.text, same])
  constructor
  · cases rest <;> simp [Path.isAbsolute, notSlash]
  · rw [proper.split_join, List.head?_cons, ne_eq, Option.some.injEq]
    exact plain.text_ne_dot

end Names

namespace Disk

variable {names : List Text}

theorem components_below (root : Path) (proper : Names names) :
    (below root names).components = root.components ++ names.map .name := by
  obtain ⟨relative, dotless⟩ := proper.relative_join
  rw [below, if_neg proper.notNil, Path.components_joined root relative dotless, proper.steps_join]

/-- What lies below a directory is not the directory. -/
theorem sameAs_below (root : Path) (proper : Names names) :
    (below root names).sameAs root = false := by
  rw [Path.sameAs, components_below root proper]
  simpa using proper.notNil

/-- Seen from the directory, it is the names. -/
theorem relativeTo_below (root : Path) (proper : Names names) :
    (root.relativeTo (below root names)).text = Text.join ['/'] names := by
  rw [Path.relativeTo, components_below root proper, Path.stepsFrom_append]
  obtain ⟨name, rest, rfl⟩ := List.exists_cons_of_ne_nil proper.notNil
  simp [Path.ofComponents, Component.text, Function.comp_def]

end Disk

end Splice
