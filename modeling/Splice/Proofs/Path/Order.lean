import Mathlib.Data.Char
import Mathlib.Data.List.Lex
import Mathlib.Data.Prod.Lex
import Splice.Proofs.Path.Below

/-!
# The order of paths

Paths are ordered by their components: `precedes_iff` compares them as lists in dictionary order,
with a place for each kind of component and the order of texts among names. So the order is linear
on components, and a list of paths that is put in order is in strict order where no two of its paths
have the same components (`pairwise_precedes_mergeSort`). Such a list is known by its members alone
(`eq_of_precedes`).
-/

namespace Splice

/-- Where a component stands in the order of components: its kind, then the text of a name. -/
def Component.key : Component → ℕ ×ₗ Text
  | .root => toLex (0, [])
  | .here => toLex (1, [])
  | .up => toLex (2, [])
  | .name text => toLex (3, text)

theorem Component.key_injective : Function.Injective key := by
  intro left right same
  cases left <;> cases right <;> simp_all [key]

theorem Component.precedes_iff {left right : Component} :
    left.precedes right = true ↔ left.key < right.key := by
  cases left <;> cases right <;> simp [precedes, key, rank, Text.precedes, Prod.Lex.toLex_lt_toLex]

namespace Path

/-- Where a path stands in the order of paths. -/
def key (path : Path) : List (ℕ ×ₗ Text) :=
  path.components.map Component.key

variable {left right : Path}

/-- Paths with the same components stand in the same place. -/
theorem key_eq_iff : left.key = right.key ↔ left.components = right.components :=
  (List.map_injective_iff.2 Component.key_injective).eq_iff

/-- The order of paths is the dictionary order of their components. -/
theorem precedes_iff : left.precedes right = true ↔ left.key < right.key := by
  have components (lefts rights : List Component) :
      componentsPrecede lefts rights = true ↔
        lefts.map Component.key < rights.map Component.key := by
    induction lefts generalizing rights with
    | nil => cases rights <;> simp [componentsPrecede]
    | cons first more ih =>
      cases rights with
      | nil => simp [componentsPrecede]
      | cons other others =>
        rw [componentsPrecede, Bool.or_eq_true, Bool.and_eq_true, beq_iff_eq, ih,
          Component.precedes_iff, List.map_cons, List.map_cons, List.cons_lt_cons_iff,
          Component.key_injective.eq_iff]
  exact components left.components right.components

/-- Sorting puts paths in order. -/
theorem pairwise_le_mergeSort (paths : List Path) :
    (paths.mergeSort fun left right => !right.precedes left).Pairwise fun left right =>
      left.key ≤ right.key := by
  have le_iff (left right : Path) : (!right.precedes left) = true ↔ left.key ≤ right.key := by
    rw [Bool.not_eq_true', ← Bool.not_eq_true, precedes_iff, not_lt]
  have transitive (first second third : Path) : (!second.precedes first) = true →
      (!third.precedes second) = true → (!third.precedes first) = true := by
    rw [le_iff, le_iff, le_iff]
    exact le_trans
  have total (first second : Path) :
      (!second.precedes first || !first.precedes second) = true := by
    rw [Bool.or_eq_true, le_iff, le_iff]
    exact le_total _ _
  have sorted := List.pairwise_mergeSort transitive total paths
  exact sorted.imp fun {left right} => (le_iff left right).1

/-- In strict order, if their components differ. -/
theorem pairwise_precedes_mergeSort {paths : List Path} (distinct : (paths.map key).Nodup) :
    (paths.mergeSort fun left right => !right.precedes left).Pairwise fun left right =>
      left.precedes right = true := by
  have sorted := pairwise_le_mergeSort paths
  have reordered := paths.mergeSort_perm fun left right => !right.precedes left
  have distinct' := (reordered.map key).nodup_iff.2 distinct
  rw [List.Nodup, List.pairwise_map] at distinct'
  refine (sorted.and distinct').imp fun {left right} both => ?_
  exact precedes_iff.2 (lt_of_le_of_ne both.1 both.2)

/-- Paths in strict order are known by which they are. -/
theorem eq_of_precedes {lefts rights : List Path}
    (sorted : lefts.Pairwise fun left right => left.precedes right = true)
    (sorted' : rights.Pairwise fun left right => left.precedes right = true)
    (same : ∀ path, path ∈ lefts ↔ path ∈ rights) : lefts = rights := by
  have nodup {paths : List Path}
      (sorted : paths.Pairwise fun left right => left.precedes right = true) : paths.Nodup := by
    refine sorted.imp fun {left right} before => ?_
    rintro rfl
    exact lt_irrefl _ (precedes_iff.1 before)
  have permuted := (List.perm_ext_iff_of_nodup (nodup sorted) (nodup sorted')).2 same
  refine permuted.eq_of_pairwise ?_ sorted sorted'
  intro left right _ _ before after
  exact absurd (precedes_iff.1 before) (lt_asymm (precedes_iff.1 after))

end Path

end Splice
