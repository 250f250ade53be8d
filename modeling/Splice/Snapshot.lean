import Splice.Provenance
import Splice.Source

/-!
# Snapshots

A file system as it stands while a file is parsed: what each path canonicalizes to, and what
opening it yields. A snapshot is finite in the one respect that matters: the files that open have
finitely many identities, in however many ways their paths can be spelled. That bounds how deep
includes can nest, so following them ends.
-/

namespace Splice

/-- A file system that does not change. -/
structure Snapshot where
  /-- The canonical path of the file that a path leads to. -/
  canonical? : Path → Option Path
  /-- What opening a path yields. -/
  source : Path → Except Fault Source
  /-- The identities of all files that open. -/
  identities : List Identity
  /-- The identity of a file that opens is among them. -/
  known : ∀ {path : Path} {content : Source}, source path = .ok content →
    ((canonical? path).getD path).components ∈ identities

namespace Snapshot

/-- What the file at a path is known by: its canonical path, or the path itself where there is
none. -/
def identity (snapshot : Snapshot) (path : Path) : Identity :=
  ((snapshot.canonical? path).getD path).components

/-- How many identities are not among the given ones. -/
def remaining (snapshot : Snapshot) (used : List Identity) : Nat :=
  snapshot.identities.countP fun identity => identity ∉ used

/-- A new member of a list is one fewer to come once it is used. -/
theorem countP_notMem_lt {identities used : List Identity} {identity : Identity}
    (known : identity ∈ identities) (new : identity ∉ used) :
    identities.countP (fun item => decide (item ∉ used ++ [identity]))
      < identities.countP (fun item => decide (item ∉ used)) := by
  induction identities with
  | nil => cases known
  | cons head rest ih =>
    have le : rest.countP (fun item => decide (item ∉ used ++ [identity]))
        ≤ rest.countP (fun item => decide (item ∉ used)) := by
      apply List.countP_mono_left
      intro item _ fresh
      simp only [decide_eq_true_eq, List.mem_append, not_or] at fresh ⊢
      exact fresh.1
    rw [List.countP_cons, List.countP_cons]
    by_cases same : head = identity
    · subst same
      simp only [List.mem_append, List.mem_singleton, or_true, not_true_eq_false, decide_false,
        Bool.false_eq_true, ↓reduceIte, new, not_false_eq_true, decide_true] at le ⊢
      omega
    · have smaller := ih (by
        rcases List.mem_cons.1 known with rfl | inRest
        · exact absurd rfl same
        · exact inRest)
      by_cases usedHead : head ∈ used <;> simp [usedHead, same] at smaller ⊢ <;> omega

/-- Opening a file whose identity is new leaves fewer identities to come. -/
theorem remaining_lt {snapshot : Snapshot} {used : List Identity} {path : Path} {content : Source}
    (opened : snapshot.source path = .ok content) (new : snapshot.identity path ∉ used) :
    snapshot.remaining (used ++ [snapshot.identity path]) < snapshot.remaining used :=
  countP_notMem_lt (snapshot.known opened) new

end Snapshot

end Splice
