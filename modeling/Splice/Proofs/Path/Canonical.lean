import Splice.Proofs.Path.Joined

/-!
# Canonical spellings

How clean paths are spelled: a dot, names below the root, or steps up with names behind them
(`Canonical`). Cleaning a path yields such a spelling, and the paths that cleaning leaves alone are
exactly those (`canonical_iff`).

Clean paths with the same components have the same text (`clean_canonical`), so that they can be
compared by what they display.
-/

namespace Splice.Path

/-! ## Names behind steps up -/

/-- Steps up alone are in normal form. -/
theorem settled_replicate_up (ups : Nat) : Settled (List.replicate ups .up) := by
  induction ups with
  | zero => exact .empty
  | succ ups ih =>
    rw [List.replicate_succ]
    exact .up (fun _ isIn => List.eq_of_mem_replicate isIn) ih

/-- Names go on top of a normal form. -/
theorem Settled.names {below : List Component} (settled : Settled below) {names : List Text}
    (plain : ∀ name ∈ names, (Component.name name).Plain) :
    Settled ((names.map Component.name).reverse ++ below) := by
  induction names generalizing below with
  | nil => exact settled
  | cons name rest ih =>
    rw [List.forall_mem_cons] at plain
    have onward := ih (.name plain.1 settled) plain.2
    rwa [List.map_cons, List.reverse_cons, List.append_assoc]

section

variable {names : List Text}

/-- Names below the root are in normal form. -/
theorem settled_rooted (plain : ∀ name ∈ names, (Component.name name).Plain) :
    Settled (.root :: names.map Component.name).reverse := by
  rw [List.reverse_cons]
  exact Settled.root.names plain

/-- So are names behind steps up. -/
theorem settled_bare (ups : Nat) (plain : ∀ name ∈ names, (Component.name name).Plain) :
    Settled (List.replicate ups Component.up ++ names.map Component.name).reverse := by
  rw [List.reverse_append, List.reverse_replicate]
  exact (settled_replicate_up ups).names plain

theorem plain_names (plain : ∀ name ∈ names, (Component.name name).Plain) :
    ∀ step ∈ names.map Component.name, step.Plain := by
  simpa using plain

theorem plain_bare (ups : Nat) (plain : ∀ name ∈ names, (Component.name name).Plain) :
    ∀ step ∈ List.replicate ups Component.up ++ names.map Component.name, step.Plain := by
  refine List.forall_mem_append.2 ⟨fun step isUp => ?_, plain_names plain⟩
  rw [List.eq_of_mem_replicate isUp]
  trivial

theorem bare_ne_nil_iff {ups : Nat} :
    List.replicate ups Component.up ++ names.map Component.name ≠ [] ↔ ups ≠ 0 ∨ names ≠ [] := by
  simp [imp_iff_not_or]

end

/-- Names are all kept. -/
theorem foldl_keep_names (below : List Component) (names : List Text) :
    (names.map Component.name).foldl keep below = (names.map Component.name).reverse ++ below := by
  induction names generalizing below with
  | nil => rfl
  | cons name rest ih =>
    rw [List.map_cons, List.foldl_cons, ih, List.reverse_cons, List.append_assoc]
    rfl

/-- A normal form is names below the root, or steps up with names behind them. -/
theorem Settled.exists_names {kept : List Component} (settled : Settled kept) :
    ∃ names : List Text, (∀ name ∈ names, (Component.name name).Plain) ∧
      (kept.reverse = .root :: names.map .name ∨
        ∃ ups, kept.reverse = List.replicate ups .up ++ names.map .name) := by
  induction settled with
  | empty => exact ⟨[], by simp, .inr ⟨0, rfl⟩⟩
  | root => exact ⟨[], by simp, .inl rfl⟩
  | @up below onlyUp settled ih =>
    refine ⟨[], by simp, .inr ⟨below.length + 1, ?_⟩⟩
    rw [List.eq_replicate_of_mem onlyUp, List.length_replicate, List.map_nil, List.append_nil,
      List.reverse_cons, List.reverse_replicate, List.replicate_succ']
  | @name text below plain settled ih =>
    obtain ⟨names, plainNames, shape⟩ := ih
    refine ⟨names ++ [text], List.forall_mem_append.2
      ⟨plainNames, List.forall_mem_singleton.2 plain⟩, ?_⟩
    rw [List.reverse_cons, List.map_append]
    rcases shape with shape | ⟨ups, shape⟩
    · exact .inl (by rw [shape]; rfl)
    · exact .inr ⟨ups, by rw [shape, List.append_assoc]; rfl⟩

/-! ## Spellings -/

/-- The spellings of clean paths. -/
inductive Canonical : Text → Prop where
  /-- The current directory. -/
  | here : Canonical ['.']
  /-- Names below the root. -/
  | rooted {names : List Text} (plain : ∀ name ∈ names, (Component.name name).Plain) :
      Canonical ('/' :: Text.join ['/'] names)
  /-- Steps up, with names behind them. -/
  | bare {ups : Nat} {names : List Text} (plain : ∀ name ∈ names, (Component.name name).Plain)
      (something : ups ≠ 0 ∨ names ≠ []) :
      Canonical (Text.join ['/'] (List.replicate ups ['.', '.'] ++ names))

/-- The texts of names. -/
theorem map_text_names (names : List Text) :
    (names.map Component.name).map Component.text = names := by
  simp [Component.text, Function.comp_def]

/-- The texts of steps up with names behind them. -/
theorem map_text_bare (ups : Nat) (names : List Text) :
    (List.replicate ups Component.up ++ names.map Component.name).map Component.text =
      List.replicate ups ['.', '.'] ++ names := by
  rw [List.map_append, map_text_names, List.map_replicate]
  rfl

/-- The text of names below the root. -/
theorem text_ofComponents_rooted (names : List Text) :
    (ofComponents (.root :: names.map .name)).text = '/' :: Text.join ['/'] names := by
  rw [ofComponents, map_text_names]

/-- The text of steps up with names behind them. -/
theorem text_ofComponents_bare (ups : Nat) (names : List Text) :
    (ofComponents (List.replicate ups .up ++ names.map .name)).text =
      Text.join ['/'] (List.replicate ups ['.', '.'] ++ names) := by
  rw [← map_text_bare]
  cases ups with
  | succ ups => rfl
  | zero => cases names <;> rfl

/-- All is kept of what spells a normal form. -/
theorem kept_of_settled {steps : List Component} (settled : Settled steps.reverse) :
    (ofComponents steps).kept = steps.reverse := by
  have same := kept_ofComponents settled
  rwa [List.reverse_reverse] at same

/-- A clean path of which something is kept is spelled by that. -/
theorem clean_eq_ofComponents {path : Path} (some : path.kept ≠ []) :
    path.clean = ofComponents path.kept.reverse := by
  rw [clean]
  split
  · next none => exact absurd (List.reverse_eq_nil_iff.1 none) some
  · rfl

/-- What spells a normal form is clean. -/
theorem clean_of_settled {steps : List Component} (settled : Settled steps.reverse)
    (some : steps ≠ []) : (ofComponents steps).clean = ofComponents steps := by
  have same := kept_of_settled settled
  rw [clean_eq_ofComponents (by simpa [same] using some), same, List.reverse_reverse]

/-- How a clean path is spelled, by what is kept of it. -/
theorem clean_spelled (path : Path) :
    path.clean.text = ['.'] ∨
      ∃ names : List Text, (∀ name ∈ names, (Component.name name).Plain) ∧
        (path.kept.reverse = .root :: names.map .name ∧
            path.clean.text = '/' :: Text.join ['/'] names ∨
          ∃ ups, (ups ≠ 0 ∨ names ≠ []) ∧
            path.kept.reverse = List.replicate ups .up ++ names.map .name ∧
            path.clean.text = Text.join ['/'] (List.replicate ups ['.', '.'] ++ names)) := by
  by_cases none : path.kept = []
  · have here : path.clean = clean ⟨['.']⟩ := clean_eq_of_kept none
    exact .inl (congrArg text here)
  · obtain ⟨names, plain, shape⟩ := path.settled_kept.exists_names
    refine .inr ⟨names, plain, ?_⟩
    rw [clean_eq_ofComponents none]
    rcases shape with shape | ⟨ups, shape⟩
    · rw [shape]
      exact .inl ⟨rfl, text_ofComponents_rooted names⟩
    · have something : ups ≠ 0 ∨ names ≠ [] := by
        rw [← bare_ne_nil_iff, ← shape]
        exact List.reverse_ne_nil_iff.2 none
      rw [shape]
      exact .inr ⟨ups, something, rfl, text_ofComponents_bare ups names⟩

/-- Cleaning spells a path canonically. -/
theorem canonical_clean (path : Path) : Canonical path.clean.text := by
  obtain dot | ⟨names, plain, ⟨-, spelled⟩ | ⟨ups, something, -, spelled⟩⟩ := path.clean_spelled
  · rw [dot]
    exact .here
  · rw [spelled]
    exact .rooted plain
  · rw [spelled]
    exact .bare plain something

/-- Cleaning leaves a canonical spelling alone. -/
theorem Canonical.clean_eq {text : Text} (canonical : Canonical text) :
    clean ⟨text⟩ = ⟨text⟩ := by
  cases canonical with
  | here => rfl
  | @rooted names plain =>
    rw [← text_ofComponents_rooted]
    exact clean_of_settled (settled_rooted plain) (List.cons_ne_nil _ _)
  | @bare ups names plain something =>
    rw [← text_ofComponents_bare]
    exact clean_of_settled (settled_bare ups plain) (bare_ne_nil_iff.2 something)

/-- The empty text is no canonical spelling: it is cleaned to a dot. -/
theorem Canonical.ne_nil {text : Text} (canonical : Canonical text) : text ≠ [] := by
  rintro rfl
  have dot : clean ⟨[]⟩ = ⟨['.']⟩ := rfl
  rw [canonical.clean_eq] at dot
  cases dot

/-- The paths that cleaning leaves alone are those that are spelled canonically. -/
theorem canonical_iff (path : Path) : Canonical path.text ↔ path.clean = path := by
  constructor
  · exact fun canonical => canonical.clean_eq
  · intro clean
    rw [← clean]
    exact canonical_clean path

/-- Cleaning yields the one canonical spelling of what it keeps of a path. -/
theorem clean_canonical (path : Path) :
    Canonical path.clean.text ∧
      path.clean.isAbsolute = path.isAbsolute ∧
      path.clean.clean = path.clean ∧
      ∀ other : Path,
        path.clean.sameAs other.clean = true ↔ path.clean.text = other.clean.text := by
  refine ⟨canonical_clean path, isAbsolute_clean path, clean_clean path, fun other => ?_⟩
  constructor
  · intro same
    have components : path.clean.components = other.clean.components := beq_iff_eq.1 same
    have kept : path.clean.kept = other.clean.kept := by rw [kept, kept, components]
    rw [eq_of_kept (clean_clean path) (clean_clean other) kept]
  · intro same
    have path_eq : path.clean = other.clean := congrArg mk same
    rw [sameAs, path_eq]
    exact beq_self_eq_true _

end Splice.Path
