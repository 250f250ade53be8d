import Splice.Path.Clean
import Splice.Proofs.Text.Split

/-!
# Normal forms of paths

Components and texts of paths correspond: `components_ofComponents` reads back components that a
path can have (`Component.Plain`). What cleaning keeps is in normal form (`Settled`), and cleaning
leaves a normal form alone, so that cleaning twice is cleaning once (`clean_clean`).
-/

namespace Splice

namespace Component

/-- A component that can stand anywhere in a path: a step up, or a name that is read as itself. -/
def Plain : Component → Prop
  | .up => True
  | .name text => text ≠ [] ∧ text ≠ ['.'] ∧ text ≠ ['.', '.'] ∧ '/' ∉ text
  | .root | .here => False

/-- A piece of a path stands for a plain component, or for nothing. -/
theorem plain_of_ofPiece? {piece : Text} {step : Component} (free : '/' ∉ piece)
    (stands : ofPiece? piece = some step) : step.Plain := by
  unfold ofPiece? at stands
  split at stands
  · cases stands
  · next something =>
    split at stands
    · cases stands
      trivial
    · next notUp =>
      cases stands
      exact ⟨fun none => something (.inl none), fun dot => something (.inr dot), notUp, free⟩

namespace Plain

variable {step : Component}

/-- The text of a plain component is a piece that stands for it. -/
theorem ofPiece?_text (plain : step.Plain) : ofPiece? step.text = some step := by
  match step, plain with
  | .up, _ => rfl
  | .name text, ⟨notNil, notDot, notUp, _⟩ =>
    simp [ofPiece?, Component.text, notNil, notDot, notUp]

theorem text_ne_nil (plain : step.Plain) : step.text ≠ [] := by
  match step, plain with
  | .up, _ => simp [Component.text]
  | .name text, ⟨notNil, _⟩ => exact notNil

theorem text_ne_dot (plain : step.Plain) : step.text ≠ ['.'] := by
  match step, plain with
  | .up, _ => simp [Component.text]
  | .name text, ⟨_, notDot, _⟩ => exact notDot

theorem slash_notMem (plain : step.Plain) : '/' ∉ step.text := by
  match step, plain with
  | .up, _ => simp [Component.text]
  | .name text, ⟨_, _, _, free⟩ => exact free

end Plain

end Component

namespace Path

/-! ## Components and texts -/

/-- Behind the first, every component of a path is plain. -/
theorem components_shape (path : Path) :
    ∃ steps, (∀ step ∈ steps, step.Plain) ∧
      (path.components = .root :: steps ∨ path.components = .here :: steps ∨
        path.components = steps) := by
  refine ⟨(Text.split '/' path.text).filterMap Component.ofPiece?, fun step isStep => ?_, ?_⟩
  · obtain ⟨piece, isPiece, stands⟩ := List.mem_filterMap.1 isStep
    exact Component.plain_of_ofPiece? (Text.notMem_of_mem_split isPiece) stands
  · unfold components
    dsimp only
    split
    · exact .inl rfl
    · split
      · exact .inr (.inl rfl)
      · exact .inr (.inr rfl)

/-- The pieces of plain components stand for them. -/
theorem filterMap_ofPiece? {steps : List Component} (plain : ∀ step ∈ steps, step.Plain) :
    (steps.map Component.text).filterMap Component.ofPiece? = steps := by
  induction steps with
  | nil => rfl
  | cons step rest ih =>
    have onward := ih fun other isIn => plain other (List.mem_cons_of_mem _ isIn)
    rw [List.map_cons, List.filterMap_cons, (plain step List.mem_cons_self).ofPiece?_text, onward]

/-- Plain components joined by slashes are divided where they were joined. -/
theorem split_join_text {steps : List Component} (notNil : steps ≠ [])
    (plain : ∀ step ∈ steps, step.Plain) :
    Text.split '/' (Text.join ['/'] (steps.map Component.text)) = steps.map Component.text := by
  refine Text.split_join (by simpa using notNil) fun piece isPiece => ?_
  obtain ⟨step, isStep, rfl⟩ := List.mem_map.1 isPiece
  exact (plain step isStep).slash_notMem

/-- An absolute path is read as it is spelled. -/
theorem components_ofComponents_root {steps : List Component}
    (plain : ∀ step ∈ steps, step.Plain) :
    (ofComponents (.root :: steps)).components = .root :: steps := by
  have absolute : (ofComponents (.root :: steps)).isAbsolute = true := rfl
  have steps_eq : (Text.split '/' (ofComponents (.root :: steps)).text).filterMap
      Component.ofPiece? = steps := by
    rw [ofComponents, Text.split_cons_separator]
    cases steps with
    | nil => rfl
    | cons step rest =>
      rw [split_join_text (List.cons_ne_nil _ _) plain]
      exact filterMap_ofPiece? plain
  rw [components, if_pos absolute, steps_eq]

/-- A relative path is read as it is spelled. -/
theorem components_ofComponents_plain {step : Component} {rest : List Component}
    (plain : ∀ other ∈ step :: rest, other.Plain) :
    (ofComponents (step :: rest)).components = step :: rest := by
  have plainStep := plain step List.mem_cons_self
  have spelled : (ofComponents (step :: rest)).text =
      Text.join ['/'] ((step :: rest).map Component.text) := by
    match step, plainStep with
    | .up, _ => rfl
    | .name _, _ => rfl
  have pieces := split_join_text (List.cons_ne_nil _ _) plain
  rw [← spelled] at pieces
  have relative : (ofComponents (step :: rest)).isAbsolute = false := by
    obtain ⟨c, more, first⟩ := List.exists_cons_of_ne_nil plainStep.text_ne_nil
    have notSlash : c ≠ '/' := fun same => plainStep.slash_notMem (by simp [first, same])
    rw [isAbsolute, spelled]
    cases rest <;> simp [first, notSlash]
  rw [components, pieces, relative, filterMap_ofPiece? plain]
  simp [plainStep.text_ne_dot]

/-! ## What cleaning keeps -/

/-- Components in normal form, the latest first: names on top of steps up, or on top of the root. -/
inductive Settled : List Component → Prop where
  | empty : Settled []
  | root : Settled [.root]
  | up {below} (onlyUp : ∀ step ∈ below, step = .up) (settled : Settled below) :
      Settled (.up :: below)
  | name {text below} (plain : (Component.name text).Plain) (settled : Settled below) :
      Settled (.name text :: below)

/-- Keeping a plain component keeps the normal form. -/
theorem Settled.keep {kept : List Component} {step : Component} (settled : Settled kept)
    (plain : step.Plain) : Settled (Path.keep kept step) := by
  match step, plain with
  | .name text, plain => exact .name plain settled
  | .up, _ =>
    cases settled with
    | empty => exact .up (by simp) .empty
    | root => exact .root
    | @up below onlyUp settled =>
      refine .up (fun step isIn => ?_) (.up onlyUp settled)
      rcases List.mem_cons.1 isIn with rfl | isBelow
      · rfl
      · exact onlyUp step isBelow
    | name _ settled => exact settled

theorem Settled.foldl_keep {kept steps : List Component} (settled : Settled kept)
    (plain : ∀ step ∈ steps, step.Plain) : Settled (steps.foldl Path.keep kept) := by
  induction steps generalizing kept with
  | nil => exact settled
  | cons step rest ih =>
    exact ih (settled.keep (plain step List.mem_cons_self)) fun other isIn =>
      plain other (List.mem_cons_of_mem _ isIn)

/-- What cleaning keeps of a path is in normal form. -/
theorem settled_components (path : Path) : Settled (path.components.foldl keep []) := by
  obtain ⟨steps, plain, shape | shape | shape⟩ := path.components_shape
  · rw [shape, List.foldl_cons]
    exact Settled.root.foldl_keep plain
  · rw [shape, List.foldl_cons]
    exact Settled.empty.foldl_keep plain
  · rw [shape]
    exact Settled.empty.foldl_keep plain

/-- Cleaning leaves a normal form alone. -/
theorem Settled.foldl_keep_reverse {kept : List Component} (settled : Settled kept) :
    kept.reverse.foldl Path.keep [] = kept := by
  induction settled with
  | empty => rfl
  | root => rfl
  | @up below onlyUp settled ih =>
    rw [List.reverse_cons, List.foldl_append, ih]
    cases settled with
    | empty => rfl
    | root => cases onlyUp _ List.mem_cons_self
    | up => rfl
    | name => cases onlyUp _ List.mem_cons_self
  | name plain settled ih =>
    rw [List.reverse_cons, List.foldl_append, ih]
    rfl

/-- A normal form is the root with plain components behind it, or plain components alone. -/
theorem Settled.reverse_shape {kept : List Component} (settled : Settled kept) :
    ∃ steps, (∀ step ∈ steps, step.Plain) ∧
      (kept.reverse = .root :: steps ∨ kept.reverse = steps) := by
  induction settled with
  | empty => exact ⟨[], by simp, .inr rfl⟩
  | root => exact ⟨[], by simp, .inl rfl⟩
  | @up below onlyUp settled ih =>
    refine ⟨(.up :: below).reverse, fun step isIn => ?_, .inr rfl⟩
    obtain rfl : step = .up := by
      rcases List.mem_cons.1 (List.mem_reverse.1 isIn) with rfl | isBelow
      · rfl
      · exact onlyUp step isBelow
    trivial
  | @name text below plain settled ih =>
    obtain ⟨steps, plainSteps, shape⟩ := ih
    refine ⟨steps ++ [.name text], fun step isIn => ?_, ?_⟩
    · rcases List.mem_append.1 isIn with inSteps | last
      · exact plainSteps step inSteps
      · exact List.mem_singleton.1 last ▸ plain
    · rcases shape with shape | shape
      · exact .inl (by simp [shape])
      · exact .inr (by simp [shape])

/-! ## Clean paths -/

/-- A clean path is spelled by the components that cleaning keeps. -/
theorem components_clean (path : Path) :
    path.clean.components = cleanComponents path.components ∨
      (path.clean.components = [.here] ∧ cleanComponents path.components = []) := by
  have settled := path.settled_components
  obtain ⟨steps, plain, shape⟩ := settled.reverse_shape
  rw [clean, cleanComponents]
  rcases shape with shape | shape
  · rw [shape]
    exact .inl (components_ofComponents_root plain)
  · rw [shape]
    cases steps with
    | nil => exact .inr ⟨rfl, rfl⟩
    | cons step rest => exact .inl (components_ofComponents_plain plain)

/-- Cleaning keeps all of what it has kept. -/
theorem cleanComponents_clean (path : Path) :
    cleanComponents path.clean.components = cleanComponents path.components := by
  rcases path.components_clean with same | ⟨same, none⟩
  · rw [same, cleanComponents, cleanComponents, path.settled_components.foldl_keep_reverse]
  · rw [same, none]
    rfl

/-- How a path is cleaned depends on its components alone. -/
theorem clean_congr {path other : Path} (same : path.components = other.components) :
    path.clean = other.clean := by
  rw [clean, clean, same]

/-- Cleaning a clean path changes nothing. -/
@[simp] theorem clean_clean (path : Path) : path.clean.clean = path.clean := by
  rw [clean, cleanComponents_clean, clean]

/-- The path of an included file is clean. -/
@[simp] theorem clean_includedFrom (current target : Path) :
    (current.includedFrom target).clean = current.includedFrom target := by
  unfold includedFrom
  split <;> exact clean_clean _

end Path

end Splice
