import Splice.Proofs.Path.Canonical
import Splice.Proofs.Text.Utf8

/-!
# What is left of the text of a path

The text of a clean path is no longer than that of the path (`length_encode_clean_le`), and its
characters are those of the path, but for dots and slashes (`mem_text_clean`). So no path that the
operating system accepts becomes too long or malformed by being cleaned.
-/

namespace Splice

namespace Text

/-- How many bytes pieces have, each with a slash behind it. -/
def lengthOf (pieces : List Text) : Nat :=
  (pieces.map fun piece => (Utf8.encode piece).length + 1).sum

@[simp] theorem lengthOf_nil : lengthOf [] = 0 := rfl

@[simp] theorem lengthOf_cons (piece : Text) (pieces : List Text) :
    lengthOf (piece :: pieces) = (Utf8.encode piece).length + 1 + lengthOf pieces := by
  simp [lengthOf]

@[simp] theorem lengthOf_reverse (pieces : List Text) :
    lengthOf pieces.reverse = lengthOf pieces := by
  rw [lengthOf, List.map_reverse, List.sum_reverse, lengthOf]

/-- The pieces of a text have its bytes, and those of one more slash. -/
theorem lengthOf_split (text : Text) :
    lengthOf (split '/' text) = (Utf8.encode text).length + 1 := by
  induction text with
  | nil => rfl
  | cons c rest ih =>
    rw [Utf8.encode_cons, List.length_append]
    by_cases same : c = '/'
    · subst same
      have one : (Utf8.encodeChar '/').length = 1 := rfl
      rw [split_cons_separator, lengthOf_cons, ih, one, Utf8.encode_nil, List.length_nil]
      omega
    · obtain ⟨piece, pieces, divided⟩ := exists_split_eq_cons '/' rest
      rw [divided, lengthOf_cons] at ih
      rw [split_cons_of_ne same divided, lengthOf_cons, Utf8.encode_cons, List.length_append]
      omega

end Text

/-- A component is spelled like the piece that stands for it. -/
theorem Component.text_of_ofPiece? {piece : Text} {step : Component}
    (stands : ofPiece? piece = some step) : step.text = piece := by
  unfold ofPiece? at stands
  split at stands
  · cases stands
  · split at stands
    · next up =>
      cases stands
      exact up.symm
    · cases stands
      rfl

namespace Path

/-! ## Length -/

/-- What is kept is no longer than what there is. -/
theorem lengthOf_foldl_keep_le (kept steps : List Component) :
    Text.lengthOf ((steps.foldl keep kept).map Component.text) ≤
      Text.lengthOf (kept.map Component.text) + Text.lengthOf (steps.map Component.text) := by
  induction steps generalizing kept with
  | nil => exact Nat.le_refl _
  | cons step rest ih =>
    have onward := ih (keep kept step)
    have kept_le : Text.lengthOf ((keep kept step).map Component.text) ≤
        Text.lengthOf (kept.map Component.text) + ((Utf8.encode step.text).length + 1) := by
      match step, kept with
      | .root, _ | .here, _ | .name _, _ | .up, [] | .up, .here :: _ | .up, .up :: _
      | .up, .root :: _ | .up, .name _ :: _ =>
        simp only [keep, List.map_cons, List.map_nil, Text.lengthOf_cons, Text.lengthOf_nil]
        omega
    rw [List.foldl_cons, List.map_cons, Text.lengthOf_cons]
    omega

/-- The steps of pieces are no longer than the pieces. -/
theorem lengthOf_filterMap_le (pieces : List Text) :
    Text.lengthOf ((pieces.filterMap Component.ofPiece?).map Component.text) ≤
      Text.lengthOf pieces := by
  induction pieces with
  | nil => exact Nat.le_refl _
  | cons piece rest ih =>
    rw [List.filterMap_cons]
    split
    · rw [Text.lengthOf_cons]
      omega
    · next stands =>
      rw [List.map_cons, Text.lengthOf_cons, Text.lengthOf_cons, Component.text_of_ofPiece? stands]
      omega

/-- What is kept of a path is no longer than the path. -/
theorem lengthOf_kept_le (path : Path) :
    Text.lengthOf (path.kept.map Component.text) ≤ (Utf8.encode path.text).length + 1 := by
  have kept_le := lengthOf_foldl_keep_le path.start path.steps
  rw [← kept_eq] at kept_le
  cases start : path.isAbsolute with
  | false =>
    have steps_le := lengthOf_filterMap_le (Text.split '/' path.text)
    rw [Text.lengthOf_split, ← steps] at steps_le
    rw [Path.start, start] at kept_le
    simp only [Bool.false_eq_true, ↓reduceIte, List.map_nil, Text.lengthOf_nil] at kept_le
    omega
  | true =>
    -- The empty piece in front of the first slash stands for the root.
    obtain ⟨rest, shape⟩ : ∃ rest, path.text = '/' :: rest := by
      have first : path.text.head? = some '/' := beq_iff_eq.1 start
      exact ⟨path.text.tail, List.eq_cons_of_mem_head? first⟩
    have steps_le := lengthOf_filterMap_le (Text.split '/' rest)
    have steps_eq : path.steps = (Text.split '/' rest).filterMap Component.ofPiece? := by
      rw [steps, shape, Text.split_cons_separator]
      rfl
    have whole := Text.lengthOf_split path.text
    rw [shape, Text.split_cons_separator, Text.lengthOf_cons, Utf8.encode_nil, List.length_nil,
      ← shape] at whole
    rw [← steps_eq] at steps_le
    rw [Path.start, start] at kept_le
    simp only [↓reduceIte, List.map_cons, List.map_nil, Component.text, Text.lengthOf_cons,
      Text.lengthOf_nil, Utf8.encode_nil, List.length_nil] at kept_le
    omega

/-- The texts of plain components have the bytes of the path that they spell, and those of one more
slash. -/
theorem lengthOf_texts {steps : List Component} (notNil : steps ≠ [])
    (plain : ∀ step ∈ steps, step.Plain) :
    Text.lengthOf (steps.map Component.text) =
      (Utf8.encode (Text.join ['/'] (steps.map Component.text))).length + 1 := by
  rw [← Text.lengthOf_split, split_join_text notNil plain]

/-- A clean path is no longer than the path, unless that is empty. -/
theorem length_encode_clean_le {path : Path} (something : path.text ≠ []) :
    (Utf8.encode path.clean.text).length ≤ (Utf8.encode path.text).length := by
  have least : 1 ≤ (Utf8.encode path.text).length := by
    obtain ⟨c, rest, shape⟩ := List.exists_cons_of_ne_nil something
    have char := List.length_pos_of_ne_nil (Utf8.encodeChar_ne_nil c)
    rw [shape, Utf8.encode_cons, List.length_append]
    omega
  have kept_le := path.lengthOf_kept_le
  rw [← List.reverse_reverse path.kept, List.map_reverse, Text.lengthOf_reverse] at kept_le
  obtain dot | ⟨names, plain, ⟨kept, spelled⟩ | ⟨ups, some, kept, spelled⟩⟩ := path.clean_spelled
  · rw [dot]
    exact least
  · rw [kept, List.map_cons, Text.lengthOf_cons] at kept_le
    rw [spelled, Utf8.encode_cons, List.length_append]
    have slash : (Utf8.encodeChar '/').length = 1 := rfl
    by_cases none : names = []
    · subst none
      simpa [slash] using least
    · have joined := lengthOf_texts (by simpa using none) (plain_names plain)
      rw [map_text_names] at joined kept_le
      omega
  · have joined := lengthOf_texts (bare_ne_nil_iff.2 some) (plain_bare ups plain)
    rw [kept] at kept_le
    rw [map_text_bare] at joined kept_le
    rw [spelled]
    omega

/-! ## Characters -/

/-- Only components of the path are kept. -/
theorem mem_of_mem_foldl_keep {kept steps : List Component} {step : Component}
    (isKept : step ∈ steps.foldl keep kept) : step ∈ kept ∨ step ∈ steps := by
  induction steps generalizing kept with
  | nil => exact .inl isKept
  | cons next rest ih =>
    rcases ih isKept with before | later
    · have kept_subset : step ∈ next :: kept := by
        match next, kept with
        | .root, _ | .name _, _ | .up, [] | .up, .up :: _ | .up, .here :: _ => exact before
        | .here, _ | .up, .root :: _ => exact List.mem_cons_of_mem _ before
        | .up, .name _ :: _ => exact List.mem_cons_of_mem _ (List.mem_cons_of_mem _ before)
      rcases List.mem_cons.1 kept_subset with rfl | isKept
      · exact .inr List.mem_cons_self
      · exact .inl isKept
    · exact .inr (List.mem_cons_of_mem _ later)

/-- The characters of a name that is kept are in the path. -/
theorem mem_text_of_kept {path : Path} {name : Text} {c : Char} (isKept : .name name ∈ path.kept)
    (isIn : c ∈ name) : c ∈ path.text := by
  rw [kept_eq] at isKept
  have isStep : .name name ∈ path.steps := by
    refine (mem_of_mem_foldl_keep isKept).resolve_left ?_
    rw [start]
    split <;> simp
  obtain ⟨piece, isPiece, stands⟩ := List.mem_filterMap.1 isStep
  obtain rfl : name = piece := Component.text_of_ofPiece? stands
  exact Text.mem_of_mem_split isPiece isIn

/-- The characters of a clean path are those of the path, dots and slashes. -/
theorem mem_text_clean {path : Path} {c : Char} (isIn : c ∈ path.clean.text) :
    c ∈ path.text ∨ c = '.' ∨ c = '/' := by
  obtain dot | ⟨names, -, ⟨kept, spelled⟩ | ⟨ups, -, kept, spelled⟩⟩ := path.clean_spelled
  · rw [dot] at isIn
    exact .inr (.inl (List.mem_singleton.1 isIn))
  · rw [spelled, List.mem_cons] at isIn
    rcases isIn with slash | isIn
    · exact .inr (.inr slash)
    rcases Text.mem_join isIn with slash | ⟨name, isName, isIn⟩
    · exact .inr (.inr slash)
    · have isKept : .name name ∈ path.kept := by
        rw [← List.mem_reverse, kept]
        exact List.mem_cons_of_mem _ (List.mem_map_of_mem isName)
      exact .inl (mem_text_of_kept isKept isIn)
  · rw [spelled] at isIn
    rcases Text.mem_join isIn with slash | ⟨piece, isPiece, isIn⟩
    · exact .inr (.inr slash)
    rcases List.mem_append.1 isPiece with up | isName
    · rw [List.eq_of_mem_replicate up] at isIn
      simp only [List.mem_cons, List.not_mem_nil, or_false, or_self] at isIn
      exact .inr (.inl isIn)
    · have isKept : .name piece ∈ path.kept := by
        rw [← List.mem_reverse, kept]
        exact List.mem_append_right _ (List.mem_map_of_mem isName)
      exact .inl (mem_text_of_kept isKept isIn)

end Path

end Splice
