import Splice.Text

/-!
# Splitting and joining

Splitting at a separator and joining with it undo one another: `split_join` for pieces that are free
of the separator, which are all that splitting yields (`notMem_of_mem_split`). Lines are read one
after the other, each up to its newline (`lines_append_newline`).
-/

namespace Splice.Text

variable {separator : Char}

/-- There is always a piece. -/
theorem split_ne_nil (text : Text) : split separator text ≠ [] := by
  cases text with
  | nil => simp [split]
  | cons c rest =>
    rw [split]
    split
    · simp
    · split <;> simp

theorem exists_split_eq_cons (separator : Char) (text : Text) :
    ∃ piece pieces, split separator text = piece :: pieces :=
  List.exists_cons_of_ne_nil (split_ne_nil text)

/-- A separator divides what is before it from what is after it. -/
@[simp] theorem split_cons_separator (rest : Text) :
    split separator (separator :: rest) = [] :: split separator rest := by
  rw [split]
  split
  · next empty => exact absurd empty (split_ne_nil rest)
  · next piece pieces divided => simp [divided]

/-- Any other character belongs to the first piece. -/
theorem split_cons_of_ne {c : Char} (other : c ≠ separator) {rest piece : Text}
    {pieces : List Text} (divided : split separator rest = piece :: pieces) :
    split separator (c :: rest) = (c :: piece) :: pieces := by
  rw [split, divided]
  simp [other]

/-- A text without the separator is one piece. -/
theorem split_of_notMem {text : Text} (free : separator ∉ text) :
    split separator text = [text] := by
  induction text with
  | nil => rfl
  | cons c rest ih =>
    rw [List.mem_cons, not_or] at free
    exact split_cons_of_ne (Ne.symm free.1) (ih free.2)

/-- What stands before the first separator is the first piece. -/
theorem split_append {piece : Text} (free : separator ∉ piece) (rest : Text) :
    split separator (piece ++ separator :: rest) = piece :: split separator rest := by
  induction piece with
  | nil => exact split_cons_separator rest
  | cons c more ih =>
    rw [List.mem_cons, not_or] at free
    exact split_cons_of_ne (Ne.symm free.1) (ih free.2)

/-- A separator divides a text into what the parts before and after it are divided into. -/
theorem split_append_separator (before after : Text) :
    split separator (before ++ separator :: after) =
      split separator before ++ split separator after := by
  induction before with
  | nil => exact split_cons_separator after
  | cons c rest ih =>
    by_cases same : c = separator
    · subst same
      rw [List.cons_append, split_cons_separator, split_cons_separator, ih, List.cons_append]
    · obtain ⟨piece, pieces, divided⟩ := exists_split_eq_cons separator rest
      rw [divided] at ih
      rw [List.cons_append, split_cons_of_ne same divided, split_cons_of_ne same ih]
      rfl

/-- Pieces are free of the separator. -/
theorem notMem_of_mem_split {text piece : Text} (isPiece : piece ∈ split separator text) :
    separator ∉ piece := by
  induction text generalizing piece with
  | nil =>
    obtain rfl : piece = [] := by simpa [split] using isPiece
    exact List.not_mem_nil
  | cons c rest ih =>
    by_cases same : c = separator
    · subst same
      rw [split_cons_separator, List.mem_cons] at isPiece
      rcases isPiece with rfl | later
      · exact List.not_mem_nil
      · exact ih later
    · obtain ⟨first, more, divided⟩ := exists_split_eq_cons separator rest
      rw [split_cons_of_ne same divided, List.mem_cons] at isPiece
      rcases isPiece with rfl | later
      · have free := ih (divided ▸ List.mem_cons_self)
        simpa [Ne.symm same] using free
      · exact ih (divided ▸ List.mem_cons_of_mem _ later)

/-- The characters of pieces are those of the text. -/
theorem mem_of_mem_split {text piece : Text} {c : Char} (isPiece : piece ∈ split separator text)
    (isIn : c ∈ piece) : c ∈ text := by
  induction text generalizing piece with
  | nil =>
    obtain rfl : piece = [] := by simpa [split] using isPiece
    exact isIn
  | cons first rest ih =>
    by_cases same : first = separator
    · subst same
      rw [split_cons_separator, List.mem_cons] at isPiece
      rcases isPiece with rfl | later
      · cases isIn
      · exact List.mem_cons_of_mem _ (ih later isIn)
    · obtain ⟨head, more, divided⟩ := exists_split_eq_cons separator rest
      rw [split_cons_of_ne same divided, List.mem_cons] at isPiece
      rcases isPiece with rfl | later
      · rcases List.mem_cons.1 isIn with rfl | isIn
        · exact List.mem_cons_self
        · exact List.mem_cons_of_mem _ (ih (divided ▸ List.mem_cons_self) isIn)
      · exact List.mem_cons_of_mem _ (ih (divided ▸ List.mem_cons_of_mem _ later) isIn)

@[simp] theorem join_nil (separator : Text) : join separator [] = [] := rfl

@[simp] theorem join_singleton (separator piece : Text) : join separator [piece] = piece := by
  simp [join]

@[simp] theorem join_cons_cons (separator first second : Text) (rest : List Text) :
    join separator (first :: second :: rest) =
      first ++ separator ++ join separator (second :: rest) := by
  simp [join, List.intersperse]

/-- The characters of joined pieces are theirs, or separate them. -/
theorem mem_join {pieces : List Text} {c : Char} (isIn : c ∈ join [separator] pieces) :
    c = separator ∨ ∃ piece ∈ pieces, c ∈ piece := by
  induction pieces with
  | nil => cases isIn
  | cons piece rest ih =>
    cases rest with
    | nil => exact .inr ⟨piece, List.mem_cons_self, by simpa using isIn⟩
    | cons next more =>
      rw [join_cons_cons, List.append_assoc, List.mem_append, List.mem_append] at isIn
      rcases isIn with here | between | later
      · exact .inr ⟨piece, List.mem_cons_self, here⟩
      · exact .inl (List.mem_singleton.1 between)
      · rcases ih later with same | ⟨other, isPiece, isIn⟩
        · exact .inl same
        · exact .inr ⟨other, List.mem_cons_of_mem _ isPiece, isIn⟩

/-- Joined pieces with a separator in front are the pieces, each with a separator in front. -/
theorem append_join (separator : Text) {pieces : List Text} (notNil : pieces ≠ []) :
    separator ++ join separator pieces = pieces.flatMap fun piece => separator ++ piece := by
  induction pieces with
  | nil => exact absurd rfl notNil
  | cons piece rest ih =>
    cases rest with
    | nil => simp
    | cons next more =>
      have onward := ih (List.cons_ne_nil _ _)
      rw [join_cons_cons, List.flatMap_cons, ← onward]
      simp

/-- Splitting gives back what was joined. -/
theorem split_join {pieces : List Text} (notNil : pieces ≠ [])
    (free : ∀ piece ∈ pieces, separator ∉ piece) :
    split separator (join [separator] pieces) = pieces := by
  induction pieces with
  | nil => exact absurd rfl notNil
  | cons piece rest ih =>
    have freePiece := free piece List.mem_cons_self
    cases rest with
    | nil => simpa using split_of_notMem freePiece
    | cons next more =>
      have onward := ih (List.cons_ne_nil _ _) fun other isIn =>
        free other (List.mem_cons_of_mem _ isIn)
      rw [join_cons_cons, List.append_assoc, List.singleton_append, split_append freePiece, onward]

/-- There is one more piece than there are separators. -/
theorem length_split (separator : Char) (text : Text) :
    (split separator text).length = text.count separator + 1 := by
  induction text with
  | nil => rfl
  | cons c rest ih =>
    by_cases same : c = separator
    · subst same
      rw [split_cons_separator, List.length_cons, ih, List.count_cons_self]
    · obtain ⟨piece, pieces, divided⟩ := exists_split_eq_cons separator rest
      rw [split_cons_of_ne same divided, List.count_cons_of_ne same, ← ih, divided]
      rfl

/-! ## Lines -/

variable {body : Text}

@[simp] theorem lines_nil : lines [] = [] := rfl

/-- What no newline ends is a line too. -/
theorem lines_of_notMem (free : '\n' ∉ body) (notNil : body ≠ []) : lines body = [body] := by
  obtain ⟨c, rest, rfl⟩ := List.exists_cons_of_ne_nil notNil
  rw [lines, split_of_notMem free]
  rfl

/-- What stands before the first newline is the first line, less a carriage return at its end. -/
theorem lines_append_newline (free : '\n' ∉ body) (rest : Text) :
    lines (body ++ '\n' :: rest) = dropFinal '\r' body :: lines rest := by
  obtain ⟨piece, pieces, divided⟩ := exists_split_eq_cons '\n' rest
  rw [lines, lines, split_append free, divided]
  simp only [List.dropLast_cons_cons, List.map_cons, List.getLast?_cons_cons]
  split <;> rfl

end Splice.Text
