import Mathlib.Data.List.Basic
import Splice.Text

/-!
# Pieces with their separators

Dividing a list after each separator, which stays with the piece that it ends. Unlike `split`, this
loses nothing (`flatten_splitAfter`), and nothing follows a final separator. The items may be
characters or bytes, so that the lines of a text and those of its bytes are divided by one function.
-/

namespace Splice.Text

variable {α : Type} [DecidableEq α] {separator : α} {body items : List α}

/-- The pieces of a list, each up to its separator and with it; the last may have none. -/
def splitAfter (separator : α) : List α → List (List α)
  | [] => []
  | item :: rest =>
    if item = separator then [item] :: splitAfter separator rest
    else
      match splitAfter separator rest with
      | [] => [[item]]
      | piece :: pieces => (item :: piece) :: pieces

@[simp] theorem splitAfter_nil : splitAfter separator [] = [] := rfl

/-- Without a separator there is one piece. -/
theorem splitAfter_of_notMem (free : separator ∉ body) (notNil : body ≠ []) :
    splitAfter separator body = [body] := by
  induction body with
  | nil => exact absurd rfl notNil
  | cons item rest ih =>
    rw [List.mem_cons, not_or] at free
    rw [splitAfter, if_neg (Ne.symm free.1)]
    by_cases last : rest = []
    · rw [last, splitAfter_nil]
    · rw [ih free.2 last]

/-- What stands up to the first separator is the first piece. -/
theorem splitAfter_append (free : separator ∉ body) (rest : List α) :
    splitAfter separator (body ++ separator :: rest) =
      (body ++ [separator]) :: splitAfter separator rest := by
  induction body with
  | nil => rw [List.nil_append, splitAfter, if_pos rfl, List.nil_append]
  | cons item more ih =>
    rw [List.mem_cons, not_or] at free
    rw [List.cons_append, splitAfter, if_neg (Ne.symm free.1), ih free.2, List.cons_append]

/-- A list is one piece without a separator, or it is a piece that a separator ends, and what
follows. -/
@[elab_as_elim]
theorem induction_splitAfter (separator : α) {motive : List α → Prop}
    (last : ∀ body, separator ∉ body → motive body)
    (piece : ∀ body rest, separator ∉ body → motive rest → motive (body ++ separator :: rest))
    (items : List α) : motive items := by
  induction size : items.length using Nat.strongRecOn generalizing items with
  | ind size ih =>
    by_cases isIn : separator ∈ items
    · obtain ⟨body, rest, rfl, free⟩ := List.eq_append_cons_of_mem isIn
      refine piece body rest free (ih rest.length ?_ rest rfl)
      simp at size
      omega
    · exact last items isIn

/-- The pieces make up the list. -/
theorem flatten_splitAfter (separator : α) (items : List α) :
    (splitAfter separator items).flatten = items := by
  induction items using induction_splitAfter separator with
  | last body free =>
    by_cases empty : body = []
    · rw [empty, splitAfter_nil, List.flatten_nil]
    · rw [splitAfter_of_notMem free empty, List.flatten_singleton]
  | piece body rest free ih =>
    rw [splitAfter_append free, List.flatten_cons, ih, List.append_assoc, List.singleton_append]

/-- A piece has no separator but the one that ends it. -/
theorem exists_of_mem_splitAfter {piece : List α} (isPiece : piece ∈ splitAfter separator items) :
    ∃ body, separator ∉ body ∧ (piece = body ++ [separator] ∨ piece = body) := by
  induction items using induction_splitAfter separator with
  | last body free =>
    by_cases empty : body = []
    · rw [empty] at isPiece
      cases isPiece
    · rw [splitAfter_of_notMem free empty, List.mem_singleton] at isPiece
      exact ⟨body, free, .inr isPiece⟩
  | piece body rest free ih =>
    rw [splitAfter_append free, List.mem_cons] at isPiece
    rcases isPiece with first | later
    · exact ⟨body, free, .inl first⟩
    · exact ih later

/-- Pieces that all end in their separators are divided again as they were. -/
theorem splitAfter_flatten {pieces : List (List α)}
    (ended : ∀ piece ∈ pieces, ∃ body, piece = body ++ [separator] ∧ separator ∉ body) :
    splitAfter separator pieces.flatten = pieces := by
  induction pieces with
  | nil => rfl
  | cons piece more ih =>
    rw [List.forall_mem_cons] at ended
    obtain ⟨body, rfl, free⟩ := ended.1
    rw [List.flatten_cons, List.append_assoc, List.singleton_append, splitAfter_append free,
      ih ended.2]

/-- There is a piece for each separator, and one for what follows the last of them, if anything
does. -/
theorem length_splitAfter (separator : α) (items : List α) :
    (splitAfter separator items).length =
      items.count separator +
        if items ≠ [] ∧ items.getLast? ≠ some separator then 1 else 0 := by
  induction items using induction_splitAfter separator with
  | last body free =>
    by_cases empty : body = []
    · simp [empty]
    · have other : body.getLast? ≠ some separator :=
        fun isLast => free (List.mem_of_getLast? isLast)
      rw [splitAfter_of_notMem free empty, if_pos ⟨empty, other⟩, List.count_eq_zero.2 free]
      rfl
  | piece body rest free ih =>
    rw [splitAfter_append free, List.length_cons, ih, List.count_append, List.count_eq_zero.2 free,
      List.count_cons_self]
    cases rest with
    | nil => simp
    | cons item more =>
      rw [List.getLast?_append_of_ne_nil _ (List.cons_ne_nil _ _), List.getLast?_cons_cons]
      simp
      omega

/-- As many pieces end in a separator as there are separators. -/
theorem length_filter_splitAfter (separator : α) (items : List α) :
    ((splitAfter separator items).filter (·.getLast? = some separator)).length =
      items.count separator := by
  induction items using induction_splitAfter separator with
  | last body free =>
    by_cases empty : body = []
    · simp [empty]
    · have other : body.getLast? ≠ some separator :=
        fun isLast => free (List.mem_of_getLast? isLast)
      simp [splitAfter_of_notMem free empty, other, List.count_eq_zero.2 free]
  | piece body rest free ih =>
    rw [splitAfter_append free, List.filter_cons_of_pos (by simp), List.length_cons, ih]
    simp [List.count_eq_zero.2 free]

end Splice.Text
