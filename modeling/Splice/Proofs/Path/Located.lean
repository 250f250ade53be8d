import Splice.Proofs.Path.Below
import Splice.Proofs.Path.Walked

/-!
# Finding what lies below a directory

The operating system that finds a directory by some path finds what lies below it by the names that
are added to the path, unless it refuses the longer path (`Linkless.locate_below`). This takes that
every entry of the disk is in a directory, and that no link is on the way: a link may use up what
the way to the directory has left of the links that may be followed.
-/

namespace Splice.Disk

variable {disk : Disk} {here top place : Place} {root : Path} {names : List Text}

/-- Every entry is in a directory. -/
def Grounded (disk : Disk) : Prop :=
  ∀ place ∈ disk.nodes.map Prod.fst, disk.isDirectory place.dropLast = true

/-- Something stands at the places that there are. -/
theorem isSome_node?_iff (notNil : place ≠ []) :
    (disk.node? place).isSome = true ↔ place ∈ disk.nodes.map Prod.fst := by
  rw [node?, if_neg notNil, Option.isSome_map, List.find?_isSome]
  simp only [decide_eq_true_eq, List.mem_map]

/-- Names lead from a directory to the entry that they are the place of. -/
theorem Grounded.walked?_names (grounded : disk.Grounded) (names : List Text)
    (isPlace : names = [] ∨ top ++ names ∈ disk.nodes.map Prod.fst) :
    disk.walked? top (names.map .name) = some (top ++ names) := by
  induction names using List.reverseRecOn with
  | nil => simp
  | append_singleton front name ih =>
    have isPlace := isPlace.resolve_left (by simp)
    have directory := grounded _ isPlace
    rw [← List.append_assoc] at directory isPlace
    rw [List.dropLast_concat] at directory
    have before : front = [] ∨ top ++ front ∈ disk.nodes.map Prod.fst := by
      refine or_iff_not_imp_left.2 fun notNil => ?_
      rw [← isSome_node?_iff (by simp [notNil]), beq_iff_eq.1 directory]
      rfl
    have stands := (isSome_node?_iff (List.concat_ne_nil _ _)).2 isPlace
    rw [List.map_append, List.map_singleton, walked?_concat, ih before, ← List.append_assoc]
    exact step?_name_eq_some_iff.2 ⟨⟨directory, stands⟩, rfl⟩

/-- Where there are no links, a path is followed in two parts. -/
theorem Linkless.follow_append_iff (linkless : disk.Linkless) {links : Nat}
    {before after : List Text} :
    disk.follow links here (before ++ after) = .ok place ↔
      ∃ between, disk.follow links here before = .ok between ∧
        disk.follow links between after = .ok place := by
  induction before generalizing here with
  | nil => simp [follow]
  | cons piece rest ih =>
    by_cases directory : disk.isDirectory here = true
    · rw [List.cons_append]
      cases stands : Component.ofPiece? piece with
      | none =>
        rw [follow_cons_of_none directory stands, follow_cons_of_none directory stands, ih]
      | some step =>
        simp only [linkless.follow_cons_of_some directory stands, ih]
        constructor
        · rintro ⟨next, entered, between, first, last⟩
          exact ⟨between, ⟨next, entered, first⟩, last⟩
        · rintro ⟨between, ⟨next, entered, first⟩, last⟩
          exact ⟨next, entered, between, first, last⟩
    · constructor
      · intro followed
        exact absurd (isDirectory_of_follow followed) directory
      · rintro ⟨_, followed, -⟩
        exact absurd (isDirectory_of_follow followed) directory

/-- What lies below a root is spelled by the root and the names, with a slash in between unless the
root ends with one. -/
theorem text_below (something : root.text ≠ []) (proper : Names names) :
    (∃ front, root.text = front ++ ['/'] ∧
      (below root names).text = front ++ '/' :: Text.join ['/'] names) ∨
    (below root names).text = root.text ++ '/' :: Text.join ['/'] names := by
  rw [below, if_neg proper.notNil, Path.joined, if_neg (by simp [proper.relative_join.1])]
  by_cases ended : root.text.getLast? = some '/'
  · obtain ⟨front, shape⟩ := List.getLast?_eq_some_iff.1 ended
    rw [if_pos (.inr ended)]
    exact .inl ⟨front, shape, by simp [shape]⟩
  · rw [if_neg (not_or_intro something ended)]
    exact .inr rfl

/-- The operating system finds what lies below a root that it finds: where there are no links, and
the path is none that it refuses. -/
theorem Linkless.locate_below (linkless : disk.Linkless) (grounded : disk.Grounded)
    (located : disk.locate here root = .ok top) (proper : Names names)
    (isPlace : top ++ names ∈ disk.nodes.map Prod.fst)
    (noZero : '\x00' ∉ (below root names).text)
    (short : (Utf8.encode (below root names).text).length < maxPath) :
    disk.locate here (below root names) = .ok (top ++ names) := by
  obtain ⟨something, -, -, followed⟩ := locate_eq_ok_iff.1 located
  have onward : disk.follow maxLinks top names = .ok (top ++ names) := by
    have spelled : disk.follow maxLinks top ((names.map Component.name).map Component.text) =
        .ok (top ++ names) :=
      linkless.follow_of_walked? (Path.plain_names proper.plain)
        (grounded.walked?_names names (.inr isPlace))
    rwa [Path.map_text_names] at spelled
  refine locate_eq_ok_iff.2 ⟨?_, noZero, short, ?_⟩
  · obtain ⟨front, -, spelled⟩ | spelled := text_below something proper <;> simp [spelled]
  · obtain ⟨front, shape, spelled⟩ | spelled := text_below something proper
    · -- The root ends with a slash, after which nothing is left to follow.
      have start : startOf (front ++ '/' :: Text.join ['/'] names) here =
          startOf root.text here := by
        rw [shape]
        cases front <;> rfl
      have ended : Text.split '/' root.text = Text.split '/' front ++ [[]] := by
        rw [shape, Text.split_append_separator]
        rfl
      rw [ended, linkless.follow_append_iff] at followed
      obtain ⟨between, first, last⟩ := followed
      rw [follow_cons_of_none (isDirectory_of_follow last) rfl, follow] at last
      obtain rfl := Except.ok.inj last
      rw [spelled, start, Text.split_append_separator, proper.split_join,
        linkless.follow_append_iff]
      exact ⟨_, first, onward⟩
    · have start : startOf (root.text ++ '/' :: Text.join ['/'] names) here =
          startOf root.text here := by
        rw [startOf, startOf, List.head?_append_of_ne_nil _ something]
      rw [spelled, start, Text.split_append_separator, proper.split_join,
        linkless.follow_append_iff]
      exact ⟨_, followed, onward⟩

end Splice.Disk
