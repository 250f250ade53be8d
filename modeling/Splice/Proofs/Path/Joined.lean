import Mathlib.Data.List.Induction
import Splice.Home
import Splice.Proofs.Path.Normal

/-!
# Joined paths

What cleaning makes of a path that is read from a directory. It depends on what cleaning keeps of
either (`kept_joined`), so joining is associative but for dots and undone names
(`kept_joined_joined`).

A path can be read from a directory before or after an include directive in the file that it names
is resolved: the directive leads to the same file (`includedFrom_anchored`). This takes that the
path ends in a name; a directive in the file `..` would be read from a directory that its text does
not show.
-/

namespace Splice

namespace Path

/-! ## What cleaning keeps -/

/-- What cleaning keeps of a path, the latest component first. -/
def kept (path : Path) : List Component :=
  path.components.foldl keep []

/-- What follows where a path starts: steps up, and names. -/
def steps (path : Path) : List Component :=
  (Text.split '/' path.text).filterMap Component.ofPiece?

/-- Where a path starts. -/
def start (path : Path) : List Component :=
  if path.isAbsolute then [.root] else []

/-- The steps of a path are plain. -/
theorem plain_steps (path : Path) : ∀ step ∈ path.steps, step.Plain := by
  intro step isStep
  obtain ⟨piece, isPiece, stands⟩ := List.mem_filterMap.1 isStep
  exact Component.plain_of_ofPiece? (Text.notMem_of_mem_split isPiece) stands

/-- A path is followed from where it starts. A dot in front makes no difference. -/
theorem kept_eq (path : Path) : path.kept = path.steps.foldl keep path.start := by
  unfold kept components start
  by_cases absolute : path.isAbsolute = true
  · simp only [absolute, ↓reduceIte]
    rfl
  · simp only [absolute, Bool.false_eq_true, ↓reduceIte]
    split <;> rfl

/-- A relative path is followed from nowhere. -/
theorem kept_of_relative {path : Path} (relative : path.isAbsolute = false) :
    path.kept = path.steps.foldl keep [] := by
  rw [kept_eq, start, relative]
  rfl

theorem settled_kept (path : Path) : Settled path.kept :=
  path.settled_components

/-- How a path is cleaned depends on what is kept of it. -/
theorem clean_eq_of_kept {path other : Path} (same : path.kept = other.kept) :
    path.clean = other.clean := by
  have steps : cleanComponents path.components = cleanComponents other.components :=
    congrArg List.reverse same
  rw [clean, clean, steps]

/-- Two clean paths are the same when the same is kept of them. -/
theorem eq_of_kept {path other : Path} (clean : path.clean = path) (clean' : other.clean = other)
    (same : path.kept = other.kept) : path = other := by
  rw [← clean, ← clean', clean_eq_of_kept same]

/-- Cleaning keeps all of what it has kept. -/
@[simp] theorem kept_clean (path : Path) : path.clean.kept = path.kept :=
  List.reverse_inj.1 path.cleanComponents_clean

/-- Plain steps neither lead to the root nor away from it. -/
theorem root_mem_foldl_keep {below steps : List Component} (plain : ∀ step ∈ steps, step.Plain) :
    .root ∈ steps.foldl keep below ↔ .root ∈ below := by
  induction steps generalizing below with
  | nil => rfl
  | cons step rest ih =>
    rw [List.forall_mem_cons] at plain
    rw [List.foldl_cons, ih plain.2]
    match step, plain.1 with
    | .name text, _ => simp [keep]
    | .up, _ =>
      match below with
      | [] | .name _ :: _ | .root :: _ | .up :: _ | .here :: _ => simp [keep]

/-- A path is absolute when the root is kept of it. -/
theorem root_mem_kept_iff (path : Path) : .root ∈ path.kept ↔ path.isAbsolute = true := by
  rw [kept_eq, root_mem_foldl_keep path.plain_steps, start]
  cases path.isAbsolute <;> simp

/-- Cleaning keeps a path absolute or relative. -/
@[simp] theorem isAbsolute_clean (path : Path) : path.clean.isAbsolute = path.isAbsolute := by
  rw [Bool.eq_iff_iff, ← root_mem_kept_iff, ← root_mem_kept_iff, kept_clean]

/-- What is kept of plain steps leads wherever they do. The induction takes the steps from the end:
each of them undoes a name or is added, above what is kept of those before as well as above where
they lead. -/
theorem foldl_keep_kept (below : List Component) {steps : List Component}
    (plain : ∀ step ∈ steps, step.Plain) :
    (steps.foldl keep []).reverse.foldl keep below = steps.foldl keep below := by
  induction steps using List.reverseRecOn with
  | nil => rfl
  | append_singleton before step ih =>
    rw [List.forall_mem_append, List.forall_mem_singleton] at plain
    have onward := ih plain.1
    have noRoot : .root ∉ before.foldl keep [] := by
      simp [root_mem_foldl_keep plain.1]
    simp only [List.foldl_append, List.foldl_cons, List.foldl_nil]
    rw [← onward]
    match step, plain.2 with
    | .name text, _ => simp [keep]
    | .up, _ =>
      match shape : before.foldl keep [] with
      | [] => rfl
      | .name text :: rest => simp [keep]
      | .up :: rest => simp [keep]
      | .here :: rest => simp [keep]
      | .root :: rest => simp [shape] at noRoot

/-! ## Reading a path from a directory -/

section

variable {base dir path : Path}

/-- An absolute path is read as itself. -/
theorem joined_of_isAbsolute (base : Path) (absolute : path.isAbsolute = true) :
    base.joined path = path := by
  rw [joined, if_pos absolute]

/-- A slash divides the steps of a path. -/
theorem steps_append_slash (before after : Text) :
    steps ⟨before ++ '/' :: after⟩ = steps ⟨before⟩ ++ steps ⟨after⟩ := by
  simp only [steps, Text.split_append_separator, List.filterMap_append]

/-- A slash at the end adds no step. -/
theorem steps_concat_slash (before : Text) : steps ⟨before ++ ['/']⟩ = steps ⟨before⟩ := by
  rw [steps_append_slash]
  exact List.append_nil _

/-- The steps of a relative path come after those of the directory. -/
theorem steps_joined (base : Path) (relative : path.isAbsolute = false) :
    (base.joined path).steps = base.steps ++ path.steps := by
  rw [joined, if_neg (by simp [relative])]
  by_cases ended : base.text.getLast? = some '/'
  · obtain ⟨front, shape⟩ := List.getLast?_eq_some_iff.1 ended
    have slash : base = ⟨front ++ ['/']⟩ := congrArg mk shape
    rw [if_pos (.inr ended), slash, steps_concat_slash, List.append_assoc]
    exact steps_append_slash front path.text
  · by_cases empty : base.text = []
    · have nowhere : base.steps = [] := by
        rw [steps, empty]
        rfl
      rw [if_pos (.inl empty), nowhere, empty]
      rfl
    · rw [if_neg (not_or_intro empty ended)]
      exact steps_append_slash base.text path.text

/-- A relative path that is read from a directory starts where the directory does. -/
theorem isAbsolute_joined (base : Path) (relative : path.isAbsolute = false) :
    (base.joined path).isAbsolute = base.isAbsolute := by
  rw [joined, if_neg (by simp [relative])]
  cases shape : base.text with
  | nil =>
    have nowhere : base.isAbsolute = false := by
      rw [isAbsolute, shape]
      rfl
    rw [if_pos (.inl rfl), nowhere, List.nil_append]
    exact relative
  | cons c rest =>
    simp only [isAbsolute, shape]
    split <;> rfl

/-- A relative path that is read from a directory is followed from there. -/
theorem kept_joined_steps (base : Path) (relative : path.isAbsolute = false) :
    (base.joined path).kept = path.steps.foldl keep base.kept := by
  have start : (base.joined path).start = base.start := by
    rw [start, isAbsolute_joined base relative, ← Path.start]
  rw [kept_eq, kept_eq, steps_joined base relative, start, List.foldl_append]

/-- It is enough to follow what is kept of it. -/
theorem kept_joined (base : Path) (relative : path.isAbsolute = false) :
    (base.joined path).kept = path.kept.reverse.foldl keep base.kept := by
  rw [kept_of_relative relative, foldl_keep_kept base.kept path.plain_steps,
    kept_joined_steps base relative]

/-- From a directory that is itself read from another, a path leads where it leads once both are
read from there. -/
theorem kept_joined_joined (base : Path) (relativeDir : dir.isAbsolute = false)
    (relative : path.isAbsolute = false) :
    (base.joined (dir.joined path)).kept = ((base.joined dir).joined path).kept := by
  have both : (dir.joined path).isAbsolute = false := by
    rw [isAbsolute_joined dir relative, relativeDir]
  rw [kept_joined_steps base both, steps_joined dir relative, List.foldl_append,
    kept_joined_steps (base.joined dir) relative, kept_joined_steps base relativeDir]

end

/-! ## The directory of a file -/

section

variable {path : Path}

/-- Components in normal form are all kept. -/
theorem kept_ofComponents {below : List Component} (settled : Settled below) :
    (ofComponents below.reverse).kept = below := by
  have spelled : (ofComponents below.reverse).components = below.reverse := by
    obtain ⟨steps, plain, shape | shape⟩ := settled.reverse_shape
    · rw [shape]
      exact components_ofComponents_root plain
    · rw [shape]
      cases steps with
      | nil => rfl
      | cons step rest => exact components_ofComponents_plain plain
  rw [kept, spelled, settled.foldl_keep_reverse]

/-- A clean path of which something is kept is read as it is kept. -/
theorem components_of_clean (clean : path.clean = path) (some : path.kept ≠ []) :
    path.components = path.kept.reverse := by
  rcases path.components_clean with same | ⟨_, none⟩
  · rw [clean] at same
    exact same
  · exact absurd (List.reverse_eq_nil_iff.1 none) some

/-- A clean path ends in a name, unless it is the current directory, the root, or ends in a step
up. -/
theorem kept_cases (clean : path.clean = path) :
    path = ⟨['.']⟩ ∨ path = ⟨['/']⟩ ∨ path.components.getLast? = some .up ∨
      ∃ text below, path.kept = .name text :: below := by
  have settled := path.settled_kept
  cases shape : path.kept with
  | nil =>
    left
    exact eq_of_kept clean rfl shape
  | cons step below =>
    right
    rw [shape] at settled
    have components : path.components = below.reverse ++ [step] := by
      rw [components_of_clean clean (by simp [shape]), shape, List.reverse_cons]
    cases settled with
    | root =>
      left
      exact eq_of_kept clean rfl shape
    | up onlyUp settled =>
      right
      left
      rw [components, List.getLast?_concat]
    | @name text _ plain settled => exact .inr (.inr ⟨text, below, rfl⟩)

/-- A clean path that ends in a step up is made of nothing else. -/
theorem exists_replicate_up (clean : path.clean = path)
    (up : path.components.getLast? = some .up) : ∃ n, path.kept = List.replicate (n + 1) .up := by
  have some : path.kept ≠ [] := by
    intro none
    have dot : path = ⟨['.']⟩ := eq_of_kept clean rfl none
    rw [dot] at up
    cases up
  have settled := path.settled_kept
  rw [components_of_clean clean some, List.getLast?_reverse] at up
  cases shape : path.kept with
  | nil => exact absurd shape some
  | cons step below =>
    rw [shape] at up settled
    obtain rfl : step = .up := Option.some.inj up
    cases settled with
    | up onlyUp _ =>
      refine ⟨below.length, ?_⟩
      rw [List.replicate_succ, ← List.eq_replicate_of_mem onlyUp]

/-- Above the root there is nothing. -/
theorem foldl_keep_replicate_up (n : Nat) :
    (List.replicate n .up).foldl keep [.root] = [.root] := by
  induction n with
  | zero => rfl
  | succ n ih =>
    rw [List.replicate_succ, List.foldl_cons]
    exact ih

/-- The directory of a file that has a name is kept but for the name. -/
theorem exists_parent {text : Text} {below : List Component} (clean : path.clean = path)
    (named : path.kept = .name text :: below) :
    ∃ dir, path.parent? = some dir ∧ dir.kept = below ∧ dir.isAbsolute = path.isAbsolute := by
  have settled : Settled below := by
    have all := path.settled_kept
    rw [named] at all
    cases all with
    | name _ settled => exact settled
  have components : path.components = below.reverse ++ [.name text] := by
    rw [components_of_clean clean (by simp [named]), named, List.reverse_cons]
  refine ⟨ofComponents below.reverse, ?_, kept_ofComponents settled, ?_⟩
  · simp [parent?, components]
  · rw [Bool.eq_iff_iff, ← root_mem_kept_iff, ← root_mem_kept_iff, kept_ofComponents settled, named]
    simp

end

/-! ## Paths and directives read from a directory -/

/-- The clean path that a path stands for when it is read from a directory. -/
def anchored (base path : Path) : Path :=
  (base.joined path).clean

section

variable {base path : Path}

@[simp] theorem clean_anchored (base path : Path) :
    (base.anchored path).clean = base.anchored path :=
  clean_clean _

/-- From a directory that is named from the top, every path is. -/
theorem isAbsolute_anchored (absolute : base.isAbsolute = true) (path : Path) :
    (base.anchored path).isAbsolute = true := by
  rw [anchored, isAbsolute_clean]
  cases start : path.isAbsolute with
  | true => rw [joined_of_isAbsolute base start, start]
  | false => rw [isAbsolute_joined base start, absolute]

/-- A clean absolute path stands for itself. -/
theorem anchored_of_isAbsolute (base : Path) (clean : path.clean = path)
    (absolute : path.isAbsolute = true) : base.anchored path = path := by
  rw [anchored, joined_of_isAbsolute base absolute, clean]

/-- Once it has been read from a directory, a path stands for itself. -/
theorem anchored_anchored (absolute : base.isAbsolute = true) (path : Path) :
    base.anchored (base.anchored path) = base.anchored path :=
  anchored_of_isAbsolute base (clean_anchored base path) (isAbsolute_anchored absolute path)

/-- It does not matter whether a path is cleaned first. -/
@[simp] theorem anchored_clean (base path : Path) :
    base.anchored path.clean = base.anchored path := by
  cases start : path.isAbsolute with
  | true =>
    have start' : path.clean.isAbsolute = true := by rw [isAbsolute_clean, start]
    rw [anchored, anchored, joined_of_isAbsolute base start, joined_of_isAbsolute base start',
      clean_clean]
  | false =>
    have start' : path.clean.isAbsolute = false := by rw [isAbsolute_clean, start]
    apply clean_eq_of_kept
    rw [kept_joined base start, kept_joined base start', kept_clean]

/-- Where a path leads from a directory depends on what is kept of it. -/
theorem anchored_eq_of_kept (base : Path) {other : Path} (same : path.kept = other.kept) :
    base.anchored path = base.anchored other := by
  rw [← anchored_clean base path, clean_eq_of_kept same, anchored_clean]

/-- A directive leads to the same file whether the file that it stands in is read from a directory,
or the file that it names. -/
theorem includedFrom_anchored {text : Text} {below : List Component} (base target : Path)
    (clean : path.clean = path) (named : path.kept = .name text :: below) :
    (base.anchored path).includedFrom target = base.anchored (path.includedFrom target) := by
  cases origin : target.isAbsolute with
  | true =>
    have absolute : target.clean.isAbsolute = true := by rw [isAbsolute_clean, origin]
    rw [includedFrom, includedFrom, if_pos origin, if_pos origin,
      anchored_of_isAbsolute base (clean_clean target) absolute]
  | false =>
    have relative : ¬ target.isAbsolute = true := by simp [origin]
    obtain ⟨dir, parent, keptDir, startDir⟩ := exists_parent clean named
    have inside : path.includedFrom target = (dir.joined target).clean := by
      rw [includedFrom, if_neg relative, parent]
      rfl
    cases start : path.isAbsolute with
    | true =>
      have absolute : (path.includedFrom target).isAbsolute = true := by
        rw [inside, isAbsolute_clean, isAbsolute_joined dir origin, startDir, start]
      rw [anchored_of_isAbsolute base clean start,
        anchored_of_isAbsolute base (clean_includedFrom path target) absolute]
    | false =>
      have relativeDir : dir.isAbsolute = false := startDir.trans start
      have named' : (base.anchored path).kept =
          .name text :: below.reverse.foldl keep base.kept := by
        rw [anchored, kept_clean, kept_joined base start, named, List.reverse_cons,
          List.foldl_append]
        rfl
      obtain ⟨dir', parent', keptDir', _⟩ := exists_parent (clean_anchored base path) named'
      have inside' : (base.anchored path).includedFrom target = (dir'.joined target).clean := by
        rw [includedFrom, if_neg relative, parent']
        rfl
      rw [inside, inside', anchored_clean]
      apply clean_eq_of_kept
      rw [kept_joined_joined base relativeDir origin, kept_joined_steps dir' origin,
        kept_joined_steps (base.joined dir) origin, keptDir', kept_joined base relativeDir, keptDir]

end

/-- The text of a clean path begins like the name that it starts with. -/
theorem head?_text_clean {path : Path} {first : Text} {rest : List Component}
    (shape : path.clean.components = .name first :: rest) :
    path.clean.text.head? = first.head? := by
  have something : first ≠ [] := by
    obtain ⟨steps, plain, rooted | dotted | bare⟩ := path.clean.components_shape
    · rw [shape] at rooted
      cases rooted
    · rw [shape] at dotted
      cases dotted
    · exact (plain (.name first) (bare ▸ shape ▸ List.mem_cons_self)).1
  have keeps : cleanComponents path.components = .name first :: rest := by
    obtain same | ⟨dot, _⟩ := path.components_clean
    · rw [← same, shape]
    · rw [shape] at dot
      cases dot
  have spelled : path.clean.text = Text.join ['/'] (first :: rest.map Component.text) := by
    rw [clean, keeps]
    rfl
  obtain ⟨c, more, rfl⟩ := List.exists_cons_of_ne_nil something
  rw [spelled]
  cases rest with
  | nil => rw [List.map_nil, Text.join_singleton]
  | cons next others =>
    rw [List.map_cons, Text.join_cons_cons]
    rfl

end Path

/-! ## Root names -/

namespace Homes

variable {path : Path}

/-- An absolute root name stands for itself. -/
theorem resolve_of_isAbsolute (homes : Homes) (absolute : path.isAbsolute = true) :
    homes.resolve path = .ok path.clean := by
  have start : path.clean.isAbsolute = true := by rw [Path.isAbsolute_clean, absolute]
  rw [resolve, Path.components, if_pos start]

/-- A root name stands for itself unless it begins with a tilde. -/
theorem resolve_of_head? (homes : Homes) (plain : path.clean.text.head? ≠ some '~') :
    homes.resolve path = .ok path.clean := by
  unfold resolve
  split
  · next first rest shape =>
    rw [Path.head?_text_clean shape] at plain
    rw [if_neg plain]
  · rfl

/-- What a root name stands for is clean. -/
theorem clean_of_resolve {homes : Homes} {root : Path} (resolved : homes.resolve root = .ok path) :
    path.clean = path := by
  unfold resolve at resolved
  split at resolved
  · split at resolved
    · split at resolved
      · obtain rfl := Except.ok.inj resolved
        exact Path.clean_clean _
      · cases resolved
    · obtain rfl := Except.ok.inj resolved
      exact Path.clean_clean _
  · obtain rfl := Except.ok.inj resolved
    exact Path.clean_clean _

end Homes

end Splice
