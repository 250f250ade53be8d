import Mathlib.Tactic.FinCases
import Splice.Proofs.Discovered
import Splice.Proofs.Path.Located

/-!
# Searching a tree wherever it stands

A search below a directory sees the tree that stands there by the names that lead to its entries.
Where the same tree stands at two roots, and no ignore rule hides anything of it, searches of both
find the same (`searched_by_tree`), with one exception: nothing is found from a root whose path goes
through a repository's own directory, whatever stands there (`own_directory_blind`). What the
directories on the way are called should make no difference; this name does.

A tree is given by what a search can tell of it: which names lead to something, and which of these
to a directory. On a disk without links and rules these are the nodes themselves, as long as no path
gets too long (`Stands.of_linkless`), so that copies of the same nodes are the same tree. A link may
lead out of the tree, and what it leads to is then part of what has to be the same. A dash is no
root to a walk.
-/

namespace Splice

/-! ## Paths below a root -/

namespace Path

/-- What paths have in common in front does not count in their order. -/
theorem componentsPrecede_append (base left right : List Component) :
    componentsPrecede (base ++ left) (base ++ right) = componentsPrecede left right := by
  induction base with
  | nil => rfl
  | cons step rest ih =>
    have irreflexive : step.precedes step = false := by
      rw [← Bool.not_eq_true, Component.precedes_iff]
      exact lt_irrefl _
    rw [List.cons_append, List.cons_append, componentsPrecede, irreflexive, ih]
    simp

@[simp] theorem sameAs_self (path : Path) : path.sameAs path = true :=
  beq_self_eq_true _

end Path

namespace Disk

variable {names names' : List Text}

/-- What leads to an entry below a place are names. -/
theorem Proper.names_of_mem {disk : Disk} (proper : disk.Proper) {top : Place}
    (isPlace : top ++ names ∈ disk.nodes.map Prod.fst) (notNil : names ≠ []) : Names names where
  notNil := notNil
  plain name isIn := proper.plain _ isPlace name (List.mem_append_right _ isIn)

/-- The components of a path as seen from the root that it lies below. -/
theorem components_relativeTo_below (root : Path) (proper : Names names) :
    (root.relativeTo (below root names)).components = names.map .name := by
  obtain ⟨relative, dotless⟩ := proper.relative_join
  rw [Path.components_eq, Path.steps, Path.isAbsolute, relativeTo_below root proper]
  rw [← Path.steps, ← Path.isAbsolute, relative, if_neg dotless, proper.steps_join]
  rfl

/-- Seen from the root, paths are in the same order. -/
theorem precedes_relativeTo_below (root : Path) (proper : Names names) (proper' : Names names') :
    (root.relativeTo (below root names)).precedes (root.relativeTo (below root names')) =
      (below root names).precedes (below root names') := by
  rw [Path.precedes, Path.precedes, components_relativeTo_below root proper,
    components_relativeTo_below root proper', components_below root proper,
    components_below root proper', Path.componentsPrecede_append]

end Disk

/-! ## Disks without rules -/

namespace Ignore

/-- The ignore files of a directory hold no rules. -/
structure Scope.Ruleless (scope : Scope) : Prop where
  always : scope.always.rules = []
  shared : scope.shared.rules = []
  unshared : scope.unshared.rules = []

/-- A file without rules says nothing. -/
theorem RuleFile.hides?_of_nil {file : RuleFile} (none : file.rules = []) (relative : Text)
    (isDirectory : Bool) : file.hides? relative isDirectory = .none := by
  rw [hides?, none]
  rfl

theorem insideRepository_subset (scopes : List Scope) : insideRepository scopes ⊆ scopes := by
  induction scopes with
  | nil => exact List.Subset.refl _
  | cons scope outer ih =>
    rw [insideRepository]
    split
    · exact List.cons_subset_cons _ (List.nil_subset _)
    · exact List.cons_subset_cons _ ih

/-- Where there are no rules, nothing is said of an entry. -/
theorem hides?_of_ruleless {scopes : List Scope} {everywhere : RuleFile}
    (ruleless : ∀ scope ∈ scopes, scope.Ruleless) (none : everywhere.rules = []) (place : Place)
    (spelled : Text) (isDirectory : Bool) :
    hides? scopes everywhere place spelled isDirectory = .none := by
  have silent {some : List Scope} (isSome : some ⊆ scopes) (file : Scope → RuleFile)
      (noRules : ∀ scope : Scope, scope.Ruleless → (file scope).rules = []) :
      (some.findSome? fun scope => (file scope).hides? (scope.relative place) isDirectory) =
        .none :=
    List.findSome?_eq_none_iff.2 fun scope isIn =>
      RuleFile.hides?_of_nil (noRules scope (ruleless scope (isSome isIn))) _ _
  have inside := insideRepository_subset scopes
  simp only [hides?, silent (List.Subset.refl _) Scope.always fun _ => Scope.Ruleless.always,
    silent inside Scope.shared fun _ => Scope.Ruleless.shared,
    silent inside Scope.unshared fun _ => Scope.Ruleless.unshared,
    RuleFile.hides?_of_nil none]
  simp

end Ignore

namespace Disk

/-- No ignore file of a disk holds rules, neither one of a directory nor the one for all
repositories. -/
structure Ruleless (disk : Disk) (here : Place) (homes : Homes) : Prop where
  scopes : ∀ place, disk.isDirectory place = true →
    (Ignore.Scope.ofPlace disk here place).Ruleless
  everywhere : (Ignore.everywhere disk here homes).rules = []

/-- Where there are no rules, nothing is hidden. -/
theorem Ruleless.hides_eq_false {disk : Disk} {here : Place} {homes : Homes}
    (ruleless : disk.Ruleless here homes) (root : Path) (top : Place) (names : List Text) :
    disk.hides here homes root top names = false := by
  rw [hides, isHidden, List.any_eq_false]
  intro count _
  dsimp only
  rw [Ignore.hides?_of_ruleless _ ruleless.everywhere]
  · simp
  · intro scope isIn
    obtain ⟨place, -, found⟩ := List.mem_filterMap.1 isIn
    obtain ⟨place', isPlace, rfl⟩ := List.mem_map.1 (List.mem_of_find?_eq_some found)
    exact ruleless.scopes place' (List.mem_filter.1 isPlace).2

end Disk
/-! ## Trees -/

/-- What a search can tell of the entries below a directory: whether names lead to something, and if
so, whether to a directory. -/
abbrev Tree := List Text → Option Bool

/-- A tree stands at a root, with nothing of it hidden. -/
structure Stands (tree : Tree) (disk : Disk) (here : Place) (homes : Homes) (root : Path)
    (top : Place) : Prop where
  proper : disk.Proper
  /-- The root is no dash, which would not be walked. -/
  named : root.sameAs ⟨['-']⟩ = false
  located : disk.locate here root = .ok top
  /-- The names of the tree are those of the entries below the root. -/
  mem_iff : ∀ names, names ≠ [] →
    (top ++ names ∈ disk.nodes.map Prod.fst ↔ (tree names).isSome = true)
  /-- They lead to directories where the tree has directories. -/
  leads : ∀ names leads, names ≠ [] → tree names = some leads →
    disk.leadsToDirectory here (Disk.below root names) = leads
  /-- No ignore rule hides anything. -/
  seen : ∀ names, names ≠ [] → (tree names).isSome = true →
    disk.hides here homes root top names = false

namespace Stands

variable {tree : Tree} {disk : Disk} {here top : Place} {homes : Homes} {root : Path}

theorem names (stands : Stands tree disk here homes root top) {names : List Text} {leads : Bool}
    (notNil : names ≠ []) (isEntry : tree names = some leads) : Names names := by
  have isPlace := (stands.mem_iff names notNil).2 (Option.isSome_of_eq_some isEntry)
  exact stands.proper.names_of_mem isPlace notNil

/-- A walk comes to the entries of the tree. -/
theorem mem_walk_iff (stands : Stands tree disk here homes root top) {names : List Text}
    (proper : Names names) {leads : Bool} :
    .entry (Disk.below root names) leads ∈ disk.walk here homes root ↔
      tree names = some leads := by
  rw [Disk.mem_walk_iff stands.located stands.named]
  constructor
  · generalize spelled : Disk.below root names = path
    rintro (_ | @⟨names', notNil', isPlace, -⟩)
    · have differs := Disk.sameAs_below root proper
      rw [spelled, Path.sameAs_self] at differs
      cases differs
    · have isSome := (stands.mem_iff names' notNil').1 isPlace
      obtain ⟨leads, isEntry⟩ := Option.isSome_iff_exists.1 isSome
      obtain rfl : names = names' :=
        Disk.eq_of_components_below proper.plain (stands.names notNil' isEntry).plain
          (congrArg Path.components spelled)
      rw [← spelled, stands.leads names leads notNil' isEntry, isEntry]
  · intro isEntry
    have isSome := Option.isSome_of_eq_some isEntry
    have shows : disk.Shows here homes root top (Disk.below root names)
        (disk.leadsToDirectory here (Disk.below root names)) :=
      .below proper.notNil ((stands.mem_iff names proper.notNil).2 isSome)
        (stands.seen names proper.notNil isSome)
    rwa [stands.leads names leads proper.notNil isEntry] at shows

end Stands

/-- The tree below a place of a disk, by the nodes. -/
def Disk.treeBelow (disk : Disk) (top : Place) : Tree := fun names =>
  (disk.node? (top ++ names)).map (· == .directory)

/-- Copies of the same nodes are the same tree. -/
theorem Disk.treeBelow_congr {disk disk' : Disk} {top top' : Place}
    (copy : ∀ names, disk.node? (top ++ names) = disk'.node? (top' ++ names)) :
    disk.treeBelow top = disk'.treeBelow top' := by
  funext names
  rw [treeBelow, treeBelow, copy]

/-- On a disk without links and rules, the nodes are all there is to a tree, as long as the
operating system refuses no path to an entry. -/
theorem Stands.of_linkless {disk : Disk} {here top : Place} {homes : Homes} {root : Path}
    (proper : disk.Proper) (linkless : disk.Linkless) (grounded : disk.Grounded)
    (ruleless : disk.Ruleless here homes) (named : root.sameAs ⟨['-']⟩ = false)
    (located : disk.locate here root = .ok top)
    (accepted : ∀ names, top ++ names ∈ disk.nodes.map Prod.fst →
      '\x00' ∉ (Disk.below root names).text ∧
        (Utf8.encode (Disk.below root names).text).length < Disk.maxPath) :
    Stands (disk.treeBelow top) disk here homes root top where
  proper := proper
  named := named
  located := located
  mem_iff names notNil := by
    rw [Disk.treeBelow, Option.isSome_map, Disk.isSome_node?_iff (by simp [notNil])]
  leads names leads notNil isEntry := by
    obtain ⟨node, stands, rfl⟩ := Option.map_eq_some_iff.1 isEntry
    have isPlace := (Disk.isSome_node?_iff (by simp [notNil])).1 (Option.isSome_of_eq_some stands)
    obtain ⟨noZero, short⟩ := accepted names isPlace
    rw [Disk.leadsToDirectory, linkless.locate_below grounded located
      (proper.names_of_mem isPlace notNil) isPlace noZero short]
    simp [Disk.isDirectory, stands]
  seen names _ _ := ruleless.hides_eq_false root top names

/-! ## Searching a tree -/

/-- Patterns select names of a tree: they lead to something other than a directory, pass through no
repository's own directory, and match a pattern for files that stay and none for files that do
not. -/
structure Tree.Selects (tree : Tree) (included excluded : List Glob.Pattern) (names : List Text) :
    Prop where
  proper : Names names
  isFile : tree names = some false
  shared : Ignore.repositoryName ∉ names
  included : ∃ pattern ∈ included, pattern.isMatch (Text.join ['/'] names) = true
  excluded : ∀ pattern ∈ excluded, pattern.isMatch (Text.join ['/'] names) = false

namespace Discovery

/-- What lies below a root is in a repository's own directory if the root is, or if names on the way
are. -/
theorem isPrivate_below (root : Path) {names : List Text} (proper : Names names) :
    isPrivate (Disk.below root names) =
      (isPrivate root || names.contains Ignore.repositoryName) := by
  rw [isPrivate, isPrivate, Disk.components_below root proper, Bool.eq_iff_iff]
  simp

variable {tree : Tree} {disk : Disk} {here top : Place} {homes : Homes} {discovery : Discovery}

/-- A file stays if it is selected of the tree and the root lies in no repository's own
directory. -/
theorem below_mem_files_walk_iff (stands : Stands tree disk here homes discovery.root top)
    {names : List Text} (proper : Names names) :
    Disk.below discovery.root names ∈ discovery.files (disk.walk here homes discovery.root) ↔
      isPrivate discovery.root = false ∧
        tree.Selects discovery.included discovery.excluded names := by
  refine (below_mem_files_iff proper).trans ?_
  rw [stands.mem_walk_iff proper, isPrivate_below _ proper, Bool.or_eq_false_iff]
  constructor
  · rintro ⟨isFile, ⟨outside, shared⟩, included, excluded⟩
    exact ⟨outside, proper, isFile, by simpa using shared, included, excluded⟩
  · rintro ⟨outside, -, isFile, shared, included, excluded⟩
    exact ⟨isFile, ⟨outside, by simpa using shared⟩, included, excluded⟩

/-- No other files stay. -/
theorem mem_files_walk_iff (stands : Stands tree disk here homes discovery.root top)
    {path : Path} :
    path ∈ discovery.files (disk.walk here homes discovery.root) ↔
      isPrivate discovery.root = false ∧
        ∃ names, tree.Selects discovery.included discovery.excluded names ∧
          path = Disk.below discovery.root names := by
  constructor
  · intro stays
    obtain ⟨leads, found, selects⟩ := mem_files_iff.1 stays
    obtain ⟨names, plain, rfl⟩ :=
      (Disk.walks stands.proper here homes stands.named).below path leads found
    have notNil : names ≠ [] := by
      rintro rfl
      have differs := (selects_iff.1 selects).1
      rw [Disk.below, if_pos rfl, Path.sameAs_self] at differs
      cases differs
    obtain ⟨outside, selected⟩ := (below_mem_files_walk_iff stands ⟨notNil, plain⟩).1 stays
    exact ⟨outside, names, selected, rfl⟩
  · rintro ⟨outside, names, selected, rfl⟩
    exact (below_mem_files_walk_iff stands selected.proper).2 ⟨outside, selected⟩

/-- What patterns find of a tree, as seen from its root: what they select, in strict order. From a
root in a repository's own directory, nothing. -/
structure Sees (tree : Tree) (included excluded : List Glob.Pattern) (inside : Bool)
    (found : List Path) : Prop where
  increasing : found.Pairwise fun left right => left.precedes right = true
  mem_iff : ∀ path, path ∈ found ↔
    inside = false ∧ ∃ names, tree.Selects included excluded names ∧
      path = ⟨Text.join ['/'] names⟩

variable {root : Path} {included excluded : List Text}

/-- A search sees of the tree what its patterns find of it. -/
theorem sees (stands : Stands tree disk here homes root top)
    (reads : ofTexts root included excluded = .ok discovery) :
    Sees tree discovery.included discovery.excluded (isPrivate root)
      ((discovery.files (disk.walk here homes root)).map root.relativeTo) := by
  obtain rfl := (ofTexts_eq_ok_iff.1 reads).1
  have seen {names : List Text} (proper : Names names) :
      discovery.root.relativeTo (Disk.below discovery.root names) =
        ⟨Text.join ['/'] names⟩ :=
    congrArg Path.mk (Disk.relativeTo_below _ proper)
  constructor
  · have increasing :=
      (finds reads (Disk.walks stands.proper here homes stands.named)).increasing
    rw [List.pairwise_map]
    refine increasing.imp_of_mem fun {path path'} stays stays' before => ?_
    obtain ⟨-, names, selected, rfl⟩ := (mem_files_walk_iff stands).1 stays
    obtain ⟨-, names', selected', rfl⟩ := (mem_files_walk_iff stands).1 stays'
    rwa [Disk.precedes_relativeTo_below _ selected.proper selected'.proper]
  · intro path
    simp only [List.mem_map, mem_files_walk_iff stands]
    constructor
    · rintro ⟨_, ⟨outside, names, selected, rfl⟩, rfl⟩
      exact ⟨outside, names, selected, seen selected.proper⟩
    · rintro ⟨outside, names, selected, rfl⟩
      exact ⟨_, ⟨outside, names, selected, rfl⟩, seen selected.proper⟩

/-- It is known by the tree, and by whether the root lies in a repository's own directory. -/
theorem Sees.unique {patterns patterns' : List Glob.Pattern} {inside : Bool}
    {found found' : List Path} (sees : Sees tree patterns patterns' inside found)
    (sees' : Sees tree patterns patterns' inside found') : found = found' :=
  Path.eq_of_precedes sees.increasing sees'.increasing fun path => by
    rw [sees.mem_iff, sees'.mem_iff]

/-- Nothing is seen from inside a repository's own directory. -/
theorem Sees.eq_nil {patterns patterns' : List Glob.Pattern} {found : List Path}
    (sees : Sees tree patterns patterns' true found) : found = [] := by
  rw [List.eq_nil_iff_forall_not_mem]
  intro path isIn
  cases ((sees.mem_iff path).1 isIn).1

/-- What the same patterns find of the same tree is the same from inside and from inside, or from
outside and from outside. Otherwise it is the same only if it is nothing. -/
theorem Sees.eq_iff {patterns patterns' : List Glob.Pattern} {inside inside' : Bool}
    {found found' : List Path} (sees : Sees tree patterns patterns' inside found)
    (sees' : Sees tree patterns patterns' inside' found') :
    found = found' ↔ inside = inside' ∨ found = [] ∧ found' = [] := by
  constructor
  · intro same
    refine or_iff_not_imp_left.2 fun differ => ?_
    cases inside with
    | true => exact ⟨sees.eq_nil, same.symm.trans sees.eq_nil⟩
    | false =>
      cases inside' with
      | true => exact ⟨same.trans sees'.eq_nil, sees'.eq_nil⟩
      | false => exact absurd rfl differ
  · rintro (rfl | ⟨rfl, rfl⟩)
    · exact sees.unique sees'
    · rfl

/-- Patterns are read without regard to the root. -/
theorem ofTexts_eq_map (root root' : Path) (included excluded : List Text) :
    ofTexts root' included excluded =
      (ofTexts root included excluded).map fun discovery => { discovery with root := root' } := by
  unfold ofTexts
  cases readPatterns included with
  | error error => rfl
  | ok patterns => cases readPatterns excluded <;> rfl

/-- What a search below a root finds, as seen from there, or why there is no search. -/
def seenFrom (disk : Disk) (here : Place) (homes : Homes) (root : Path)
    (included excluded : List Text) : Except PatternError (List Path) :=
  (ofTexts root included excluded).map fun discovery =>
    (discovery.files (disk.walk here homes root)).map root.relativeTo

/-- If the patterns can be read, it is what they find of the tree. -/
theorem exists_sees (stands : Stands tree disk here homes root top)
    (reads : ofTexts root included excluded = .ok discovery) :
    ∃ found, seenFrom disk here homes root included excluded = .ok found ∧
      Sees tree discovery.included discovery.excluded (isPrivate root) found := by
  refine ⟨_, ?_, sees stands reads⟩
  rw [seenFrom, reads]
  rfl

section

variable {disk' : Disk} {here' top' : Place} {homes' : Homes} {root' : Path}

/-- Where the same tree stands at two roots, searches of both find the same, as seen from the roots,
if both of the roots or neither of them lie in a repository's own directory. Otherwise they find
the same only where neither finds anything, since nothing is found from inside of such a
directory. From elsewhere, all is found that the patterns select of the tree. -/
theorem searched_by_tree (stands : Stands tree disk here homes root top)
    (stands' : Stands tree disk' here' homes' root' top') (included excluded : List Text) :
    let seen := seenFrom disk here homes root included excluded
    let seen' := seenFrom disk' here' homes' root' included excluded
    (seen = seen' ↔ isPrivate root = isPrivate root' ∨
        ∀ found, seen = .ok found ∨ seen' = .ok found → found = []) ∧
      (isPrivate root = true → ∀ found, seen = .ok found → found = []) ∧
      ∀ discovery, ofTexts root included excluded = .ok discovery →
        ∃ found, seen = .ok found ∧
          Sees tree discovery.included discovery.excluded (isPrivate root) found := by
  intro seen seen'
  have reads' := ofTexts_eq_map root root' included excluded
  cases reads : ofTexts root included excluded with
  | error error =>
    have failed : seen = .error error := by simp only [seen, seenFrom, reads]; rfl
    have failed' : seen' = .error error := by simp only [seen', seenFrom, reads', reads]; rfl
    simp [failed, failed']
  | ok discovery =>
    rw [reads] at reads'
    obtain ⟨found, finds, sees⟩ := exists_sees stands reads
    obtain ⟨found', finds', sees'⟩ := exists_sees stands' reads'
    have finds : seen = .ok found := finds
    have finds' : seen' = .ok found' := finds'
    simp only [finds, finds', Except.ok.injEq, forall_eq']
    refine ⟨(sees.eq_iff sees').trans (or_congr_right ?_), fun inside => ?_, ?_⟩
    · simp [or_imp, forall_and]
    · rw [inside] at sees
      exact sees.eq_nil
    · exact ⟨found, rfl, sees⟩

/-- The same directory in two places, and in a repository's own directory. -/
def mirrored : Disk where
  nodes := [(["a".toList], .directory),
    (["a".toList, "x.conf".toList], .file []),
    (["b".toList], .directory),
    (["b".toList, "x.conf".toList], .file []),
    ([".git".toList], .directory),
    ([".git".toList, "a".toList], .directory),
    ([".git".toList, "a".toList, "x.conf".toList], .file [])]

theorem mirrored_ruleless : mirrored.Ruleless [] ⟨none, .ok []⟩ where
  scopes place directory := by
    have isPlace : place ∈ mirrored.places.filter mirrored.isDirectory := by
      refine List.mem_filter.2 ⟨?_, directory⟩
      rw [Disk.isDirectory, beq_iff_eq] at directory
      exact Disk.mem_places_of_node? directory
    have silent : (mirrored.places.filter mirrored.isDirectory).all (fun place =>
        let scope := Ignore.Scope.ofPlace mirrored [] place
        scope.always.rules.isEmpty && scope.shared.rules.isEmpty && scope.unshared.rules.isEmpty)
          = true := by
      cbv
    have none := List.all_eq_true.1 silent place isPlace
    simp only [Bool.and_eq_true, List.isEmpty_iff] at none
    exact ⟨none.1.1, none.1.2, none.2⟩
  everywhere := by cbv

/-- The roots of the copies. -/
def mirroredRoots : List (Path × Place) :=
  [(⟨"a".toList⟩, ["a".toList]), (⟨"./b/".toList⟩, ["b".toList]),
    (⟨".git/a".toList⟩, [".git".toList, "a".toList])]

theorem mirrored_stands (root : Path) (top : Place) (isRoot : (root, top) ∈ mirroredRoots) :
    Stands (mirrored.treeBelow ["a".toList]) mirrored [] ⟨none, .ok []⟩ root top := by
  have proper : mirrored.Proper := ⟨by decide, by decide⟩
  have linkless : mirrored.Linkless := by
    intro entry isEntry target
    simp only [mirrored, List.mem_cons, List.not_mem_nil, or_false] at isEntry
    rcases isEntry with rfl | rfl | rfl | rfl | rfl | rfl | rfl <;> simp
  have grounded : mirrored.Grounded := by
    intro place isPlace
    fin_cases isPlace <;> rfl
  simp only [mirroredRoots, List.mem_cons, Prod.mk.injEq, List.not_mem_nil, or_false] at isRoot
  have copy (names : List Text) :
      mirrored.node? (["a".toList] ++ names) = mirrored.node? (top ++ names) := by
    rcases isRoot with ⟨-, rfl⟩ | ⟨-, rfl⟩ | ⟨-, rfl⟩
    · rfl
    all_goals
      simp only [mirrored, Disk.node?, List.find?_cons, String.reduceToList, ↓Char.isValue,
        List.cons_append, List.nil_append, List.cons.injEq, List.nil_eq, true_and, and_true,
        Char.reduceEq, false_and, and_false, reduceCtorEq, and_self, decide_false, ↓reduceIte,
        List.find?_nil]
      split
      · rfl
      · split <;> rfl
  rw [Disk.treeBelow_congr copy]
  refine .of_linkless proper linkless grounded mirrored_ruleless ?_ ?_ ?_
  · rcases isRoot with ⟨rfl, -⟩ | ⟨rfl, -⟩ | ⟨rfl, -⟩ <;> decide
  · rcases isRoot with ⟨rfl, rfl⟩ | ⟨rfl, rfl⟩ | ⟨rfl, rfl⟩ <;> cbv
  · intro names isPlace
    have isNames : names = [] ∨ names = ["x.conf".toList] := by
      rcases isRoot with ⟨-, rfl⟩ | ⟨-, rfl⟩ | ⟨-, rfl⟩ <;> simpa [mirrored] using isPlace
    rcases isRoot with ⟨rfl, -⟩ | ⟨rfl, -⟩ | ⟨rfl, -⟩ <;> rcases isNames with rfl | rfl <;>
      exact ⟨by decide, by decide⟩

/-- What a search finds is what its patterns pick from what the walk finds, put in order. -/
theorem seenFrom_of_picked {findings : List Finding} {picked : List Path}
    (walks : disk.walk here homes root = findings)
    (picks : (ofTexts root included excluded).toOption.map (findings.filterMap ·.selected?) =
      some picked) :
    seenFrom disk here homes root included excluded =
      .ok ((picked.mergeSort fun left right => !right.precedes left).map root.relativeTo) := by
  obtain ⟨discovery, reads, rfl⟩ := exists_of_toOption_map picks
  rw [seenFrom, reads, walks]
  rfl

theorem seenFrom_mirrored :
    seenFrom mirrored [] ⟨none, .ok []⟩ ⟨"a".toList⟩ ["**/*.conf".toList] [] =
      .ok [⟨"x.conf".toList⟩] := by
  let findings : List Finding := [.entry ⟨"a".toList⟩ true, .entry ⟨"a/x.conf".toList⟩ false]
  have walks : mirrored.walk [] ⟨none, .ok []⟩ ⟨"a".toList⟩ = findings := by cbv
  have picks : (ofTexts ⟨"a".toList⟩ ["**/*.conf".toList] []).toOption.map
      (findings.filterMap ·.selected?) = some [⟨"a/x.conf".toList⟩] := by decide +kernel
  rw [seenFrom_of_picked walks picks, List.mergeSort_singleton]
  rfl

/-- Two of the copies are searched alike. -/
theorem mirrored_alike :
    let seen root := seenFrom mirrored [] ⟨none, .ok []⟩ root ["**/*.conf".toList] []
    seen ⟨"a".toList⟩ = .ok [⟨"x.conf".toList⟩] ∧ seen ⟨"./b/".toList⟩ = seen ⟨"a".toList⟩ := by
  have stands := mirrored_stands ⟨"a".toList⟩ ["a".toList] (by decide)
  have stands' := mirrored_stands ⟨"./b/".toList⟩ ["b".toList] (by decide)
  have outside : isPrivate ⟨"./b/".toList⟩ = isPrivate ⟨"a".toList⟩ := by decide
  exact ⟨seenFrom_mirrored, (searched_by_tree stands' stands _ _).1.2 (.inl outside)⟩

/-- From the copy in the repository's own directory, nothing is found. -/
theorem own_directory_blind :
    let tree := mirrored.treeBelow ["a".toList]
    let stands := Stands tree mirrored [] ⟨none, .ok []⟩
    let seen root := seenFrom mirrored [] ⟨none, .ok []⟩ root ["**/*.conf".toList] []
    stands ⟨"a".toList⟩ ["a".toList] ∧ stands ⟨".git/a".toList⟩ [".git".toList, "a".toList] ∧
      seen ⟨"a".toList⟩ = .ok [⟨"x.conf".toList⟩] ∧ seen ⟨".git/a".toList⟩ = .ok [] := by
  let findings : List Finding :=
    [.entry ⟨".git/a".toList⟩ true, .entry ⟨".git/a/x.conf".toList⟩ false]
  have walks : mirrored.walk [] ⟨none, .ok []⟩ ⟨".git/a".toList⟩ = findings := by cbv
  have picks : (ofTexts ⟨".git/a".toList⟩ ["**/*.conf".toList] []).toOption.map
      (findings.filterMap ·.selected?) = some [] := by decide +kernel
  have blind := seenFrom_of_picked walks picks
  rw [List.mergeSort_nil] at blind
  exact ⟨mirrored_stands _ _ (by decide), mirrored_stands _ _ (by decide), seenFrom_mirrored, blind⟩

end

end Discovery

end Splice
