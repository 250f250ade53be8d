import Splice.Proofs.Exclusion
import Splice.Proofs.Path.Order

/-!
# What a search finds

A search below a directory finds the right files (`discovered_exactly`): of what the walk yields,
those that are no directories, lie in no repository's own directory, and whose paths below the root
match a pattern for files that stay and none for files that do not. They come in strict order, so
that it is not to be seen in which order the walk went, what went wrong on the way, or how the
patterns were listed. A pattern that cannot be read is no search at all.

This takes of the walk that it stays below the root and comes to everything once (`Walks`). Walking
a disk does (`Disk.walks`): it yields the root, and what lies below it and is not hidden
(`mem_walk_iff`).
-/

namespace Splice

namespace Finding

/-- The path of an entry, with whether it leads to a directory. -/
def pair? : Finding → Option (Path × Bool)
  | .entry path leadsToDirectory => some (path, leadsToDirectory)
  | .fault _ => none

theorem pair?_eq_some_iff {finding : Finding} {path : Path} {leads : Bool} :
    finding.pair? = some (path, leads) ↔ finding = .entry path leads := by
  cases finding <;> simp [pair?]

/-- The entries among findings. -/
theorem mem_filterMap_pair?_iff {findings : List Finding} {path : Path} {leads : Bool} :
    (path, leads) ∈ findings.filterMap pair? ↔ .entry path leads ∈ findings := by
  simp only [List.mem_filterMap, pair?_eq_some_iff, exists_eq_right]

end Finding

/-! ## Walks -/

/-- A walk below a root: it comes to the root and to what lies below it, and to nothing twice.
Faults may come between. -/
structure Walks (root : Path) (findings : List Finding) : Prop where
  /-- Entries are spelled by the root and names. -/
  below : ∀ path leads, .entry path leads ∈ findings →
    ∃ names : List Text, (∀ name ∈ names, (Component.name name).Plain) ∧
      path = Disk.below root names
  /-- None comes twice. -/
  once : ((findings.filterMap Finding.pair?).map Prod.fst).Nodup

namespace Disk

/-- The components of the root, or of what lies below it. -/
theorem components_below_of_plain (root : Path) {names : List Text}
    (plain : ∀ name ∈ names, (Component.name name).Plain) :
    (below root names).components = root.components ++ names.map .name := by
  by_cases none : names = []
  · subst none
    simp [below]
  · exact components_below root ⟨none, plain⟩

/-- Below a root, paths with the same components are led to by the same names. -/
theorem eq_of_components_below {root : Path} {names names' : List Text}
    (plain : ∀ name ∈ names, (Component.name name).Plain)
    (plain' : ∀ name ∈ names', (Component.name name).Plain)
    (same : (below root names).components = (below root names').components) : names = names' := by
  rw [components_below_of_plain root plain, components_below_of_plain root plain',
    List.append_cancel_left_eq] at same
  exact List.map_injective_iff.2 (fun _ _ => Component.name.inj) same

end Disk

section

variable {root : Path} {findings : List Finding}

/-- The entries of a walk stand in different places in the order of paths. -/
theorem Walks.pairwise_key_ne (walks : Walks root findings) :
    (findings.filterMap Finding.pair?).Pairwise fun left right => left.1.key ≠ right.1.key := by
  have once := walks.once
  rw [List.Nodup, List.pairwise_map] at once
  refine once.imp_of_mem ?_
  rintro ⟨path, leads⟩ ⟨path', leads'⟩ isEntry isEntry' differ same
  obtain ⟨names, plain, rfl⟩ := walks.below path leads (Finding.mem_filterMap_pair?_iff.1 isEntry)
  obtain ⟨names', plain', rfl⟩ :=
    walks.below path' leads' (Finding.mem_filterMap_pair?_iff.1 isEntry')
  have sameNames := Disk.eq_of_components_below plain plain' (Path.key_eq_iff.1 same)
  exact differ (congrArg (Disk.below root) sameNames)

/-- A walk may come to the same entries in another order, with other faults between them. -/
theorem Walks.of_perm {findings' : List Finding} (walks : Walks root findings)
    (same : (findings'.filterMap Finding.pair?).Perm (findings.filterMap Finding.pair?)) :
    Walks root findings' where
  below path leads found := by
    rw [← Finding.mem_filterMap_pair?_iff, same.mem_iff, Finding.mem_filterMap_pair?_iff] at found
    exact walks.below path leads found
  once := (same.map Prod.fst).nodup_iff.2 walks.once

end

namespace Disk

variable {disk : Disk} {here top : Place} {homes : Homes} {root path : Path} {leads : Bool}

/-- Whether an ignore rule hides what names lead to below the root, or a directory on the way
there. -/
def hides (disk : Disk) (here : Place) (homes : Homes) (root : Path) (top : Place)
    (names : List Text) : Bool :=
  disk.isHidden here ((disk.places.filter disk.isDirectory).map (Ignore.Scope.ofPlace disk here))
    (Ignore.everywhere disk here homes) root top names

/-- An entry lies below a place by the names that lead to it from there. -/
theorem namesBelow?_eq_some_iff {place entry : Place} {names : List Text} :
    namesBelow? place entry = some names ↔ names ≠ [] ∧ entry = place ++ names := by
  have divides : place.isPrefixOf? entry = some names ↔ entry = place ++ names := by
    rw [List.isPrefixOf?_eq_some_iff_append_eq, eq_comm]
  rw [← divides, namesBelow?]
  cases place.isPrefixOf? entry with
  | none => simp
  | some names' => cases names' <;> aesop

/-- The names that lead to an entry from a place, unless it is hidden. -/
def shown? (disk : Disk) (here : Place) (homes : Homes) (root : Path) (top entry : Place) :
    Option (List Text) :=
  (namesBelow? top entry).filter fun names => !disk.hides here homes root top names

theorem shown?_eq_some_iff {entry : Place} {names : List Text} :
    disk.shown? here homes root top entry = some names ↔
      names ≠ [] ∧ entry = top ++ names ∧ disk.hides here homes root top names = false := by
  rw [shown?, Option.filter_eq_some_iff, namesBelow?_eq_some_iff, and_assoc, Bool.not_eq_true']

/-- The entries of a walk: the root, and what is shown below it. -/
theorem filterMap_pair?_walk (located : disk.locate here root = .ok top)
    (named : root.sameAs ⟨['-']⟩ = false) :
    (disk.walk here homes root).filterMap Finding.pair? =
      (root, disk.isDirectory top) ::
        ((disk.nodes.map Prod.fst).filterMap (disk.shown? here homes root top)).map fun names =>
          (below root names, disk.leadsToDirectory here (below root names)) := by
  have noEntry (complaints : List Text) :
      (if complaints = [] then [] else [Finding.fault (Text.join ['\n'] complaints)]).filterMap
        Finding.pair? = [] := by
    split <;> rfl
  simp only [walk, named, located, Bool.false_eq_true, ↓reduceIte, List.filterMap_append, noEntry,
    List.nil_append, List.filterMap_cons, Finding.pair?, List.filterMap_filterMap,
    List.filterMap_map, List.map_filterMap]
  congr 2
  funext standing
  obtain ⟨entry, node⟩ := standing
  simp only [Function.comp_apply, shown?, hides]
  cases namesBelow? top entry with
  | none => rfl
  | some names =>
    dsimp only
    rw [Option.filter_some]
    generalize disk.isHidden here _ _ root top names = hidden
    cases hidden <;> rfl

/-- What there is to be found from a root that leads to the place `top`: the root, and everything
below it that no ignore rule hides. -/
inductive Shows (disk : Disk) (here : Place) (homes : Homes) (root : Path) (top : Place) :
    Path → Bool → Prop where
  /-- The root. -/
  | root : Shows disk here homes root top root (disk.isDirectory top)
  /-- Something below it, with whether it is a directory or a link to one. -/
  | below {names : List Text} (notNil : names ≠ [])
      (isPlace : top ++ names ∈ disk.nodes.map Prod.fst)
      (seen : disk.hides here homes root top names = false) :
      Shows disk here homes root top (Disk.below root names)
        (disk.leadsToDirectory here (Disk.below root names))

/-- A walk finds everything that there is to be found. -/
theorem mem_walk_iff (located : disk.locate here root = .ok top)
    (named : root.sameAs ⟨['-']⟩ = false) :
    .entry path leads ∈ disk.walk here homes root ↔ disk.Shows here homes root top path leads := by
  rw [← Finding.mem_filterMap_pair?_iff, filterMap_pair?_walk located named, List.mem_cons,
    Prod.mk.injEq, List.mem_map]
  constructor
  · rintro (⟨rfl, rfl⟩ | ⟨names, isShown, same⟩)
    · exact .root
    · obtain ⟨entry, isPlace, shows⟩ := List.mem_filterMap.1 isShown
      obtain ⟨notNil, rfl, seen⟩ := shown?_eq_some_iff.1 shows
      cases same
      exact .below notNil isPlace seen
  · rintro (_ | ⟨notNil, isPlace, seen⟩)
    · exact .inl ⟨rfl, rfl⟩
    · have shown := shown?_eq_some_iff.2 ⟨notNil, rfl, seen⟩
      exact .inr ⟨_, List.mem_filterMap.2 ⟨_, isPlace, shown⟩, rfl⟩

/-- Every entry of a disk stands at one place, which names lead to. -/
structure Proper (disk : Disk) : Prop where
  once : (disk.nodes.map Prod.fst).Nodup
  plain : ∀ place ∈ disk.nodes.map Prod.fst, ∀ name ∈ place, (Component.name name).Plain

/-- Walking a disk stays below the root, and comes to everything once. -/
theorem walks (proper : disk.Proper) (here : Place) (homes : Homes) {root : Path}
    (named : root.sameAs ⟨['-']⟩ = false) : Walks root (disk.walk here homes root) := by
  cases located : disk.locate here root with
  | error fault =>
    have noEntry : (disk.walk here homes root).filterMap Finding.pair? = [] := by
      simp only [walk, named, located, Bool.false_eq_true, ↓reduceIte]
      rfl
    constructor
    · intro path leads found
      rw [← Finding.mem_filterMap_pair?_iff, noEntry] at found
      cases found
    · rw [noEntry]
      exact .nil
  | ok top =>
    let shown := (disk.nodes.map Prod.fst).filterMap (disk.shown? here homes root top)
    have isShown {names : List Text} (isIn : names ∈ shown) :
        names ≠ [] ∧ ∀ name ∈ names, (Component.name name).Plain := by
      obtain ⟨entry, isPlace, shows⟩ := List.mem_filterMap.1 isIn
      obtain ⟨notNil, rfl, -⟩ := shown?_eq_some_iff.1 shows
      exact ⟨notNil, fun name isIn => proper.plain _ isPlace name (List.mem_append_right _ isIn)⟩
    have plain : ∀ names ∈ [] :: shown, ∀ name ∈ names, (Component.name name).Plain := by
      rintro names (_ | ⟨_, isIn⟩) name isName
      · cases isName
      · exact (isShown isIn).2 name isName
    have entries : (disk.walk here homes root).filterMap Finding.pair? =
        (root, disk.isDirectory top) ::
          shown.map fun names =>
            (below root names, disk.leadsToDirectory here (below root names)) :=
      filterMap_pair?_walk located named
    have paths : ((disk.walk here homes root).filterMap Finding.pair?).map Prod.fst =
        ([] :: shown).map (below root) := by
      rw [entries, List.map_cons, List.map_map]
      rfl
    constructor
    · intro path leads found
      have isPath := List.mem_map_of_mem (f := Prod.fst) (Finding.mem_filterMap_pair?_iff.2 found)
      rw [paths] at isPath
      obtain ⟨names, isIn, same⟩ := List.mem_map.1 isPath
      exact ⟨names, plain names isIn, same.symm⟩
    · rw [paths]
      refine List.Nodup.map_on ?_ (List.nodup_cons.2 ⟨fun isIn => (isShown isIn).1 rfl, ?_⟩)
      · intro names isIn names' isIn' same
        exact eq_of_components_below (plain names isIn) (plain names' isIn') (congrArg _ same)
      · refine proper.once.filterMap ?_
        intro entry entry' names shows shows'
        rw [(shown?_eq_some_iff.1 shows).2.1, (shown?_eq_some_iff.1 shows').2.1]

end Disk

/-! ## Patterns -/

namespace Discovery

/-- A path matches a pattern, by the text of the pattern. -/
def Matches (text path : Text) : Prop :=
  ∃ pattern, Glob.parse text = .ok pattern ∧ pattern.isMatch path = true

section

variable {texts : List Text} {patterns : List Glob.Pattern}

/-- Patterns are read one by one. -/
theorem readPatterns_eq_ok_iff :
    readPatterns texts = .ok patterns ↔ texts.map Glob.parse = patterns.map .ok := by
  induction texts generalizing patterns with
  | nil => cases patterns <;> simp [readPatterns]
  | cons text rest ih =>
    rw [readPatterns, List.map_cons]
    cases first : Glob.parse text with
    | error kind => cases patterns <;> simp
    | ok pattern =>
      cases others : readPatterns rest with
      | error error =>
        cases patterns with
        | nil => simp
        | cons pattern' patterns' =>
          have wrong : ¬ rest.map Glob.parse = patterns'.map .ok := by
            rw [← ih, others]
            intro same
            cases same
          simp [wrong]
      | ok patterns' =>
        cases patterns with
        | nil => simp
        | cons pattern' patterns'' =>
          rw [List.map_cons, List.cons.injEq, ← ih, others]
          simp

/-- They are read if each of them is. -/
theorem exists_readPatterns_iff :
    (∃ patterns, readPatterns texts = .ok patterns) ↔
      ∀ text ∈ texts, ∃ pattern, Glob.parse text = .ok pattern := by
  simp only [readPatterns_eq_ok_iff]
  induction texts with
  | nil => simp
  | cons text rest ih =>
    rw [List.forall_mem_cons, ← ih]
    constructor
    · rintro ⟨_ | ⟨pattern, patterns⟩, same⟩
      · cases same
      · rw [List.map_cons, List.map_cons, List.cons.injEq] at same
        exact ⟨⟨pattern, same.1⟩, patterns, same.2⟩
    · rintro ⟨⟨pattern, first⟩, patterns, others⟩
      exact ⟨pattern :: patterns, by rw [List.map_cons, first, others, List.map_cons]⟩

/-- What some pattern matches, some text of a pattern does. -/
theorem exists_isMatch_iff (reads : readPatterns texts = .ok patterns) (path : Text) :
    (∃ pattern ∈ patterns, pattern.isMatch path = true) ↔ ∃ text ∈ texts, Matches text path := by
  rw [readPatterns_eq_ok_iff] at reads
  have isIn (pattern : Glob.Pattern) :
      pattern ∈ patterns ↔ ∃ text ∈ texts, Glob.parse text = .ok pattern := by
    have same := congrArg (Except.ok pattern ∈ ·) reads
    simpa [eq_comm] using same.symm
  simp only [isIn, Matches]
  constructor
  · rintro ⟨pattern, ⟨text, isText, parses⟩, isMatch⟩
    exact ⟨text, isText, pattern, parses, isMatch⟩
  · rintro ⟨text, isText, pattern, parses, isMatch⟩
    exact ⟨pattern, ⟨text, isText, parses⟩, isMatch⟩

end

section

variable {root : Path} {included excluded : List Text} {discovery : Discovery}

/-- A search has the root and the patterns that it is given. -/
theorem ofTexts_eq_ok_iff :
    ofTexts root included excluded = .ok discovery ↔
      discovery.root = root ∧ readPatterns included = .ok discovery.included ∧
        readPatterns excluded = .ok discovery.excluded := by
  obtain ⟨root', included', excluded'⟩ := discovery
  unfold ofTexts
  cases readPatterns included with
  | error error => simp
  | ok patterns =>
    cases readPatterns excluded with
    | error error => simp
    | ok patterns' => simp [eq_comm]

/-- There is a search if all patterns can be read. -/
theorem exists_ofTexts_iff (root : Path) (included excluded : List Text) :
    (∃ discovery, ofTexts root included excluded = .ok discovery) ↔
      ∀ text ∈ included ++ excluded, ∃ pattern, Glob.parse text = .ok pattern := by
  rw [List.forall_mem_append, ← exists_readPatterns_iff, ← exists_readPatterns_iff]
  simp only [ofTexts_eq_ok_iff]
  constructor
  · rintro ⟨⟨_, patterns, patterns'⟩, -, reads, reads'⟩
    exact ⟨⟨patterns, reads⟩, patterns', reads'⟩
  · rintro ⟨⟨patterns, reads⟩, patterns', reads'⟩
    exact ⟨⟨root, patterns, patterns'⟩, rfl, reads, reads'⟩

/-! ## What is found -/

/-- The right files, for the texts of patterns and what a walk yields. -/
structure Finds (root : Path) (included excluded : List Text) (findings : List Finding)
    (files : List Path) : Prop where
  /-- They are in strict order. -/
  increasing : files.Pairwise fun left right => left.precedes right = true
  /-- They are the entries of the walk, other than the root, that lead to no directory, lie in no
  repository's own directory, and match a pattern for files that stay and none for files that do
  not. -/
  mem_iff : ∀ path, path ∈ files ↔
    .entry path false ∈ findings ∧ path.sameAs root = false ∧
      .name ".git".toList ∉ path.components ∧
      (∃ text ∈ included, Matches text (root.relativeTo path).text) ∧
      ∀ text ∈ excluded, ¬ Matches text (root.relativeTo path).text

/-- The right files are known by where the walk comes to, and by which patterns there are. -/
theorem Finds.unique {files files' : List Path} {included' excluded' : List Text}
    {findings findings' : List Finding} (finds : Finds root included excluded findings files)
    (finds' : Finds root included' excluded' findings' files')
    (sameIncluded : ∀ text, text ∈ included' ↔ text ∈ included)
    (sameExcluded : ∀ text, text ∈ excluded' ↔ text ∈ excluded)
    (sameEntries : ∀ path leads, .entry path leads ∈ findings' ↔ .entry path leads ∈ findings) :
    files' = files := by
  refine Path.eq_of_precedes finds'.increasing finds.increasing fun path => ?_
  rw [finds'.mem_iff, finds.mem_iff]
  simp only [sameIncluded, sameExcluded, sameEntries]

/-- A search finds the right files. -/
theorem finds (reads : ofTexts root included excluded = .ok discovery) {findings : List Finding}
    (walks : Walks root findings) :
    Finds root included excluded findings (discovery.files findings) := by
  obtain ⟨rfl, reads, reads'⟩ := ofTexts_eq_ok_iff.1 reads
  constructor
  · refine Path.pairwise_precedes_mergeSort ?_
    have selected : findings.filterMap discovery.selected? =
        (findings.filterMap Finding.pair?).filterMap fun entry =>
          if discovery.selects entry.1 entry.2 then some entry.1 else none := by
      rw [List.filterMap_filterMap]
      refine List.filterMap_congr fun finding _ => ?_
      cases finding <;> rfl
    rw [selected, List.Nodup, List.pairwise_map, List.pairwise_filterMap]
    refine walks.pairwise_key_ne.imp ?_
    intro left right differ path isLeft path' isRight
    obtain ⟨-, rfl⟩ := Option.ite_some_none_eq_some.1 isLeft
    obtain ⟨-, rfl⟩ := Option.ite_some_none_eq_some.1 isRight
    exact differ
  · intro path
    have unmatched (text : Text) : (∀ pattern ∈ discovery.excluded, pattern.isMatch text = false) ↔
        ∀ text' ∈ excluded, ¬ Matches text' text := by
      have matched := not_congr (exists_isMatch_iff reads' text)
      simpa using matched
    have notPrivate : isPrivate path = false ↔ .name ".git".toList ∉ path.components := by
      simp [isPrivate, Ignore.repositoryName]
    simp only [mem_files_iff, selects_iff, exists_isMatch_iff reads, unmatched, notPrivate]
    constructor
    · rintro ⟨leads, found, differs, rfl, stays⟩
      exact ⟨found, differs, stays⟩
    · rintro ⟨found, differs, stays⟩
      exact ⟨false, found, differs, rfl, stays⟩

end

/-- A search finds the right files, in strict order, whatever the order of the walk, the faults on
the way, and the order and repetition of the patterns. There is none if a pattern cannot be read.
What is asked of the walk holds where a disk is walked, which also misses nothing that is there to
be found. -/
theorem discovered_exactly (root : Path) (included excluded : List Text) :
    (∀ discovery findings, ofTexts root included excluded = .ok discovery → Walks root findings →
      Finds root included excluded findings (discovery.files findings) ∧
        ∀ included' excluded' findings',
          (∀ text, text ∈ included' ↔ text ∈ included) →
          (∀ text, text ∈ excluded' ↔ text ∈ excluded) →
          (findings'.filterMap Finding.pair?).Perm (findings.filterMap Finding.pair?) →
          ∃ discovery', ofTexts root included' excluded' = .ok discovery' ∧
            discovery'.files findings' = discovery.files findings) ∧
      ((∃ discovery, ofTexts root included excluded = .ok discovery) ↔
        ∀ text ∈ included ++ excluded, ∃ pattern, Glob.parse text = .ok pattern) ∧
      ∀ (disk : Disk) (here top : Place) (homes : Homes), disk.Proper →
        disk.locate here root = .ok top → root.sameAs ⟨['-']⟩ = false →
        Walks root (disk.walk here homes root) ∧
          ∀ path leads, .entry path leads ∈ disk.walk here homes root ↔
            disk.Shows here homes root top path leads := by
  refine ⟨fun discovery findings reads walks => ?_, exists_ofTexts_iff root included excluded,
    fun disk here top homes proper located named =>
      ⟨Disk.walks proper here homes named, fun path leads => Disk.mem_walk_iff located named⟩⟩
  have found := finds reads walks
  refine ⟨found, fun included' excluded' findings' sameIncluded sameExcluded sameEntries => ?_⟩
  have readable := (exists_ofTexts_iff root included excluded).1 ⟨discovery, reads⟩
  have readable' : ∀ text ∈ included' ++ excluded', ∃ pattern, Glob.parse text = .ok pattern := by
    intro text isIn
    rw [List.mem_append, sameIncluded, sameExcluded, ← List.mem_append] at isIn
    exact readable text isIn
  obtain ⟨discovery', reads'⟩ := (exists_ofTexts_iff root included' excluded').2 readable'
  have found' := finds reads' (walks.of_perm sameEntries)
  refine ⟨discovery', reads', found.unique found' sameIncluded sameExcluded ?_⟩
  intro path leads
  rw [← Finding.mem_filterMap_pair?_iff, sameEntries.mem_iff, Finding.mem_filterMap_pair?_iff]

/-- A repository with a file of its own, two directories, and a link to one of them. -/
def tended : Disk where
  nodes := [([".git".toList], .directory),
    ([".git".toList, "own.conf".toList], .file []),
    (["a.b".toList], .directory),
    (["a.b".toList, "x.conf".toList], .file []),
    (["a".toList], .directory),
    (["a".toList, "x.conf".toList], .file []),
    (["link.conf".toList], .link "a".toList)]

/-- What walking it yields. -/
def walked : List Finding :=
  tended.walk [] ⟨none, .ok []⟩ ⟨"./".toList⟩

/-- What a search finds in it, with the walk and the patterns in one order and in the other. -/
theorem tended_discovered :
    let files : List Path := [⟨"./a/x.conf".toList⟩, ⟨"./a.b/x.conf".toList⟩]
    Walks ⟨"./".toList⟩ walked ∧
      ∃ discovery, ofTexts ⟨"./".toList⟩ ["**/*.conf".toList, "x*".toList] [] = .ok discovery ∧
        discovery.files walked = files ∧
        ∃ discovery', ofTexts ⟨"./".toList⟩ ["x*".toList, "**/*.conf".toList] [] = .ok discovery' ∧
          discovery'.files walked.reverse = files := by
  intro files
  have proper : tended.Proper := ⟨by decide, by decide⟩
  have walks : Walks ⟨"./".toList⟩ walked := Disk.walks proper [] _ (by decide)
  let findings : List Finding :=
    [.entry ⟨"./".toList⟩ true, .entry ⟨"./.git".toList⟩ true,
      .entry ⟨"./.git/own.conf".toList⟩ false, .entry ⟨"./a.b".toList⟩ true,
      .entry ⟨"./a.b/x.conf".toList⟩ false, .entry ⟨"./a".toList⟩ true,
      .entry ⟨"./a/x.conf".toList⟩ false, .entry ⟨"./link.conf".toList⟩ true]
  have walked_eq : walked = findings := by
    unfold walked
    cbv
  have told : (ofTexts ⟨"./".toList⟩ ["**/*.conf".toList, "x*".toList] []).toOption.map
      (findings.filterMap ·.selected?) =
        some [⟨"./a.b/x.conf".toList⟩, ⟨"./a/x.conf".toList⟩] := by decide +kernel
  obtain ⟨discovery, reads, picked⟩ := exists_of_toOption_map told
  have found : discovery.files walked = files := by
    rw [walked_eq]
    exact files_of_two picked (by decide)
  have swapped : ∀ text, text ∈ ["x*".toList, "**/*.conf".toList] ↔
      text ∈ ["**/*.conf".toList, "x*".toList] := by
    simp [or_comm]
  have backwards : (walked.reverse.filterMap Finding.pair?).Perm
      (walked.filterMap Finding.pair?) := by
    rw [List.filterMap_reverse]
    exact List.reverse_perm _
  obtain ⟨discovery', reads', found'⟩ :=
    ((discovered_exactly _ _ []).1 discovery walked reads walks).2 _ [] walked.reverse swapped
      (fun _ => Iff.rfl) backwards
  exact ⟨walks, discovery, reads, found, discovery', reads', found'.trans found⟩

end Discovery

end Splice
