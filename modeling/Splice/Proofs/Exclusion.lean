import Mathlib.Data.List.Permutation
import Splice.Discovery
import Splice.Proofs.Glob.Pattern
import Splice.Proofs.Path.Below

/-!
# Exclusion

Which files a search leaves out on account of its patterns (`exclusion_by_path`). A file is left out
on account of its own path. That a directory matches a pattern says nothing of the files in it: a
directory `old` is not skipped on account of the pattern `old` (`old_not_skipped`).

A directory is skipped by a pattern that matches all that lies below it. Its name with a slash and
two stars is such a pattern; so is any pattern that ends in a star, for what it matches. Patterns
skip what they match in every search if, and only if, together they match with each path all that
lies below (`skips_iff`).
-/

namespace Splice

namespace Discovery

/-- Nothing that stays lies below anything that matches a pattern for files that do not stay. -/
def Skips (discovery : Discovery) (findings : List Finding) : Prop :=
  ∀ above below, Names above → Names below →
    Disk.below discovery.root (above ++ below) ∈ discovery.files findings →
    ∀ pattern ∈ discovery.excluded, pattern.isMatch (Text.join ['/'] above) = false

variable {discovery : Discovery} {findings : List Finding} {path : Path} {names : List Text}

/-! ## Files that stay -/

/-- Files stay that are found and selected. -/
theorem mem_files_iff :
    path ∈ discovery.files findings ↔
      ∃ leadsToDirectory, .entry path leadsToDirectory ∈ findings ∧
        discovery.selects path leadsToDirectory = true := by
  rw [files, List.mem_mergeSort, List.mem_filterMap]
  constructor
  · rintro ⟨finding, found, selected⟩
    cases finding with
    | fault message => cases selected
    | entry path' leadsToDirectory =>
      rw [selected?] at selected
      split at selected
      · next selects =>
        obtain rfl := Option.some.inj selected
        exact ⟨leadsToDirectory, found, selects⟩
      · cases selected
  · rintro ⟨leadsToDirectory, found, selects⟩
    exact ⟨_, found, if_pos selects⟩

theorem selects_iff {leadsToDirectory : Bool} :
    let relative := (discovery.root.relativeTo path).text
    discovery.selects path leadsToDirectory = true ↔
      path.sameAs discovery.root = false ∧ leadsToDirectory = false ∧ isPrivate path = false ∧
        (∃ pattern ∈ discovery.included, pattern.isMatch relative = true) ∧
        ∀ pattern ∈ discovery.excluded, pattern.isMatch relative = false := by
  simp only [selects, Bool.and_eq_true, Bool.not_eq_true', List.any_eq_true, List.any_eq_false,
    Bool.not_eq_true, and_assoc]
  rw [and_comm (b := ∃ pattern ∈ discovery.included, _)]

/-- What stays matches no pattern for files that do not stay. -/
theorem isMatch_of_mem_files (stays : path ∈ discovery.files findings) {pattern : Glob.Pattern}
    (isIn : pattern ∈ discovery.excluded) :
    pattern.isMatch (discovery.root.relativeTo path).text = false := by
  obtain ⟨leadsToDirectory, -, selects⟩ := mem_files_iff.1 stays
  obtain ⟨-, -, -, -, unmatched⟩ := selects_iff.1 selects
  exact unmatched pattern isIn

/-- Whether something below the root stays is a matter of its own path. -/
theorem below_mem_files_iff (proper : Names names) :
    let path := Disk.below discovery.root names
    path ∈ discovery.files findings ↔
      .entry path false ∈ findings ∧ isPrivate path = false ∧
        (∃ pattern ∈ discovery.included, pattern.isMatch (Text.join ['/'] names) = true) ∧
        ∀ pattern ∈ discovery.excluded, pattern.isMatch (Text.join ['/'] names) = false := by
  simp only [mem_files_iff, selects_iff, Disk.sameAs_below _ proper,
    Disk.relativeTo_below _ proper, true_and]
  constructor
  · rintro ⟨_, found, rfl, stays⟩
    exact ⟨found, stays⟩
  · rintro ⟨found, stays⟩
    exact ⟨false, found, rfl, stays⟩

/-! ## Directories -/

/-- Together, patterns match with a path all that lies below, but for what a repository keeps to
itself. -/
def Sweep (root : Path) (patterns : List Glob.Pattern) : Prop :=
  ∀ above below, Names above → Names below → isPrivate (Disk.below root (above ++ below)) = false →
    (∃ pattern ∈ patterns, pattern.isMatch (Text.join ['/'] above) = true) →
    ∃ pattern ∈ patterns, pattern.isMatch (Text.join ['/'] (above ++ below)) = true

/-- Patterns that each match with a path all that lies below do so together. -/
theorem Sweep.of_forall {patterns : List Glob.Pattern} (root : Path)
    (each : ∀ pattern ∈ patterns, pattern.Sweeps) : Sweep root patterns := by
  rintro above below proper proper' - ⟨pattern, isIn, isMatch⟩
  refine ⟨pattern, isIn, ?_⟩
  rw [proper.join_append proper']
  exact each pattern isIn _ _ isMatch

/-- Such patterns skip whatever they match. -/
theorem Sweep.skips (sweep : Sweep discovery.root discovery.excluded)
    (findings : List Finding) : discovery.Skips findings := by
  intro above below proper proper' stays pattern isIn
  obtain ⟨-, notPrivate, -, unmatched⟩ := (below_mem_files_iff (proper.append proper')).1 stays
  rw [← Bool.not_eq_true]
  intro isMatch
  obtain ⟨other, isIn', isMatch'⟩ :=
    sweep above below proper proper' notPrivate ⟨pattern, isIn, isMatch⟩
  rw [unmatched other isIn'] at isMatch'
  cases isMatch'

/-- No other patterns do in every search. -/
theorem skips_iff (root : Path) (excluded : List Glob.Pattern) :
    (∀ included findings, Skips ⟨root, included, excluded⟩ findings) ↔ Sweep root excluded := by
  constructor
  · rintro skips above below proper proper' notPrivate ⟨pattern, isIn, isMatch⟩
    by_contra none
    -- A search for everything finds the file that no pattern matches.
    let path := Disk.below root (above ++ below)
    let everything : Glob.Pattern := ⟨.many (.inSet .all)⟩
    have stays : path ∈ files ⟨root, [everything], excluded⟩ [.entry path false] := by
      refine (below_mem_files_iff (proper.append proper')).2
        ⟨List.mem_cons_self, notPrivate, ?_, ?_⟩
      · exact ⟨everything, List.mem_cons_self,
          Glob.Pattern.isMatch_iff.2 (Regular.mem_words_all _)⟩
      · intro other isIn'
        rw [← Bool.not_eq_true]
        exact fun isMatch' => none ⟨other, isIn', isMatch'⟩
    have unmatched := skips [everything] _ above below proper proper' stays pattern isIn
    rw [isMatch] at unmatched
    cases unmatched
  · intro sweep included findings
    exact sweep.skips findings

/-- What a search leaves out on account of its patterns. -/
structure ExcludesByPath (discovery : Discovery) (findings : List Finding) : Prop where
  /-- Nothing that stays matches a pattern for files that do not. -/
  own : ∀ path ∈ discovery.files findings, ∀ pattern ∈ discovery.excluded,
    pattern.isMatch (discovery.root.relativeTo path).text = false
  /-- A file below the root that is found stays if its own path matches a pattern for files that
  stay, and none for files that do not: whatever matches the directories that it is in. -/
  stays_iff : ∀ names, Names names →
    (Disk.below discovery.root names ∈ discovery.files findings ↔
      .entry (Disk.below discovery.root names) false ∈ findings ∧
        isPrivate (Disk.below discovery.root names) = false ∧
        (∃ pattern ∈ discovery.included, pattern.isMatch (Text.join ['/'] names) = true) ∧
        ∀ pattern ∈ discovery.excluded, pattern.isMatch (Text.join ['/'] names) = false)
  /-- The pattern that names a directory, and in it anything, skips the directory. -/
  skipped : ∀ above below, Names above → Names below →
    (∀ c ∈ Text.join ['/'] above, Glob.Plain c) →
    (∃ pattern ∈ discovery.excluded,
      Glob.parse (Text.join ['/'] above ++ ['/', '*', '*']) = .ok pattern) →
    Disk.below discovery.root (above ++ below) ∉ discovery.files findings
  /-- Patterns that match what lies below what they match skip the directories that they match. -/
  skips : (∀ pattern ∈ discovery.excluded, pattern.Sweeps) → discovery.Skips findings

/-- Patterns leave files out by their own paths. In every search they leave out the directories that
they match, too, exactly if they match all that lies below those. -/
theorem exclusion_by_path (root : Path) (excluded : List Glob.Pattern) :
    (∀ included findings, ExcludesByPath ⟨root, included, excluded⟩ findings) ∧
      ((∀ included findings, Skips ⟨root, included, excluded⟩ findings) ↔ Sweep root excluded) := by
  refine ⟨fun included findings => ?_, skips_iff root excluded⟩
  constructor
  · intro path stays pattern isIn
    exact isMatch_of_mem_files stays isIn
  · intro names proper
    exact below_mem_files_iff proper
  · rintro above below proper proper' plain ⟨pattern, isIn, reads⟩ stays
    have isMatch : pattern.isMatch (Text.join ['/'] (above ++ below)) = true :=
      (Glob.isMatch_below_iff plain reads).2 ⟨_, proper.join_append proper'⟩
    have unmatched := isMatch_of_mem_files stays isIn
    rw [Disk.relativeTo_below _ (proper.append proper'), isMatch] at unmatched
    cases unmatched
  · intro each
    exact (Sweep.of_forall root each).skips findings

/-- A directory `old` with a file in it, and a file beside it. -/
def olden : Disk where
  nodes := [(["old".toList], .directory),
    (["old".toList, "c.conf".toList], .file (Utf8.encode "c\n".toList)),
    (["a.conf".toList], .file (Utf8.encode "a\n".toList))]

/-- What a search below a dot finds there, with a pattern that names the directory for files that do
not stay. -/
def searched : Except PatternError (Discovery × List Finding) :=
  (ofTexts ⟨".".toList⟩ ["**/*.conf".toList] ["old".toList]).map fun discovery =>
    (discovery, olden.walk [] ⟨none, .ok []⟩ ⟨".".toList⟩)

/-- What can be told of a search is told of one that there is. -/
theorem exists_of_toOption_map {α : Type} {search : Except PatternError Discovery}
    {tell : Discovery → α} {told : α} (tells : search.toOption.map tell = some told) :
    ∃ discovery, search = .ok discovery ∧ tell discovery = told := by
  cases search with
  | error error => cases tells
  | ok discovery => exact ⟨discovery, rfl, Option.some.inj tells⟩

/-- Two files that stay are put in order. -/
theorem files_of_two {discovery : Discovery} {findings : List Finding} {first second : Path}
    (picked : findings.filterMap discovery.selected? = [second, first])
    (before : first.precedes second = true) : discovery.files findings = [first, second] := by
  rw [files, picked]
  simp [List.mergeSort, before]

/-- The pattern `old` does not skip the directory `old`. -/
theorem old_not_skipped :
    ∃ discovery findings, searched = .ok (discovery, findings) ∧
      discovery.files findings = [⟨"./a.conf".toList⟩, ⟨"./old/c.conf".toList⟩] ∧
      ¬ discovery.Skips findings := by
  let findings : List Finding :=
    [.entry ⟨".".toList⟩ true, .entry ⟨"./old".toList⟩ true,
      .entry ⟨"./old/c.conf".toList⟩ false, .entry ⟨"./a.conf".toList⟩ false]
  have found : olden.walk [] ⟨none, .ok []⟩ ⟨".".toList⟩ = findings := by cbv
  -- The patterns are tried on what is found before that is put in order.
  let tell (discovery : Discovery) : Path × List Path × Bool :=
    (discovery.root, findings.filterMap discovery.selected?,
      discovery.excluded.any (·.isMatch "old".toList))
  have told : (ofTexts ⟨".".toList⟩ ["**/*.conf".toList] ["old".toList]).toOption.map tell =
      some (⟨".".toList⟩, [⟨"./old/c.conf".toList⟩, ⟨"./a.conf".toList⟩], true) := by
    decide +kernel
  obtain ⟨discovery, reads, answer⟩ := exists_of_toOption_map told
  have root : discovery.root = ⟨".".toList⟩ := congrArg Prod.fst answer
  have picked : findings.filterMap discovery.selected? =
      [⟨"./old/c.conf".toList⟩, ⟨"./a.conf".toList⟩] := congrArg (fun answer => answer.2.1) answer
  have files := files_of_two picked (by decide)
  obtain ⟨pattern, isIn, isMatch⟩ :=
    List.any_eq_true.1 (congrArg (fun answer => answer.2.2) answer)
  have search : searched = .ok (discovery, findings) := by
    rw [searched, reads, found]
    rfl
  refine ⟨discovery, findings, search, files, fun skips => ?_⟩
  have named : Names ["old".toList] := .singleton (by decide)
  have named' : Names ["c.conf".toList] := .singleton (by decide)
  have path : Disk.below discovery.root (["old".toList] ++ ["c.conf".toList]) =
      ⟨"./old/c.conf".toList⟩ := by
    rw [root]
    decide
  have stays : Disk.below discovery.root (["old".toList] ++ ["c.conf".toList]) ∈
      discovery.files findings := by
    rw [path, files]
    exact .tail _ (.head _)
  have unmatched := skips _ _ named named' stays pattern isIn
  rw [Text.join_singleton, isMatch] at unmatched
  cases unmatched

end Discovery

end Splice
