import Splice.Observation
import Splice.Proofs.Comments

/-!
# Line endings

How lines are ended has no effect. In any of the files of a file system, every newline may be given
a carriage return before it, and the last line, unless it is empty, may be given an ending or lose
the one that it has: parses stay what they are, down to the lines that problems quote
(`line_endings_inert`). Nothing is assumed of the markers.

A parse reads no more of a file than the texts of its lines and the fault that ends it, so it comes
to the same wherever these are the same (`parse_congr_texts`). The texts are what is left of lines
that have been ended in either way.
-/

namespace Splice

/-! ## Files with the same texts -/

/-- Two sources fail alike, and their lines have the same texts. -/
structure Source.SameTexts (source partner : Source) : Prop where
  fault_eq : source.fault = partner.fault
  texts_eq : source.lines.map Source.lineText = partner.lines.map Source.lineText

section

variable {σ : Type} {snapshot : Snapshot} {settings : Settings} {handler : Handler σ}
  {chain : Chain} {path : Path} {progress : Progress σ}

theorem visit_of_found {link : Link} (found : chain.find? (snapshot.identity path) = some link) :
    visit snapshot settings handler chain path progress =
      progress.record (.loop (settings.note chain) path link) := by
  rw [visit]
  split <;> simp_all

theorem visit_of_unopened {fault : Fault} (new : chain.find? (snapshot.identity path) = none)
    (fails : snapshot.source path = .error fault) :
    visit snapshot settings handler chain path progress =
      progress.record (.unopened (settings.note chain) path fault) := by
  rw [visit]
  split
  · simp_all
  · split <;> simp_all

theorem visit_of_opened {source : Source} (new : chain.find? (snapshot.identity path) = none)
    (opens : snapshot.source path = .ok source) :
    visit snapshot settings handler chain path progress =
      scan snapshot settings handler chain (snapshot.identity path) source.fault
        { source := path, note := settings.note chain } source.lines
        (progress.opened (settings.note chain) path) := by
  rw [visit]
  split
  · simp_all
  · split <;> simp_all

end

section

variable {σ : Type} {one other : Snapshot} {settings : Settings} {handler : Handler σ}

/-- Lines with the same texts are read alike if the files that they may lead to are. -/
theorem scan_congr_texts {chain : Chain} {identity : Identity}
    (deeper : ∀ here target (progress : Progress σ),
      visit one settings handler (chain.extended here identity) target progress =
        visit other settings handler (chain.extended here identity) target progress)
    (fault : Option Fault) (location : Location) {lines lines' : List (List UInt8)}
    (texts : lines.map Source.lineText = lines'.map Source.lineText) (progress : Progress σ) :
    scan one settings handler chain identity fault location lines progress =
      scan other settings handler chain identity fault location lines' progress := by
  induction lines generalizing lines' location progress with
  | nil =>
    obtain rfl := List.map_eq_nil_iff.1 texts.symm
    cases fault <;> rw [scan, scan]
  | cons line rest ih =>
    cases lines' with
    | nil => cases texts
    | cons line' rest' =>
      obtain ⟨same, others⟩ := List.cons_eq_cons.1 texts
      conv_lhs => rw [scan, same]
      conv_rhs => rw [scan]
      dsimp only
      cases settings.meaning (Source.lineText line') with
      | directive name =>
        dsimp only
        rw [deeper, ih location.next others]
      | _ => exact ih location.next others _

/-- Files whose lines have the same texts are read alike, however they were reached. -/
theorem visit_congr_texts (alike : one.Alike Source.SameTexts other) (chain : Chain) (path : Path)
    (progress : Progress σ) :
    visit one settings handler chain path progress =
      visit other settings handler chain path progress := by
  induction chain, path using Expansion.induction one generalizing progress with
  | found chain path link isOpen =>
    rw [visit_of_found isOpen]
    rw [alike.identity_eq] at isOpen
    rw [visit_of_found isOpen]
  | unopened chain path fault new fails =>
    have fails' := (fails ▸ alike.opening path).eq_error
    rw [visit_of_unopened new fails]
    rw [alike.identity_eq] at new
    rw [visit_of_unopened new fails']
  | opened chain path source new opens deeper =>
    obtain ⟨source', opens', same⟩ := (opens ▸ alike.opening path).exists_ok
    rw [visit_of_opened new opens, scan_congr_texts deeper _ _ same.texts_eq, same.fault_eq]
    rw [alike.identity_eq] at new ⊢
    rw [visit_of_opened new opens']

/-- File systems whose lines have the same texts are parsed alike. -/
theorem parse_congr_texts (alike : one.Alike Source.SameTexts other) (homes : Homes) (root : Path)
    (state : σ) :
    parse one settings handler homes root state =
      parse other settings handler homes root state := by
  unfold parse
  cases homes.resolve root with
  | ok path => exact visit_congr_texts alike {} path { state }
  | error cause => rfl

end

/-! ## Lines and their endings -/

namespace Source

/-- The texts of the lines of a file that is read to its end. -/
def texts (bytes : List UInt8) : List Text :=
  ((complete [] bytes).1 ++ lastLine none (complete [] bytes).2).map lineText

variable {body rest bytes : List UInt8}

@[simp] theorem texts_nil : texts [] = [] := rfl

/-- The last line may lack an ending. -/
theorem texts_of_notMem (free : newline ∉ body) (notNil : body ≠ []) :
    texts body = [lineText body] := by
  rw [texts, complete_of_notMem free]
  simp [lastLine, notNil]

/-- Other lines end in a newline. -/
theorem texts_append_newline (free : newline ∉ body) (rest : List UInt8) :
    texts (body ++ newline :: rest) = lineText (body ++ [newline]) :: texts rest := by
  rw [texts, complete_newline free]
  rfl

/-- A newline that ends a line is no part of its text, -/
theorem lineText_newline (kept : body.getLast? ≠ some carriageReturn) :
    lineText (body ++ [newline]) = Utf8.decode body := by
  rw [lineText, withoutEnding, Text.dropFinal_concat, Text.dropFinal_of_ne kept]

/-- nor is a carriage return before it, -/
theorem lineText_returned :
    lineText (body ++ [carriageReturn] ++ [newline]) = Utf8.decode body := by
  rw [lineText, withoutEnding, Text.dropFinal_concat, Text.dropFinal_concat]

/-- and a line without an ending is all text. -/
theorem lineText_bare (free : newline ∉ body) (kept : body.getLast? ≠ some carriageReturn) :
    lineText body = Utf8.decode body := by
  have other : body.getLast? ≠ some newline := fun isLast => free (List.mem_of_getLast? isLast)
  rw [lineText, withoutEnding, Text.dropFinal_of_ne other, Text.dropFinal_of_ne kept]

/-- Bytes with a carriage return before every newline. -/
def withReturns (bytes : List UInt8) : List UInt8 :=
  bytes.flatMap fun byte => if byte = newline then [carriageReturn, newline] else [byte]

theorem withReturns_append (first rest : List UInt8) :
    withReturns (first ++ rest) = withReturns first ++ withReturns rest :=
  List.flatMap_append

theorem withReturns_of_notMem (free : newline ∉ body) : withReturns body = body := by
  induction body with
  | nil => rfl
  | cons byte rest ih =>
    rw [List.mem_cons, not_or] at free
    rw [withReturns, List.flatMap_cons, if_neg (Ne.symm free.1)]
    exact congrArg _ (ih free.2)

/-- Carriage returns before the newlines do not change the texts of lines without any. -/
theorem texts_withReturns (none : carriageReturn ∉ bytes) :
    texts (withReturns bytes) = texts bytes := by
  induction bytes using Text.induction_splitAfter newline with
  | last body free => rw [withReturns_of_notMem free]
  | piece body rest free ih =>
    rw [List.mem_append, List.mem_cons, not_or, not_or] at none
    have kept : body.getLast? ≠ some carriageReturn :=
      fun isLast => none.1 (List.mem_of_getLast? isLast)
    have free' : newline ∉ body ++ [carriageReturn] := by
      simpa [free] using show newline ≠ carriageReturn by decide
    have split : withReturns (body ++ newline :: rest) =
        (body ++ [carriageReturn]) ++ newline :: withReturns rest := by
      rw [withReturns_append, withReturns_of_notMem free]
      simp [withReturns]
    rw [split, texts_append_newline free', texts_append_newline free, lineText_returned,
      lineText_newline kept, ih none.2.2]

/-- The endings that a line may have. -/
inductive Ending : List UInt8 → Prop where
  | newline : Ending [newline]
  | returned : Ending [carriageReturn, newline]

/-- The last line is not empty, and has no part of an ending. -/
def Unended (bytes : List UInt8) : Prop :=
  ∃ byte, bytes.getLast? = some byte ∧ byte ≠ newline ∧ byte ≠ carriageReturn

/-- An ending of the last line, if that is not empty, does not change the texts. -/
theorem texts_append_ending {ending : List UInt8} (unended : Unended bytes)
    (isEnding : Ending ending) : texts (bytes ++ ending) = texts bytes := by
  induction bytes using Text.induction_splitAfter newline with
  | last body free =>
    obtain ⟨byte, isLast, notNewline, notReturn⟩ := unended
    have kept : body.getLast? ≠ some carriageReturn := by
      rw [isLast]
      exact fun same => notReturn (Option.some.inj same)
    have notNil : body ≠ [] := by
      rintro rfl
      cases isLast
    rw [texts_of_notMem free notNil, lineText_bare free kept]
    cases isEnding with
    | newline => rw [texts_append_newline free, lineText_newline kept, texts_nil]
    | returned =>
      have free' : Source.newline ∉ body ++ [carriageReturn] := by
        simpa [free] using show Source.newline ≠ carriageReturn by decide
      have split : body ++ [carriageReturn, Source.newline] =
          (body ++ [carriageReturn]) ++ [Source.newline] := by simp
      rw [split, texts_append_newline free', lineText_returned, texts_nil]
  | piece body rest free ih =>
    obtain ⟨byte, isLast, notNewline, notReturn⟩ := unended
    have later : rest.getLast? = some byte := by
      cases rest with
      | nil =>
        rw [List.getLast?_concat, Option.some.injEq] at isLast
        exact absurd isLast.symm notNewline
      | cons first more =>
        rwa [List.getLast?_append_of_ne_nil _ (List.cons_ne_nil _ _),
          List.getLast?_cons_cons] at isLast
    rw [List.append_assoc, List.cons_append, texts_append_newline free, texts_append_newline free,
      ih ⟨byte, later, notNewline, notReturn⟩]

/-- Bytes come of others by changes to how lines are ended, made one after the other. -/
inductive Respelled (bytes : List UInt8) : List UInt8 → Prop where
  | same : Respelled bytes bytes
  /-- Every newline gets a carriage return before it, where there is none yet. -/
  | returned {changed} (so : Respelled bytes changed) (none : carriageReturn ∉ changed) :
    Respelled bytes (withReturns changed)
  /-- The last line gets an ending. -/
  | ended {changed ending} (so : Respelled bytes changed) (unended : Unended changed)
    (isEnding : Ending ending) : Respelled bytes (changed ++ ending)
  /-- The last line loses its ending. -/
  | unended {changed ending} (so : Respelled bytes (changed ++ ending))
    (unended : Unended changed) (isEnding : Ending ending) : Respelled bytes changed

/-- No such change changes the texts. -/
theorem Respelled.texts_eq {changed : List UInt8} (so : Respelled bytes changed) :
    texts changed = texts bytes := by
  induction so with
  | same => rfl
  | returned _ none ih => rw [texts_withReturns none, ih]
  | ended _ unended isEnding ih => rw [texts_append_ending unended isEnding, ih]
  | unended _ unended isEnding ih => rw [← texts_append_ending unended isEnding, ih]

/-- Two sources are the same, or are read without fault and hold bytes that differ in how lines are
ended. -/
inductive SameButEndings : Source → Source → Prop where
  | same (source) : SameButEndings source source
  | respelled {source partner} (sound : source.fault = none) (sound' : partner.fault = none)
    (so : Respelled source.content partner.content) : SameButEndings source partner

/-- Sources that differ in how lines are ended have the same texts. -/
theorem SameButEndings.sameTexts {source partner : Source}
    (alike : source.SameButEndings partner) : source.SameTexts partner := by
  cases alike with
  | same => exact ⟨rfl, rfl⟩
  | respelled sound sound' so =>
    refine ⟨by rw [sound, sound'], ?_⟩
    rw [lines_eq, lines_eq, sound, sound']
    exact so.texts_eq.symm

end Source

/-! ## Whole parses -/

/-- How lines are ended has no effect. If the files of two file systems differ in nothing else,
their parses make the same calls with the same locations, count the same, log the same, and leave
the same problems with the same quotes. -/
theorem line_endings_inert {σ : Type} (one other : Snapshot) (settings : Settings)
    (alike : one.Alike Source.SameButEndings other) (handler : Handler σ) (homes : Homes)
    (root : Path) (state : σ) :
    calls one settings handler homes root state = calls other settings handler homes root state ∧
      parse one settings handler homes root state =
        parse other settings handler homes root state := by
  have texts : one.Alike Source.SameTexts other := alike.imp fun _ _ alike => alike.sameTexts
  refine ⟨?_, parse_congr_texts texts homes root state⟩
  rw [calls, calls, parse_congr_texts texts]

/-- Two files, of which one includes the other and then names no file. -/
def quoting (first second : List UInt8) : List Observation :=
  [⟨⟨"/a".toList⟩, some ⟨"/a".toList⟩, .ok (.ofBytes first)⟩,
    ⟨⟨"/b".toList⟩, some ⟨"/b".toList⟩, .ok (.ofBytes second)⟩]

/-- One of the files gets an ending for its last line, and then carriage returns; the other loses
the ending of its last line. -/
theorem quoting_inert :
    let directives := Utf8.encode "#include b\n #include".toList
    let blank := Utf8.encode "\n x".toList
    let one := Snapshot.ofObservations (quoting directives (blank ++ [Source.newline]))
    let other := Snapshot.ofObservations
      (quoting (Source.withReturns (directives ++ [Source.newline])) blank)
    let settings : Settings := { trimWhitespace := false, keepBlankLines := true }
    let homes : Homes := ⟨none, .ok []⟩
    let root : Path := ⟨"/a".toList⟩
    one.Alike Source.SameButEndings other ∧
      calls one settings Handler.discard homes root () =
        calls other settings Handler.discard homes root () ∧
      parse one settings Handler.discard homes root () =
        parse other settings Handler.discard homes root () := by
  intro directives blank one other settings homes root
  have first : Source.Respelled directives
      (Source.withReturns (directives ++ [Source.newline])) := by
    have ended : Source.Respelled directives (directives ++ [Source.newline]) :=
      .ended .same ⟨101, by decide⟩ .newline
    exact ended.returned (by decide)
  have second : Source.Respelled (blank ++ [Source.newline]) blank :=
    .unended .same ⟨120, by decide⟩ .newline
  have alike : one.Alike Source.SameButEndings other := by
    refine .ofObservations (.cons ⟨rfl, rfl, .opened (.respelled rfl rfl ?_)⟩
      (.cons ⟨rfl, rfl, .opened (.respelled rfl rfl ?_)⟩ .nil))
    · simpa only [Source.content_ofBytes] using first
    · simpa only [Source.content_ofBytes] using second
  exact ⟨alike, line_endings_inert one other settings alike Handler.discard homes root ()⟩

end Splice
