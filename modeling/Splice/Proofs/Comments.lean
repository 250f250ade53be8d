import Splice.Observation
import Splice.Proofs.Lines
import Splice.Proofs.Simulation

/-!
# Comments

What stands in a comment has no effect. Two file systems whose files differ in nothing but what
follows a comment marker, on any lines of any files, are parsed alike (`comments_inert`): a comment
may hold markers, include directives and further comment markers. Only where a directive names no
file is a comment ever seen, as its line is quoted.

The marker that is given need not be the first of its line, and an earlier one may overlap it. A
carriage return that ends a line is not told apart from the comment: the marker holds none, so
taking it off leaves a comment behind the same marker.
-/

namespace Splice

/-- Two lines of text are the same, or the same up to and with a marker that both have. -/
def Text.SameButComment (marker line partner : Text) : Prop :=
  line = partner ∨ ∃ head tail tail',
    line = head ++ marker ++ tail ∧ partner = head ++ marker ++ tail'

/-- Two sources hold lines of text that are the same but for their comments. What follows the last
newline is a line as well, unless reading fails before it is complete. -/
structure Source.SameButComments (marker : Text) (source partner : Source) : Prop where
  /-- They fail alike. -/
  fault_eq : source.fault = partner.fault
  /-- They hold lines of text that correspond. -/
  holds : ∃ lines lines' rest rest', source.Holds lines rest ∧ partner.Holds lines' rest' ∧
    List.Forall₂ (Text.SameButComment marker) lines lines' ∧
    (source.fault = none → ∃ last last', rest = Utf8.encode last ∧ rest' = Utf8.encode last' ∧
      Text.SameButComment marker last last')

variable {settings : Settings}

/-! ## Lines -/

/-- Without a carriage return at the end, lines that differ in comments mean the same. -/
theorem Text.SameButComment.meaning_eq {line partner : Text}
    (same : Text.SameButComment settings.comment line partner) (notNil : settings.comment ≠ [])
    (noReturn : '\r' ∉ settings.comment) :
    settings.meaning (Text.dropFinal '\r' line) =
      settings.meaning (Text.dropFinal '\r' partner) := by
  obtain rfl | ⟨head, tail, tail', rfl, rfl⟩ := same
  · rfl
  · -- The marker does not end in a carriage return, so only the comment may lose one.
    have other : (head ++ settings.comment).getLast? ≠ some '\r' := by
      rw [List.getLast?_append_of_ne_nil head notNil]
      exact fun isLast => noReturn (List.mem_of_getLast? isLast)
    rw [Text.dropFinal_append_of_ne other, Text.dropFinal_append_of_ne other,
      Settings.meaning_append notNil, Settings.meaning_append notNil]

/-- Of lines that differ in comments, both are empty or none is. -/
theorem Text.SameButComment.eq_nil_iff {marker line partner : Text}
    (same : Text.SameButComment marker line partner) (notNil : marker ≠ []) :
    line = [] ↔ partner = [] := by
  obtain rfl | ⟨head, tail, tail', rfl, rfl⟩ := same
  · rfl
  · simp [notNil]

/-- What the completed lines of a file mean. -/
theorem Settings.meanings_ended (settings : Settings) (lines : List Text) :
    settings.meanings (lines.map Source.ended) =
      lines.map fun line => settings.meaning (Text.dropFinal '\r' line) := by
  simp [meanings, Source.lineText_ended]

/-- What the last line of a file means, if it is not empty. -/
theorem Settings.meanings_lastLine (settings : Settings) {last : Text} (free : '\n' ∉ last) :
    settings.meanings (Source.lastLine none (Utf8.encode last).reverse) =
      if last = [] then [] else [settings.meaning (Text.dropFinal '\r' last)] := by
  have isEmpty : (Utf8.encode last).reverse = [] ↔ last = [] := by
    cases last <;> simp [Utf8.encodeChar_ne_nil]
  by_cases none : last = []
  · rw [Source.lastLine, if_pos (.inr (isEmpty.2 none)), if_pos none]
    rfl
  · have kept : ¬ ((Option.none : Option Fault).isSome ∨ (Utf8.encode last).reverse = []) := by
      simpa [isEmpty] using none
    rw [Source.lastLine, if_neg kept, if_neg none, List.reverse_reverse]
    simp [meanings, Source.lineText_encode free]

/-- Sources that differ in comments mean the same. -/
theorem Source.SameButComments.meansSame {source partner : Source}
    (same : source.SameButComments settings.comment partner) (notNil : settings.comment ≠ [])
    (noReturn : '\r' ∉ settings.comment) : source.MeansSame settings partner where
  fault_eq := same.fault_eq
  meanings_eq := by
    obtain ⟨lines, lines', rest, rest', holds, holds', alike, last⟩ := same.holds
    have ended : settings.meanings (lines.map Source.ended) =
        settings.meanings (lines'.map Source.ended) := by
      rw [Settings.meanings_ended, Settings.meanings_ended]
      clear holds holds'
      induction alike with
      | nil => rfl
      | cons first _ ih =>
        rw [List.map_cons, List.map_cons, first.meaning_eq notNil noReturn, ih]
    have final : settings.meanings (Source.lastLine source.fault rest.reverse) =
        settings.meanings (Source.lastLine partner.fault rest'.reverse) := by
      rw [← same.fault_eq]
      cases intact : source.fault with
      | some fault => simp [Source.lastLine]
      | none =>
        obtain ⟨text, text', rfl, rfl, alike⟩ := last intact
        have free {text : Text} (bare : Source.newline ∉ Utf8.encode text) : '\n' ∉ text := by
          rwa [Source.newline_eq, Utf8.mem_encode_iff (by decide)] at bare
        rw [settings.meanings_lastLine (free holds.free_rest),
          settings.meanings_lastLine (free holds'.free_rest)]
        simp only [alike.eq_nil_iff notNil, alike.meaning_eq notNil noReturn]
    rw [Source.lines_of_holds holds, Source.lines_of_holds holds', Settings.meanings,
      Settings.meanings, List.map_append, List.map_append]
    exact congrArg₂ (· ++ ·) ended final

/-! ## Whole parses -/

/-- Comments are inert. If the files of two file systems are valid and differ in nothing but what
follows a comment marker, their parses make the same calls with the same locations, count the same,
and leave the same problems but for the lines that they quote. -/
theorem comments_inert {σ : Type} (one other : Snapshot) (settings : Settings)
    (notNil : settings.comment ≠ []) (noReturn : '\r' ∉ settings.comment)
    (alike : one.Alike (Source.SameButComments settings.comment) other)
    (handler : Handler σ) (homes : Homes) (root : Path) (state : σ) :
    calls one settings handler homes root state = calls other settings handler homes root state ∧
      (parse one settings handler homes root state).tally =
        (parse other settings handler homes root state).tally ∧
      (parse one settings handler homes root state).problems.toList.map Problem.withoutQuote =
        (parse other settings handler homes root state).problems.toList.map
          Problem.withoutQuote :=
  parse_congr (alike.imp fun _ _ same => same.meansSame notNil noReturn) handler homes root state

/-! ## Files with a remark -/

/-- Snapshots are alike if the same paths have been observed and each observation is. -/
theorem Snapshot.Alike.ofObservations {related : Source → Source → Prop}
    {observed others : List Observation}
    (same : List.Forall₂ (fun one other : Observation => one.path = other.path ∧
      one.canonical? = other.canonical? ∧ Opening related one.source other.source)
      observed others) :
    Alike related (.ofObservations observed) (.ofObservations others) := by
  -- Looking a path up finds corresponding observations, or none on either side.
  have found (path : Path) :
      (observation? observed path = none ∧ observation? others path = none) ∨
        ∃ one other, observation? observed path = some one ∧ observation? others path = some other ∧
          one.canonical? = other.canonical? ∧ Opening related one.source other.source := by
    induction same with
    | nil => exact .inl ⟨rfl, rfl⟩
    | @cons one other _ _ first _ ih =>
      obtain ⟨path_eq, canonical_eq, opening⟩ := first
      by_cases here : one.path = path
      · have here' : other.path = path := path_eq ▸ here
        exact .inr ⟨one, other, by simp [observation?, here], by simp [observation?, here'],
          canonical_eq, opening⟩
      · have other' : other.path ≠ path := path_eq ▸ here
        simpa [observation?, here, other'] using ih
  constructor
  · intro path
    obtain ⟨none, none'⟩ | ⟨one, other, seen, seen', canonical_eq, _⟩ := found path
    · simp [Snapshot.ofObservations, none, none']
    · simpa [Snapshot.ofObservations, seen, seen'] using canonical_eq
  · intro path
    obtain ⟨none, none'⟩ | ⟨one, other, seen, seen', _, opening⟩ := found path
    · simpa [Snapshot.ofObservations, none, none'] using Opening.failed _
    · simpa [Snapshot.ofObservations, seen, seen'] using opening

/-- Two files with the same remark, of which one includes the other. -/
def remarked (remark : Text) : List Observation :=
  let first := Source.ofBytes (Utf8.encode ("#include b //".toList ++ remark ++ ['\n']))
  let second := Source.ofBytes (Utf8.encode ("x//".toList ++ remark))
  [⟨⟨['/', 'a']⟩, some ⟨['/', 'a']⟩, .ok first⟩, ⟨⟨['/', 'b']⟩, some ⟨['/', 'b']⟩, .ok second⟩]

/-- The files differ in comments alone if the remarks differ. -/
theorem alike_remarked {remark remark' : Text} (free : '\n' ∉ remark) (free' : '\n' ∉ remark') :
    (Snapshot.ofObservations (remarked remark)).Alike (Source.SameButComments "//".toList)
      (.ofObservations (remarked remark')) := by
  have first (remark : Text) (free : '\n' ∉ remark) :
      (Source.ofBytes (Utf8.encode ("#include b //".toList ++ remark ++ ['\n']))).Holds
        ["#include b //".toList ++ remark] [] :=
    ⟨by simp, by simpa using free, List.not_mem_nil⟩
  have second (remark : Text) (free : '\n' ∉ remark) :
      (Source.ofBytes (Utf8.encode ("x//".toList ++ remark))).Holds []
        (Utf8.encode ("x//".toList ++ remark)) := by
    refine ⟨by simp, by simp, ?_⟩
    rw [Source.newline_eq, Utf8.mem_encode_iff (by decide)]
    simpa using free
  refine .ofObservations (.cons ⟨rfl, rfl, .opened ⟨rfl, ?_⟩⟩
    (.cons ⟨rfl, rfl, .opened ⟨rfl, ?_⟩⟩ .nil))
  · refine ⟨_, _, _, _, first remark free, first remark' free', .cons ?_ .nil, fun _ => ?_⟩
    · exact .inr ⟨"#include b ".toList, remark, remark', rfl, rfl⟩
    · exact ⟨[], [], rfl, rfl, .inl rfl⟩
  · refine ⟨_, _, _, _, second remark free, second remark' free', .nil, fun _ => ?_⟩
    exact ⟨_, _, rfl, rfl, .inr ⟨"x".toList, remark, remark', rfl, rfl⟩⟩

/-- A directive, a second marker and a carriage return are inert in a remark. -/
theorem remarked_inert :
    let one := Snapshot.ofObservations (remarked [])
    let other := Snapshot.ofObservations (remarked " #include a // x\r".toList)
    let homes : Homes := ⟨none, .ok []⟩
    let root : Path := ⟨['/', 'a']⟩
    ({} : Settings).comment ≠ [] ∧ '\r' ∉ ({} : Settings).comment ∧
      one.Alike (Source.SameButComments ({} : Settings).comment) other ∧
      calls one {} Handler.discard homes root () = calls other {} Handler.discard homes root () ∧
      (parse one {} Handler.discard homes root ()).tally =
        (parse other {} Handler.discard homes root ()).tally ∧
      (parse one {} Handler.discard homes root ()).problems.toList.map Problem.withoutQuote =
        (parse other {} Handler.discard homes root ()).problems.toList.map
          Problem.withoutQuote := by
  intro one other homes root
  have notNil : ({} : Settings).comment ≠ [] := by decide
  have noReturn : '\r' ∉ ({} : Settings).comment := by decide
  have alike : one.Alike (Source.SameButComments ({} : Settings).comment) other :=
    alike_remarked (by decide) (by decide)
  exact ⟨notNil, noReturn, alike,
    comments_inert one other {} notNil noReturn alike Handler.discard homes root ()⟩

end Splice
