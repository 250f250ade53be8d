import Splice.Proofs.Segmentation
import Splice.Proofs.Tracing
import Splice.Proofs.Text.Strip

/-!
# Directives

Under which settings a line can be a directive at all (`includes_possible_iff`). The marker must not
be empty; it must not hold a comment marker, since nothing that follows one is left of a line; and
where lines are trimmed it must not start with white space, since no line does then.

Where any of this fails, a parse reads its root and nothing else. So it is with `#` for comments and
`#include` for directives: the latter are comments.
-/

namespace Splice

namespace Settings

/-- What settings must be like for a line to be a directive. -/
structure CanInclude (settings : Settings) : Prop where
  /-- There is a marker. -/
  marked : settings.includeMarker ≠ []
  /-- It is no comment. -/
  uncommented : settings.comment = [] ∨ ¬ settings.comment <:+: settings.includeMarker
  /-- It is not trimmed. -/
  solid : settings.trimWhitespace = true → settings.includeMarker.head?.any Text.isBlank = false

instance (settings : Settings) : Decidable settings.CanInclude :=
  decidable_of_iff
    (settings.includeMarker ≠ [] ∧
      (settings.comment = [] ∨ ¬ settings.comment <:+: settings.includeMarker) ∧
      (settings.trimWhitespace = true → settings.includeMarker.head?.any Text.isBlank = false))
    ⟨fun ⟨marked, uncommented, solid⟩ => ⟨marked, uncommented, solid⟩,
      fun ⟨marked, uncommented, solid⟩ => ⟨marked, uncommented, solid⟩⟩

variable {settings : Settings} {text name : Text}

/-- A directive is the marker, and what it names when that is trimmed. -/
theorem target?_eq_some_iff {line : Text} :
    settings.target? line = some name ↔
      settings.includeMarker ≠ [] ∧
        ∃ rest, line = settings.includeMarker ++ rest ∧ rest.trim = name := by
  unfold target?
  by_cases unmarked : settings.includeMarker = []
  · simp [unmarked]
  · simp only [unmarked, ↓reduceIte, Option.map_eq_some_iff, List.isPrefixOf?_eq_some_iff_append_eq,
      ne_eq, not_false_eq_true, true_and]
    constructor
    · rintro ⟨rest, rfl, trimmed⟩
      exact ⟨rest, rfl, trimmed⟩
    · rintro ⟨rest, rfl, trimmed⟩
      exact ⟨rest, rfl, trimmed⟩

/-- If some line is a directive, with or without a name, then lines can be. -/
theorem canInclude_of_target? (names : settings.target? (settings.stripComment text) = some name) :
    settings.CanInclude := by
  obtain ⟨marked, rest, line, -⟩ := target?_eq_some_iff.1 names
  refine ⟨marked, ?_, ?_⟩
  · by_cases none : settings.comment = []
    · exact .inl none
    · right
      intro occurs
      have within : settings.includeMarker <+: settings.stripComment text := ⟨rest, line.symm⟩
      exact not_comment_infix_stripComment none text (occurs.trans within.isInfix)
  · intro trims
    obtain ⟨c, more, marker⟩ := List.exists_cons_of_ne_nil marked
    rw [stripComment, if_pos trims, marker, List.cons_append] at line
    rw [marker]
    exact Text.isBlank_eq_false_of_trim line

/-- A character that is no white space, and that no comment marker ends in. Appended to a text, it
completes no comment marker. -/
theorem exists_solid_char (marker : Text) :
    ∃ c, Text.isBlank c = false ∧ marker.getLast? ≠ some c := by
  by_cases other : marker.getLast? = some 'a'
  · exact ⟨'b', by decide, by simp [other]⟩
  · exact ⟨'a', by decide, other⟩

/-- If lines can be directives, then one that names a file is. -/
theorem CanInclude.exists_directive (can : settings.CanInclude) :
    ∃ text name, settings.target? (settings.stripComment text) = some name ∧ name ≠ [] := by
  obtain ⟨last, solidLast, unended⟩ := exists_solid_char settings.comment
  let line := settings.includeMarker ++ [last]
  have bare :
      (if settings.comment = [] then line else Text.before settings.comment line) = line := by
    split
    · rfl
    · next commented =>
      refine Text.before_of_not_infix fun occurs => ?_
      -- An occurrence lies in the marker, or it ends with the line.
      rcases List.infix_concat_iff.1 occurs with ends | within
      · rcases List.suffix_concat_iff.1 ends with none | ⟨init, same, -⟩
        · exact commented none
        · exact unended (by rw [same, List.getLast?_concat])
      · exact (can.uncommented.resolve_left commented) within
  have stripped : settings.stripComment line = line := by
    rw [stripComment, bare]
    cases trims : settings.trimWhitespace with
    | false => rfl
    | true =>
      obtain ⟨c, rest, marker⟩ := List.exists_cons_of_ne_nil can.marked
      have solid : Text.isBlank c = false := by
        have solid := can.solid trims
        rwa [marker] at solid
      simp only [line, marker, List.cons_append]
      exact Text.trim_cons_concat solid solidLast rest
  have named : Text.trim [last] = [last] := by
    simp [Text.trim, Text.trimStart, Text.trimEnd, solidLast]
  refine ⟨line, [last], ?_, List.cons_ne_nil _ _⟩
  rw [stripped]
  exact target?_eq_some_iff.2 ⟨can.marked, [last], rfl, named⟩

/-- If lines cannot be directives, none is. -/
theorem plain_of_not_canInclude (cannot : ¬ settings.CanInclude) : settings.Plain := by
  intro text
  by_contra directive
  obtain ⟨name, names⟩ := Option.ne_none_iff_exists'.1 directive
  exact cannot (canInclude_of_target? names)

end Settings

/-! ## Parses without directives -/

section

variable {snapshot : Snapshot} {settings : Settings} {homes : Homes} {root : Path}

/-- No open file stands at a directive, so there is none when a file is entered. -/
theorem Nested.resolved_of_plain (plain : settings.Plain) {frames : List Frame} {path : Path}
    (nested : Nested snapshot settings homes root frames path) : homes.resolve root = .ok path := by
  cases nested with
  | root resolved => exact resolved
  | inner _ _ directs =>
    obtain ⟨source, line, name, -, -, names, -⟩ := directs
    rw [plain] at names
    cases names

/-- The only file that a step opens is the root, -/
theorem Reached.resolved_of_opened (plain : settings.Plain) {position next : Position}
    {actions : List Action} {note : Text} {path : Path}
    (reached : Reached snapshot settings homes root position)
    (step : Step snapshot settings position actions next) (done : .opened note path ∈ actions) :
    homes.resolve root = .ok path := by
  cases step with
  | opened new opens =>
    obtain ⟨rfl, rfl⟩ : note = _ ∧ path = _ := by simpa using done
    exact reached.sound.2.resolved_of_plain plain
  | _ => simp at done

/-- and no step follows a directive. -/
theorem Step.followed_notMem (plain : settings.Plain) {position next : Position}
    {actions : List Action} (step : Step snapshot settings position actions next)
    (location : Location) (target : Path) : .followed location target ∉ actions := by
  intro done
  cases step with
  | followed ahead means =>
    obtain ⟨names, -⟩ := Settings.meaning_eq_directive_iff.1 means
    rw [plain] at names
    cases names
  | _ => simp at done

/-- So no file but the root is noted as being read, -/
theorem Parses.resolved_of_noted {σ : Type} (plain : settings.Plain) {all : List Action}
    (parses : Parses snapshot settings homes root all) {handler : Handler σ} {state : σ}
    {note : Text} {path : Path}
    (noted : .reading note path ∈ Action.notes handler state all) :
    homes.resolve root = .ok path := by
  obtain ⟨_, _, _, reached, step, action, done, _, isNote⟩ | ⟨_, other⟩ :=
    parses.exists_step_of_noted noted
  · obtain rfl := Action.eq_opened_of_note? handler isNote
    exact reached.resolved_of_opened plain step done
  · cases other

/-- and no directive is noted as being followed. -/
theorem Parses.including_notMem_notes {σ : Type} (plain : settings.Plain) {all : List Action}
    (parses : Parses snapshot settings homes root all) (handler : Handler σ) (state : σ)
    (location : Location) (target : Path) :
    .including location target ∉ Action.notes handler state all := by
  intro noted
  obtain ⟨_, _, _, -, step, action, done, _, isNote⟩ | ⟨_, other⟩ :=
    parses.exists_step_of_noted noted
  · obtain rfl := Action.eq_followed_of_note? handler isNote
    exact step.followed_notMem plain location target done
  · cases other

namespace Expansion

/-- The root is the only file that is opened. -/
theorem length_opened_of_plain (plain : settings.Plain) :
    (opened snapshot settings homes root).length ≤ 1 := by
  obtain ⟨_, _, -, -, opens, -⟩ | ⟨fails, -⟩ := root_opens_or_fails snapshot settings homes root
  · rw [opens, Frame.sources_of_plain plain, List.length_singleton]
  · rw [fails]
    exact Nat.zero_le 1

/-- If it opens, its lines are delivered, and a failure is recorded. -/
theorem ofRoot_of_plain (plain : settings.Plain) {path : Path} {source : Source}
    (resolved : homes.resolve root = .ok path) (content : snapshot.source path = .ok source) :
    ofRoot snapshot settings homes root =
      Event.ofGiven
          (settings.given { source := path, note := settings.description } source.lines) ++
        source.fault.toList.map fun fault => .recorded
          (.unreadable
            { source := path, line := source.lines.length + 1, note := settings.description }
            fault) := by
  have new : ({} : Chain).find? (snapshot.identity path) = none := rfl
  have line : 0 + source.lines.length + 1 = source.lines.length + 1 := by omega
  simp only [ofRoot, resolved, ofFile_of_opened new content, Frame.events_of_plain plain,
    Frame.first, Frame.lineAt, Settings.note, line, ↓reduceIte]

/-- So no directive is recorded for what it names, or for naming nothing. -/
theorem kind_of_plain (plain : settings.Plain) {problem : Problem}
    (isIn : problem ∈ Event.recordings (ofRoot snapshot settings homes root)) :
    problem.kind = .unreadable ∨ problem.kind = .unopened ∨ problem.kind = .unexpanded := by
  obtain ⟨_, source, -, -, -, opens⟩ | ⟨-, other, fails, kind⟩ :=
    root_opens_or_fails snapshot settings homes root
  · left
    rw [opens, Frame.events_of_plain plain, Event.recordings_append, Event.recordings_ofGiven,
      List.nil_append] at isIn
    obtain ⟨event, failure, isProblem⟩ := List.mem_filterMap.1 isIn
    obtain ⟨fault, -, rfl⟩ := List.mem_map.1 failure
    obtain rfl := Option.some.inj isProblem
    rfl
  · right
    rw [fails, Event.recordings_recorded, Event.recordings_nil, List.mem_singleton] at isIn
    rwa [isIn]

end Expansion

end

/-! ## What a parse comes to -/

/-- A parse, and what it gives its handler, when it reads its root and nothing else. -/
structure RootAlone {σ : Type} (snapshot : Snapshot) (settings : Settings) (homes : Homes)
    (root : Path) (given : List (Text × Location)) (progress : Progress σ) : Prop where
  /-- There is no other file. -/
  filesVisited_le : progress.tally.filesVisited ≤ 1
  /-- Only the root is noted as being read. -/
  reading_root : ∀ note path, .reading note path ∈ progress.trace → homes.resolve root = .ok path
  /-- No directive is noted. -/
  including_notMem : ∀ location target, .including location target ∉ progress.trace
  /-- Nothing is in a loop. -/
  no_loop : progress.count .loop = 0
  /-- Nothing lacks a name. -/
  no_nameless : progress.count .nameless = 0
  /-- If the root opens, its lines are delivered, in order, less those that are dropped. -/
  given_eq : ∀ path source, homes.resolve root = .ok path → snapshot.source path = .ok source →
    given = settings.given { source := path, note := settings.description } source.lines
  /-- Otherwise none is. -/
  given_nil : progress.tally.filesVisited = 0 → given = []

/-- Where no line is a directive, parses read their roots alone. -/
theorem Settings.Plain.rootAlone {σ : Type} {settings : Settings} (plain : settings.Plain)
    (snapshot : Snapshot) (homes : Homes) (root : Path) (handler : Handler σ) (state : σ) :
    RootAlone snapshot settings homes root (calls snapshot settings handler homes root state)
      (parse snapshot settings handler homes root state) := by
  obtain ⟨all, parses⟩ := exists_parses snapshot settings homes root
  have visited : (parse snapshot settings handler homes root state).tally.filesVisited =
      (Expansion.opened snapshot settings homes root).length :=
    congrArg Tally.filesVisited (tally_parse homes root handler state)
  have noted := parses.trace_eq handler state
  have absent (kind : Problem.Kind) (directed : kind = .loop ∨ kind = .nameless) :
      (parse snapshot settings handler homes root state).count kind = 0 := by
    rw [count_parse handler homes root state (by rcases directed with rfl | rfl <;> decide),
      List.countP_eq_zero]
    intro problem isIn same
    have kinds := Expansion.kind_of_plain plain isIn
    rw [of_decide_eq_true same] at kinds
    rcases directed with rfl | rfl <;> simp at kinds
  refine ⟨?_, ?_, ?_, absent .loop (.inl rfl), absent .nameless (.inr rfl), ?_, ?_⟩
  · rw [visited]
    exact Expansion.length_opened_of_plain plain
  · intro note path isIn
    rw [← Array.mem_toList_iff, noted] at isIn
    exact parses.resolved_of_noted plain isIn
  · intro location target isIn
    rw [← Array.mem_toList_iff, noted] at isIn
    exact parses.including_notMem_notes plain handler state location target isIn
  · intro path source resolved content
    rw [calls_eq, Expansion.ofRoot_of_plain plain resolved content, Event.deliveries_append,
      Event.deliveries_ofGiven]
    cases source.fault <;> simp
  · intro none
    rw [visited, List.length_eq_zero_iff] at none
    obtain ⟨problem, events, -⟩ := Expansion.ofRoot_of_unvisited none
    rw [calls_eq, events]
    rfl

/-- Lines can be directives exactly if their marker is not empty, holds no comment marker and is not
trimmed. Otherwise none is, and parses read their roots alone. -/
theorem includes_possible_iff (settings : Settings) :
    ((∃ text name, settings.target? (settings.stripComment text) = some name ∧ name ≠ []) ↔
        settings.CanInclude) ∧
      (¬ settings.CanInclude → settings.Plain ∧
        ∀ {σ : Type} (snapshot : Snapshot) (homes : Homes) (root : Path) (handler : Handler σ)
          (state : σ),
          RootAlone snapshot settings homes root
            (calls snapshot settings handler homes root state)
            (parse snapshot settings handler homes root state)) := by
  refine ⟨⟨?_, Settings.CanInclude.exists_directive⟩, fun cannot => ?_⟩
  · rintro ⟨text, name, names, -⟩
    exact Settings.canInclude_of_target? names
  · have plain := Settings.plain_of_not_canInclude cannot
    exact ⟨plain, fun snapshot homes root => plain.rootAlone snapshot homes root⟩

/-- Where `#` makes a comment, `#include` is one. -/
theorem hashed_alone :
    let settings : Settings := { comment := ['#'] }
    let source : Source := .ofBytes (Utf8.encode "x # y
#include b

z
".toList)
    let location : Location := { source := ⟨['/', 'a']⟩, note := settings.description }
    let snapshot : Snapshot := .ofObservations [⟨⟨['/', 'a']⟩, some ⟨['/', 'a']⟩, .ok source⟩]
    let homes : Homes := ⟨none, .ok []⟩
    settings.includeMarker = "#include".toList ∧
      ¬ settings.CanInclude ∧
      settings.given location source.lines =
        [(['x'], { location with line := 1 }), (['z'], { location with line := 4 })] ∧
      RootAlone snapshot settings homes ⟨['/', 'a']⟩
        (calls snapshot settings Handler.discard homes ⟨['/', 'a']⟩ ())
        (parse snapshot settings Handler.discard homes ⟨['/', 'a']⟩ ()) := by
  intro settings source location snapshot homes
  have cannot : ¬ settings.CanInclude := by decide
  exact ⟨rfl, cannot, by decide,
    ((includes_possible_iff settings).2 cannot).2 snapshot homes ⟨['/', 'a']⟩ Handler.discard ()⟩

end Splice
