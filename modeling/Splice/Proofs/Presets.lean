import Splice.Configuration
import Splice.Proofs.Spelling

/-!
# Presets

A preset gives what the command line does not, and nothing else (`presets_are_defaults`). A command
line with the name of a preset comes to what it comes to without, when the settings of the preset
that it lacks are given as options. The preset says whether white space is dropped and the flag that
it is kept, so the flag is given where the preset says no.

Nothing else is read of the presets than the one that is named, and without that there is no
configuration.
-/

namespace Splice

namespace Preset

/-- The value that a preset gives for an option. -/
def value? (preset : Preset) : Options.Single → Option Text
  | .preset | .presets => none
  | .description => preset.description
  | .comment => preset.comment
  | .includeMarker => preset.includeMarker

/-- Whether a preset gives what a flag does. -/
def has (preset : Preset) : Options.Flag → Bool
  | .keepBlankLines => preset.keepBlankLines == some true
  | .noTrim => preset.trimWhitespace == some false
  | .check | .stats => false

end Preset

namespace Options

/-- The options with a preset spelled out. -/
def spelling (options : Options) (preset : Preset) : Options :=
  { options with
    preset := none
    description := options.description <|> preset.description
    comment := options.comment <|> preset.comment
    includeMarker := options.includeMarker <|> preset.includeMarker
    keepBlankLines := options.keepBlankLines || preset.keepBlankLines == some true
    noTrim := options.noTrim || preset.trimWhitespace == some false }

/-- What has to be said to spell a preset out. -/
def missing (options : Options) (preset : Preset) : Options :=
  { description := if options.description.isSome then none else preset.description
    comment := if options.comment.isSome then none else preset.comment
    includeMarker := if options.includeMarker.isSome then none else preset.includeMarker
    keepBlankLines := !options.keepBlankLines && preset.keepBlankLines == some true
    noTrim := !options.noTrim && preset.trimWhitespace == some false }

section

variable {options : Options} {preset : Preset}

theorem value?_missing (option : Single) :
    (options.missing preset).value? option =
      if options.gives option then none else preset.value? option := by
  cases option <;> simp [missing, value?, Preset.value?]

theorem has_missing (flag : Flag) :
    (options.missing preset).has flag = (!options.has flag && preset.has flag) := by
  cases flag <;> simp [missing, has, Preset.has]

theorem value?_spelling (unnamed : options.preset = none) (option : Single) :
    (options.spelling preset).value? option =
      (options.value? option).or (preset.value? option) := by
  cases option <;> simp [spelling, value?, Preset.value?, unnamed]

theorem has_spelling (flag : Flag) :
    (options.spelling preset).has flag = (options.has flag || preset.has flag) := by
  cases flag <;> simp [spelling, has, Preset.has]

end

section

variable {options : Options} {words : List Text} {tokens : List Token}

/-- Tokens for flags and for options with one value may be put in front of a command line that
lacks them. -/
theorem parse_append (accepted : parse words = .ok options)
    (proper : .single .presets [] ∉ tokens) (single : ∀ token ∈ tokens, token.once? ≠ none)
    (distinct : (tokens.filterMap Token.once?).Nodup)
    (lacks : ∀ once ∈ tokens.filterMap Token.once?, options.mentions once = false) :
    parse (tokens.map Token.word ++ words) = .ok (tokens.reverse.foldl add options) := by
  induction tokens with
  | nil => exact accepted
  | cons token rest ih =>
    obtain ⟨proper, others⟩ := not_or.1 (mt List.mem_cons.2 proper)
    obtain ⟨once, known⟩ := Option.ne_none_iff_exists'.1 (single token List.mem_cons_self)
    rw [List.filterMap_cons_some known] at distinct lacks
    obtain ⟨new, distinct⟩ := List.nodup_cons.1 distinct
    have accepted' := ih others (fun token isIn => single token (.tail _ isIn)) distinct
      fun once isIn => lacks once (.tail _ isIn)
    have lacks' : mentions (rest.reverse.foldl add options) once = false := by
      rw [Bool.eq_false_iff, ne_eq, mentions_foldl, List.filterMap_reverse, List.mem_reverse,
        lacks once List.mem_cons_self]
      exact fun said => said.elim new Bool.false_ne_true
    rw [List.reverse_cons, List.foldl_append]
    cases token with
    | single option value =>
      cases known
      refine parse_cons_single accepted' lacks' ?_
      rintro rfl rfl
      exact proper rfl
    | flag given =>
      cases known
      exact parse_cons_flag given accepted' lacks'
    | many many pattern => cases known

end

section

variable {options : Options} {preset : Preset} {tokens : List Token}

theorem sayable_missing : (options.missing preset).Sayable := by
  refine ⟨nofun, nofun, ?_⟩
  rintro (_ | _)
  · exact nofun
  · exact nofun

/-- Nothing is missing that is there. -/
theorem mentions_missing {once : Single ⊕ Flag}
    (lacking : (options.missing preset).mentions once = true) :
    options.mentions once = false := by
  rcases once with option | flag
  · change (options.missing preset).gives option = true at lacking
    change options.gives option = false
    rw [gives_eq, value?_missing] at lacking
    cases given : options.gives option with
    | false => rfl
    | true =>
      rw [given] at lacking
      cases lacking
  · change (options.missing preset).has flag = true at lacking
    change options.has flag = false
    rw [has_missing] at lacking
    cases given : options.has flag with
    | false => rfl
    | true =>
      rw [given] at lacking
      cases lacking

/-- No preset has patterns. -/
theorem Spells.pattern?_missing (spells : Spells tokens (options.missing preset)) (many : Many) :
    tokens.filterMap (·.pattern? many) = [] := by
  rw [spells.inOrder]
  cases many <;> rfl

/-- So all that is missing can be said once. -/
theorem Spells.once?_missing (spells : Spells tokens (options.missing preset)) :
    ∀ token ∈ tokens, token.once? ≠ none := by
  rintro (_ | _ | ⟨many, pattern⟩) isIn
  · exact nofun
  · exact nofun
  · have said : pattern ∈ tokens.filterMap (·.pattern? many) :=
      List.mem_filterMap.2 ⟨_, isIn, if_pos rfl⟩
    rw [spells.pattern?_missing] at said
    cases said

/-- What is there says, with what is missing, what the preset spelled out says. -/
theorem Spells.foldl_missing (spells : Spells tokens (options.missing preset))
    (unnamed : options.preset = none) :
    tokens.reverse.foldl add options = options.spelling preset := by
  refine ext_of_views (files_foldl _ _) (fun option => ?_) (fun flag => ?_) (fun many => ?_)
  · rw [value?_foldl, List.filterMap_reverse, spells.filterMap_value?, value?_missing,
      value?_spelling unnamed, gives_eq]
    cases options.value? option with
    | none => cases preset.value? option <;> rfl
    | some value => rfl
  · have said := mentions_foldl options tokens.reverse (.inr flag)
    rw [List.filterMap_reverse, List.mem_reverse, spells.mem_once?_iff] at said
    change _ ↔ (options.missing preset).has flag = true ∨ options.has flag = true at said
    rw [has_missing] at said
    rw [has_spelling, Bool.eq_iff_iff]
    refine said.trans ?_
    cases options.has flag <;> simp
  · rw [list?_foldl, List.filterMap_reverse, spells.pattern?_missing]
    cases many <;> rfl

/-- In front of a command line without a preset, what is missing spells the preset out. -/
theorem parse_missing {words : List Text} (accepted : parse words = .ok options)
    (unnamed : options.preset = none) (spells : Spells tokens (options.missing preset)) :
    parse (tokens.map Token.word ++ words) = .ok (options.spelling preset) := by
  have lacks : ∀ once ∈ tokens.filterMap Token.once?, options.mentions once = false := by
    intro once said
    exact mentions_missing ((spells.mem_once?_iff once).1 said)
  rw [← spells.foldl_missing unnamed]
  exact parse_append accepted (spells.proper sayable_missing) spells.once?_missing
    spells.nodup_once? lacks

end

end Options

namespace Configuration

variable (content : Path → Option (Except Fault (List UInt8))) (home : Option Path)

/-- The presets that a run chooses from. -/
def loaded (options : Options) : Except ConfigurationError Presets :=
  match presetsPath options home with
  | .error error => .error error
  | .ok path =>
    match Presets.load path (content path) with
    | .error error => .error (.presets error)
    | .ok presets => .ok presets

/-- A command line comes to a configuration. -/
def Configures (words : List Text) (configuration : Configuration) : Prop :=
  ∃ options, Options.parse words = .ok options ∧
    resolve content home options = .ok configuration

variable {content home} {options : Options} {presets : Presets}

/-- Presets are merged once they are loaded. -/
theorem resolve_of_loaded (loads : loaded content home options = .ok presets) :
    resolve content home options = merge options presets := by
  unfold loaded at loads
  unfold resolve
  cases found : presetsPath options home with
  | error error =>
    rw [found] at loads
    cases loads
  | ok path =>
    rw [found] at loads
    dsimp only at loads ⊢
    cases read : Presets.load path (content path) with
    | error error =>
      rw [read] at loads
      cases loads
    | ok presets' =>
      rw [read] at loads
      cases loads
      rfl

variable (options) in
/-- Options over a preset amount to the options with the preset spelled out. -/
theorem combined_spelling (preset : Preset) :
    combined (options.spelling preset) {} = combined options preset := by
  have kept : (preset.keepBlankLines == some true) = preset.keepBlankLines.getD false := by
    rcases preset.keepBlankLines with _ | _ | _ <;> rfl
  have trimmed : (preset.trimWhitespace == some false) = !preset.trimWhitespace.getD true := by
    rcases preset.trimWhitespace with _ | _ | _ <;> rfl
  simp [combined, Options.spelling, kept, trimmed]

/-- Without the name of a preset, there is a configuration whatever presets there are. -/
theorem merge_unnamed (unnamed : options.preset = none) (presets : Presets) :
    merge options presets = .ok (combined options {}) := by
  rw [merge, chosen, unnamed]

/-- With the name of a preset, there is one where the preset is. -/
theorem merge_named {name : Text} (named : options.preset = some name) (presets : Presets) :
    merge options presets =
      match presets.get? name with
      | none => .error (.unknownPreset name)
      | some preset => .ok (combined options preset) := by
  simp only [merge, chosen, named]
  cases presets.get? name <;> rfl

variable (options) in
/-- With a preset spelled out, the presets do not matter. -/
theorem merge_spelling (preset : Preset) (presets : Presets) :
    merge (options.spelling preset) presets = .ok (combined options preset) := by
  rw [merge_unnamed rfl, combined_spelling]

/-- A command line with a preset spelled out comes to the options over the preset. -/
theorem configures_spelling {words : List Text} {preset : Preset}
    (loads : loaded content home options = .ok presets)
    (accepted : Options.parse words = .ok (options.spelling preset)) :
    Configures content home words (combined options preset) := by
  have loads' : loaded content home (options.spelling preset) = .ok presets := loads
  refine ⟨_, accepted, ?_⟩
  rw [resolve_of_loaded loads', merge_spelling]

/-- What is given on the command line goes before what a preset gives, an empty text included. -/
structure Given (options : Options) (configuration : Configuration) : Prop where
  description : ∀ value, options.description = some value →
    configuration.settings.description = value
  comment : ∀ value, options.comment = some value → configuration.settings.comment = value
  includeMarker : ∀ value, options.includeMarker = some value →
    configuration.settings.includeMarker = value
  keepBlankLines : options.keepBlankLines = true → configuration.settings.keepBlankLines = true
  noTrim : options.noTrim = true → configuration.settings.trimWhitespace = false

/-- Presets are defaults for what options do not give, and nothing else. -/
structure Defaults (options : Options) (presets : Presets) : Prop where
  /-- There is no configuration exactly when there is no preset of the name that is given. -/
  fails_iff : (∃ error, merge options presets = .error error) ↔
    ∃ name, options.preset = some name ∧ presets.get? name = none
  /-- No other preset matters. -/
  onlyNamed : ∀ others : Presets,
    (∀ name, options.preset = some name → others.get? name = presets.get? name) →
      merge options others = merge options presets
  /-- A preset may be spelled out instead. -/
  spelledOut : ∀ name preset, options.preset = some name → presets.get? name = some preset →
    merge options presets = merge (options.spelling preset) []
  given : ∀ configuration, merge options presets = .ok configuration → Given options configuration

/-- Command lines with the name of a preset, and with the preset spelled out, come to the same
configuration. -/
structure SameSpelled (content : Path → Option (Except Fault (List UInt8))) (home : Option Path)
    (words : List Text) (options : Options) (name : Text) (preset : Preset) : Prop where
  /-- The name is on the command line; instead, all options are spelled out with the preset. -/
  instead : options.preset = some name →
    ∃ configuration, Configures content home words configuration ∧
      ∀ tokens, Options.Spells tokens (options.spelling preset) →
        Configures content home (Options.line tokens options.files) configuration
  /-- The name is put in front of the command line, or what is missing of the preset. -/
  inFront : options.preset = none →
    ∃ configuration,
      Configures content home ((Options.Token.single .preset name).word :: words) configuration ∧
        ∀ tokens, Options.Spells tokens (options.missing preset) →
          Configures content home (tokens.map Options.Token.word ++ words) configuration

/-- A configuration is the options over some preset. -/
theorem exists_combined_of_merge {configuration : Configuration}
    (merges : merge options presets = .ok configuration) :
    ∃ preset, configuration = combined options preset := by
  cases named : options.preset with
  | none =>
    rw [merge_unnamed named] at merges
    exact ⟨_, (Except.ok.inj merges).symm⟩
  | some name =>
    rw [merge_named named] at merges
    cases found : presets.get? name with
    | none =>
      rw [found] at merges
      cases merges
    | some preset =>
      rw [found] at merges
      exact ⟨_, (Except.ok.inj merges).symm⟩

theorem given_combined (options : Options) (preset : Preset) :
    Given options (combined options preset) where
  description value given := by simp [combined, given]
  comment value given := by simp [combined, given]
  includeMarker value given := by simp [combined, given]
  keepBlankLines given := by simp [combined, given]
  noTrim given := by simp [combined, given]

theorem defaults (options : Options) (presets : Presets) : Defaults options presets where
  fails_iff := by
    cases named : options.preset with
    | none => simp [merge_unnamed named]
    | some name =>
      rw [merge_named named]
      cases found : presets.get? name <;> simp [found]
  onlyNamed := by
    intro others same
    cases named : options.preset with
    | none => rw [merge_unnamed named, merge_unnamed named]
    | some name => rw [merge_named named, merge_named named, same name named]
  spelledOut := by
    intro name preset named found
    rw [merge_named named, found, merge_spelling]
  given := by
    intro configuration merges
    obtain ⟨preset, rfl⟩ := exists_combined_of_merge merges
    exact given_combined options preset

/-- The name of a preset, and the preset spelled out, come to the options over the preset. -/
theorem sameSpelled {words : List Text} {name : Text} {preset : Preset}
    (accepted : Options.parse words = .ok options)
    (loads : loaded content home options = .ok presets) (found : presets.get? name = some preset) :
    SameSpelled content home words options name preset where
  instead := by
    intro named
    refine ⟨combined options preset, ⟨options, accepted, ?_⟩, fun tokens spells => ?_⟩
    · rw [resolve_of_loaded loads, merge_named named, found]
    · have sayable : (options.spelling preset).Sayable := by
        obtain ⟨files, presets, lists⟩ := Options.sayable_of_parse accepted
        exact ⟨files, presets, lists⟩
      exact configures_spelling loads (spells.parse_eq sayable)
  inFront := by
    intro unnamed
    refine ⟨combined options preset, ⟨options.put name .preset, ?_, ?_⟩, fun tokens spells => ?_⟩
    · have lacks : options.gives .preset = false := by
        rw [Options.gives, unnamed]
        rfl
      refine Options.parse_cons_single accepted lacks ?_
      intro same
      cases same
    · have loads' : loaded content home (options.put name .preset) = .ok presets := loads
      rw [resolve_of_loaded loads', merge_named rfl, found]
      rfl
    · exact configures_spelling loads (Options.parse_missing accepted unnamed spells)

/-- Presets are defaults for what options do not give. Where they are the presets that a run loads,
a command line that names one comes to the configuration that it comes to with the preset spelled
out. -/
theorem presets_are_defaults (options : Options) (presets : Presets) :
    Defaults options presets ∧
      ∀ content home words name preset, Options.parse words = .ok options →
        loaded content home options = .ok presets → presets.get? name = some preset →
          SameSpelled content home words options name preset := by
  refine ⟨defaults options presets, ?_⟩
  intro content home words name preset accepted loads found
  exact sameSpelled accepted loads found

/-- A preset for files in which a semicolon introduces comments, and white space is kept. -/
def indented : Preset :=
  { comment := some ";".toList
    trimWhitespace := some false }

/-- The content of a file that names it. -/
def presetsText : Text :=
  "[indented]\ncomment = ';'\ntrim_whitespace = false\n".toList

/-- It is in every file. -/
def presetsFile (_ : Path) : Option (Except Fault (List UInt8)) :=
  some (.ok (presetsText.map fun c => UInt8.ofNat c.toNat))

theorem loaded_indented (options : Options) (home : Path) :
    loaded presetsFile (some home) options = .ok [("indented".toList, indented)] := by
  have decodes :
      Utf8.decode? (presetsText.map fun c => UInt8.ofNat c.toNat) = some presetsText := by
    decide +kernel
  have parses : Presets.parse? presetsText = some [("indented".toList, indented)] := by
    decide +kernel
  have loads (path : Path) :
      Presets.load path (presetsFile path) = .ok [("indented".toList, indented)] := by
    simp only [Presets.load, presetsFile, decodes, parses]
  cases given : options.presets with
  | none => simp only [loaded, presetsPath, given, loads]
  | some path => simp only [loaded, presetsPath, given, loads]

/-- On a command line that turns comments off, the preset is named, or only the flag is given that
is missing of it. -/
theorem indented_spelled_out :
    let home : Option Path := some ⟨"/root".toList⟩
    let words : List Text := ["/a".toList, "--comment=".toList]
    let named : Options :=
      { files := [⟨"/a".toList⟩], comment := some [], preset := some "indented".toList }
    merge named [("indented".toList, indented)] =
        merge { named with preset := none, noTrim := true } [] ∧
      (∃ configuration,
        Configures presetsFile home
            (words ++ ["--preset".toList, "indented".toList]) configuration ∧
          Configures presetsFile home
            ["--comment=".toList, "--no-trim".toList, "--".toList, "/a".toList] configuration) ∧
      ∃ configuration,
        Configures presetsFile home ("--preset=indented".toList :: words) configuration ∧
          Configures presetsFile home ("--no-trim".toList :: words) configuration := by
  intro home words named
  let plain : Options := { named with preset := none }
  let presets : Presets := [("indented".toList, indented)]
  have found : presets.get? "indented".toList = some indented := rfl
  have accepted : Options.parse words = .ok plain := rfl
  have accepted' :
      Options.parse (words ++ ["--preset".toList, "indented".toList]) = .ok named := rfl
  have defaults := (presets_are_defaults named presets).1
  have within := (presets_are_defaults named presets).2 _ home _ _ _ accepted'
    (loaded_indented _ _) found
  have without := (presets_are_defaults plain presets).2 _ home _ _ _ accepted
    (loaded_indented _ _) found
  refine ⟨defaults.spelledOut _ _ rfl found, ?_, ?_⟩
  · obtain ⟨configuration, named, spelled⟩ := within.instead rfl
    exact ⟨configuration, named, spelled _ (Options.spells_tokens _)⟩
  · obtain ⟨configuration, named, spelled⟩ := without.inFront rfl
    exact ⟨configuration, named, spelled _ (Options.spells_tokens _)⟩

end Configuration

end Splice
