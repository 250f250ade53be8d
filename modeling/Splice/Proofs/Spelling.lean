import Mathlib.Data.List.Induction
import Mathlib.Data.List.Nodup
import Splice.Proofs.CommandLine

/-!
# Spelling options out

What a command line can say is said by tokens, one for each value, flag and pattern, and by the
files behind two hyphens (`spelled_out_means`). The tokens may stand in any order that keeps the
patterns of each list in theirs. Another token for a value that is given, or for a flag that is set,
is refused.

A line of tokens is accepted when nothing is said twice that may be said once, and it then says what
its tokens say (`foldlM_effects`). What this is does not depend on the order of the tokens, but for
the patterns.
-/

namespace Splice

namespace Options

/-! ## What tokens say -/

namespace Token

/-- The value that a token gives to an option. -/
def value? (option : Single) : Token → Option Text
  | .single other value => if option = other then some value else none
  | _ => none

/-- The pattern that a token adds to a list. -/
def pattern? (many : Many) : Token → Option Text
  | .many other pattern => if many = other then some pattern else none
  | _ => none

/-- What a token says that can be said once. -/
def once? : Token → Option (Single ⊕ Flag)
  | .single option _ => some (.inl option)
  | .flag given => some (.inr given)
  | .many _ _ => none

end Token

/-- Whether options mention something that can be said once. -/
def mentions (options : Options) : Single ⊕ Flag → Bool :=
  Sum.elim options.gives options.has

/-- The options with what a token says. -/
def add (options : Options) : Token → Options
  | .single option value => options.put value option
  | .flag flag => options.raise flag
  | .many option pattern => options.extendMany option [pattern]

section

variable (options : Options) (token : Token) (tokens : List Token)

theorem mentions_add (once : Single ⊕ Flag) :
    (options.add token).mentions once =
      (decide (some once = token.once?) || options.mentions once) := by
  cases token with
  | single option value =>
    cases once with
    | inl other =>
      simp only [mentions, add, Sum.elim_inl, gives_eq, value?_put, Token.once?,
        Option.some.injEq, Sum.inl.injEq]
      by_cases same : other = option <;> simp [same]
    | inr flag => simp [mentions, add, Token.once?]
  | flag given => cases once <;> simp [mentions, add, Token.once?]
  | many many pattern => cases once <;> simp [mentions, add, Token.once?]

theorem value?_add (option : Single) :
    (options.add token).value? option = (token.value? option).or (options.value? option) := by
  cases token with
  | single other value =>
    rw [add, value?_put, Token.value?]
    split <;> rfl
  | flag given => simp [add, Token.value?]
  | many many pattern => simp [add, Token.value?]

theorem list?_add (many : Many) :
    (options.add token).list? many =
      match token.pattern? many with
      | none => options.list? many
      | some pattern => some ((options.list? many).getD [] ++ [pattern]) := by
  cases token with
  | single option value => simp [add, Token.pattern?]
  | flag given => simp [add, Token.pattern?]
  | many other pattern =>
    rw [add, list?_extendMany, Token.pattern?]
    split <;> rfl

@[simp] theorem files_add : (options.add token).files = options.files := by
  cases token <;> simp [add]

theorem mentions_foldl (once : Single ⊕ Flag) :
    (tokens.foldl add options).mentions once = true ↔
      once ∈ tokens.filterMap Token.once? ∨ options.mentions once = true := by
  induction tokens generalizing options with
  | nil => simp
  | cons token rest ih =>
    rw [List.foldl_cons, ih, mentions_add, List.filterMap_cons]
    cases token.once? with
    | none => simp
    | some other =>
      simp only [Option.some.injEq, Bool.or_eq_true, decide_eq_true_eq, List.mem_cons]
      rw [or_left_comm, or_assoc]

/-- The last value counts. -/
theorem value?_foldl (option : Single) :
    (tokens.foldl add options).value? option =
      (tokens.filterMap (·.value? option)).getLast?.or (options.value? option) := by
  induction tokens generalizing options with
  | nil => simp
  | cons token rest ih =>
    rw [List.foldl_cons, ih, value?_add, List.filterMap_cons]
    cases token.value? option <;> simp [List.getLast?_cons]

/-- Patterns are added in their order. -/
theorem list?_foldl (many : Many) :
    (tokens.foldl add options).list? many =
      if tokens.filterMap (·.pattern? many) = [] then options.list? many
      else some ((options.list? many).getD [] ++ tokens.filterMap (·.pattern? many)) := by
  induction tokens generalizing options with
  | nil => simp
  | cons token rest ih =>
    rw [List.foldl_cons, ih, list?_add, List.filterMap_cons]
    cases token.pattern? many <;> simp

@[simp] theorem files_foldl : (tokens.foldl add options).files = options.files := by
  induction tokens generalizing options with
  | nil => rfl
  | cons token rest ih => rw [List.foldl_cons, ih, files_add]

end

/-- A token is refused where it repeats something that can be said once. -/
theorem after_effect (options : Options) {token : Token} (proper : token ≠ .single .presets []) :
    options.after token.effect =
      if token.once?.any options.mentions then .error .argumentConflict
      else .ok (options.add token) := by
  cases token with
  | single option value =>
    have proper' : ¬(option = .presets ∧ value = []) := by
      rintro ⟨rfl, rfl⟩
      exact proper rfl
    rw [Token.effect, after, settle, setSingle_eq, if_neg proper']
    rfl
  | flag flag => exact setFlag_eq options flag
  | many option pattern => rfl

section

variable {tokens : List Token} {token : Token}

/-- Tokens mention what they say. -/
theorem mentions_foldl_iff (tokens : List Token) (once : Single ⊕ Flag) :
    (tokens.foldl add {}).mentions once = true ↔ once ∈ tokens.filterMap Token.once? := by
  have silent : mentions {} once = false := by
    rcases once with option | flag
    · cases option <;> rfl
    · cases flag <;> rfl
  rw [mentions_foldl, silent]
  simp

/-- One more token says nothing twice if it says nothing that the others mention. -/
theorem nodup_concat_iff (distinct : (tokens.filterMap Token.once?).Nodup) :
    ((tokens ++ [token]).filterMap Token.once?).Nodup ↔
      ¬token.once?.any (tokens.foldl add {}).mentions = true := by
  have alone : [token].filterMap Token.once? = token.once?.toList := by
    cases token <;> rfl
  rw [List.filterMap_append, alone]
  cases token.once? with
  | none => simpa using distinct
  | some once =>
    rw [List.nodup_append_comm, Option.toList_some, List.singleton_append, List.nodup_cons,
      Option.any_some, mentions_foldl_iff]
    exact and_iff_left distinct

/-- A line of tokens is accepted when nothing is said twice that can be said once. -/
theorem foldlM_effects (proper : .single .presets [] ∉ tokens) :
    (tokens.map Token.effect).foldlM after {} =
      if (tokens.filterMap Token.once?).Nodup then .ok (tokens.foldl add {})
      else .error .argumentConflict := by
  induction tokens using List.reverseRecOn with
  | nil => rfl
  | append_singleton tokens token ih =>
    obtain ⟨proper, proper'⟩ : .single .presets [] ∉ tokens ∧ token ≠ .single .presets [] := by
      simpa [eq_comm] using proper
    rw [List.map_append, List.foldlM_append, ih proper]
    by_cases distinct : (tokens.filterMap Token.once?).Nodup
    · have last : List.foldlM after (tokens.foldl add {}) ([token].map Token.effect) =
          (tokens.foldl add {}).after token.effect := bind_pure _
      rw [if_pos distinct, List.foldl_append]
      change List.foldlM after (tokens.foldl add {}) ([token].map Token.effect) = _
      rw [last, after_effect _ proper', if_congr (nodup_concat_iff distinct) rfl rfl, ite_not]
      rfl
    · rw [if_neg distinct, List.filterMap_append,
        if_neg fun both => distinct (List.Nodup.of_append_left both)]
      rfl

end

/-! ## Files behind two hyphens -/

/-- A command line of tokens, with files behind two hyphens. -/
def line (tokens : List Token) (files : List Path) : List Text :=
  tokens.map Token.word ++ ['-', '-'] :: files.map Path.text

/-- Behind two hyphens, all words are files. -/
theorem foldlM_filesOnly (options : Options) (values words : List Text) :
    (words.foldlM Reading.readWord
        { options, pending := some (.files, values), filesOnly := true } >>= Reading.settled) =
      options.settle .files (values ++ words) := by
  induction words generalizing values with
  | nil =>
    rw [List.append_nil]
    rfl
  | cons word rest ih =>
    rw [List.foldlM_cons, List.append_cons]
    exact ih (values ++ [word])

/-- Tokens are read first, and the files are added to what they say. -/
theorem parse_line (tokens : List Token) (files : List Path) :
    parse (line tokens files) =
      (tokens.map Token.effect).foldlM after {} >>= fun options =>
        options.settle .files (files.map Path.text) := by
  rw [parse, line, List.foldlM_append, foldlM_words]
  cases (tokens.map Token.effect).foldlM after {} with
  | error error => rfl
  | ok options =>
    change ((files.map Path.text).foldlM Reading.readWord { options, filesOnly := true } >>=
      Reading.settled) = options.settle .files (files.map Path.text)
    cases files.map Path.text with
    | nil =>
      have unchanged : options.settle .files [] = .ok options := by
        simp [settle]
      exact unchanged.symm
    | cons file rest => exact foldlM_filesOnly options [file] rest

/-! ## What can be said -/

/-- Options that a command line can mean. Files and the file with the presets have names, and a list
option that is given has values. -/
structure Sayable (options : Options) : Prop where
  files : ∀ file ∈ options.files, file.text ≠ []
  presets : options.value? .presets ≠ some []
  lists : ∀ many, options.list? many ≠ some []

/-- What follows on options that can be said can be said. -/
theorem Follows.sayable {options next : Options} {effect : Effect}
    (follows : Follows options effect next) (sayable : options.Sayable) : next.Sayable := by
  obtain ⟨files, presets, lists⟩ := sayable
  obtain ⟨named⟩ | @⟨option, value, rest, new, proper⟩ | @⟨many, values, some⟩ | ⟨new⟩ := follows
  · refine ⟨fun file isIn => ?_, by simpa using presets, by simpa using lists⟩
    simp only [files_name, List.mem_append, List.mem_map] at isIn
    obtain isIn | ⟨text, isIn, rfl⟩ := isIn
    · exact files file isIn
    · exact ne_of_mem_of_not_mem isIn named
  · refine ⟨by simpa using files, ?_, by simpa using lists⟩
    rw [value?_put]
    split
    · next same => simpa using proper same.symm
    · exact presets
  · refine ⟨by simpa using files, by simpa using presets, fun many' => ?_⟩
    rw [list?_extendMany]
    split
    · simp [some]
    · exact lists many'
  · exact ⟨by simpa using files, by simpa using presets, by simpa using lists⟩

/-- What a command line means can be said. -/
theorem sayable_of_parse {words : List Text} {options : Options}
    (accepted : parse words = .ok options) : options.Sayable := by
  have kept (effects : List Effect) (options last : Options) (sayable : options.Sayable)
      (acts : effects.foldlM after options = .ok last) : last.Sayable := by
    induction effects generalizing options with
    | nil =>
      cases acts
      exact sayable
    | cons effect rest ih =>
      rw [List.foldlM_cons] at acts
      obtain ⟨next, first, others⟩ := exists_of_bind_eq_ok acts
      exact ih next ((follows_of_after first).sayable sayable) others
  obtain ⟨effects, acts⟩ := parse_acts words
  refine kept effects {} options ⟨nofun, nofun, ?_⟩ ((acts {}).symm.trans accepted)
  rintro (_ | _)
  · exact nofun
  · exact nofun

/-! ## Saying it -/

/-- The options with one value. -/
def singles : List Single :=
  [.preset, .presets, .description, .comment, .includeMarker]

/-- The flags. -/
def flags : List Flag :=
  [.keepBlankLines, .noTrim, .check, .stats]

/-- Tokens for what options say, in one of the orders that they may stand in. -/
def tokens (options : Options) : List Token :=
  singles.filterMap (fun option => (options.value? option).map (.single option))
    ++ (flags.filter options.has).map .flag
    ++ [.glob, .exclude].flatMap fun many => ((options.list? many).getD []).map (.many many)

/-- Tokens spell options out. -/
structure Spells (tokens : List Token) (options : Options) : Prop where
  /-- There is one token for each value, flag and pattern, and no other. -/
  reordered : tokens.Perm options.tokens
  /-- The patterns of each list are in their order. -/
  inOrder : ∀ many, tokens.filterMap (·.pattern? many) = (options.list? many).getD []

section

variable (options : Options)

/-- What is said by the tokens of options, kind by kind. -/
theorem filterMap_tokens {α : Type} (view : Token → Option α) :
    options.tokens.filterMap view =
      singles.filterMap (fun option => (options.value? option).bind fun value =>
        view (.single option value))
      ++ (flags.filter options.has).filterMap (fun flag => view (.flag flag))
      ++ [.glob, .exclude].flatMap fun many =>
        ((options.list? many).getD []).filterMap fun pattern => view (.many many pattern) := by
  simp only [tokens, List.filterMap_append, List.filterMap_filterMap, List.filterMap_map,
    List.filterMap_flatMap, Option.bind_map]
  rfl

/-- Its value is said for each option. -/
theorem value?_tokens (option : Single) :
    options.tokens.filterMap (·.value? option) = (options.value? option).toList := by
  rw [filterMap_tokens]
  cases option <;> simp [singles, Token.value?, List.filterMap_cons] <;> rfl

/-- The patterns of each list are said in their order. -/
theorem pattern?_tokens (many : Many) :
    options.tokens.filterMap (·.pattern? many) = (options.list? many).getD [] := by
  rw [filterMap_tokens]
  cases many <;> simp [Token.pattern?]

/-- Of what can be said once, that is said which the options mention. -/
theorem once?_tokens :
    options.tokens.filterMap Token.once? =
      (singles.filter options.gives).map .inl ++ (flags.filter options.has).map .inr := by
  have given (options' : List Single) :
      options'.filterMap (fun option => (options.value? option).bind fun value =>
        Token.once? (.single option value)) = (options'.filter options.gives).map .inl := by
    induction options' with
    | nil => rfl
    | cons option rest ih =>
      rw [List.filterMap_cons, ih, List.filter_cons, gives_eq]
      cases options.value? option <;> rfl
  rw [filterMap_tokens, given]
  simp [Token.once?]

/-- The tokens of options spell them out. -/
theorem spells_tokens : Spells options.tokens options where
  reordered := .refl _
  inOrder := options.pattern?_tokens

end

namespace Spells

variable {options : Options} {tokens : List Token}

/-- The value of each option is said, and no other. -/
theorem filterMap_value? (spells : Spells tokens options) (option : Single) :
    tokens.filterMap (·.value? option) = (options.value? option).toList := by
  have same := spells.reordered.filterMap (·.value? option)
  rw [options.value?_tokens] at same
  cases given : options.value? option with
  | none =>
    rw [given] at same
    exact same.eq_nil
  | some value =>
    rw [given] at same
    exact List.perm_singleton.1 same

/-- Nothing is said twice that can be said once. -/
theorem nodup_once? (spells : Spells tokens options) : (tokens.filterMap Token.once?).Nodup := by
  have distinct : singles.Nodup ∧ flags.Nodup := by decide
  rw [(spells.reordered.filterMap Token.once?).nodup_iff, once?_tokens]
  refine List.Nodup.append ((distinct.1.filter _).map fun _ _ => Sum.inl.inj)
    ((distinct.2.filter _).map fun _ _ => Sum.inr.inj) ?_
  rintro _ option flag
  obtain ⟨_, _, rfl⟩ := List.mem_map.1 option
  obtain ⟨_, _, same⟩ := List.mem_map.1 flag
  cases same

/-- Said is what the options mention. -/
theorem mem_once?_iff (spells : Spells tokens options) (once : Single ⊕ Flag) :
    once ∈ tokens.filterMap Token.once? ↔ options.mentions once = true := by
  have option (option : Single) : option ∈ singles := by cases option <;> decide
  have flag (flag : Flag) : flag ∈ flags := by cases flag <;> decide
  rw [(spells.reordered.filterMap Token.once?).mem_iff, once?_tokens]
  cases once <;> simp [mentions, option, flag]

/-- No token lacks what it needs. -/
theorem proper (spells : Spells tokens options) (sayable : options.Sayable) :
    .single .presets [] ∉ tokens := by
  intro improper
  have said : [] ∈ tokens.filterMap (·.value? .presets) :=
    List.mem_filterMap.2 ⟨_, improper, rfl⟩
  rw [spells.filterMap_value?, Option.mem_toList] at said
  exact sayable.presets said

/-- Together, the tokens say what the options say, but for the files. -/
theorem foldl_add (spells : Spells tokens options) (sayable : options.Sayable) :
    tokens.foldl add {} = { options with files := [] } := by
  refine ext_of_views (files_foldl _ _) (fun option => ?_) (fun flag => ?_) (fun many => ?_)
  · have without : value? {} option = none := by cases option <;> rfl
    have within : value? { options with files := [] } option = options.value? option := by
      cases option <;> rfl
    rw [value?_foldl, spells.filterMap_value?, without, within]
    cases options.value? option <;> rfl
  · have within : has { options with files := [] } flag = options.has flag := by
      cases flag <;> rfl
    have said := mentions_foldl_iff tokens (.inr flag)
    rw [spells.mem_once?_iff] at said
    rw [within, Bool.eq_iff_iff]
    exact said
  · have without : list? {} many = none := by cases many <;> rfl
    have within : list? { options with files := [] } many = options.list? many := by
      cases many <;> rfl
    have some := sayable.lists many
    rw [list?_foldl, spells.inOrder, without, within]
    cases given : options.list? many with
    | none => rfl
    | some patterns =>
      rw [given] at some
      exact if_neg fun none => some (congrArg _ none)

/-- The tokens and the files are read as the options. -/
theorem parse_eq (spells : Spells tokens options) (sayable : options.Sayable) :
    parse (line tokens options.files) = .ok options := by
  have named : [] ∉ options.files.map Path.text := by
    intro nameless
    obtain ⟨file, isIn, empty⟩ := List.mem_map.1 nameless
    exact sayable.files file isIn empty
  have same : options.files.map (Path.mk ∘ Path.text) = options.files := List.map_id _
  rw [parse_line, foldlM_effects (spells.proper sayable), if_pos spells.nodup_once?,
    spells.foldl_add sayable]
  change settle { options with files := [] } .files (options.files.map Path.text) = _
  rw [settle, if_neg named, List.map_map, same]
  rfl

end Spells

/-- A token that says once more what the options mention. -/
def Token.Repeats (options : Options) : Token → Prop
  | .single option value => options.gives option = true ∧ value ≠ []
  | .flag given => options.has given = true
  | .many _ _ => False

/-- Such a token is refused, wherever it stands. -/
theorem Spells.parse_repeated {options : Options} {before after : List Token} {again : Token}
    (spells : Spells (before ++ after) options) (sayable : options.Sayable)
    (repeats : again.Repeats options) (files : List Path) :
    parse (line (before ++ again :: after) files) = .error .argumentConflict := by
  obtain ⟨once, known, said⟩ : ∃ once, again.once? = some once ∧ options.mentions once = true := by
    cases again with
    | single option value => exact ⟨_, rfl, repeats.1⟩
    | flag given => exact ⟨_, rfl, repeats⟩
    | many many pattern => cases repeats
  have proper : .single .presets [] ∉ before ++ again :: after := by
    have others := spells.proper sayable
    have another : again ≠ .single .presets [] := by
      rintro rfl
      exact repeats.2 rfl
    simp only [List.mem_append, List.mem_cons, not_or] at others ⊢
    exact ⟨others.1, another.symm, others.2⟩
  have twice : ¬((before ++ again :: after).filterMap Token.once?).Nodup := by
    rw [(List.perm_middle.filterMap Token.once?).nodup_iff, List.filterMap_cons_some known,
      List.nodup_cons, spells.mem_once?_iff]
    exact fun distinct => distinct.1 said
  rw [parse_line, foldlM_effects proper, if_neg twice]
  rfl

/-- Options that can be said are said by their tokens, in any order that keeps the patterns of each
list in theirs, and by the files behind two hyphens. One more token for a value that is given, or
for a flag that is set, is an error wherever it stands. -/
theorem spelled_out_means {options : Options} (sayable : options.Sayable) :
    Spells options.tokens options ∧
      ∀ tokens, Spells tokens options →
        parse (line tokens options.files) = .ok options ∧
          ∀ before again after, tokens = before ++ after → again.Repeats options →
            parse (line (before ++ again :: after) options.files) = .error .argumentConflict := by
  refine ⟨options.spells_tokens, fun tokens spells => ⟨spells.parse_eq sayable, ?_⟩⟩
  rintro before again after rfl repeats
  exact spells.parse_repeated sayable repeats options.files

/-- Values that are empty, begin with hyphens or are the names of options, spelled out in an order
of their own; and with the presets named again. -/
theorem hostile_spelled_out :
    let hostile : Options :=
      { files := [⟨"--".toList⟩, ⟨"--check".toList⟩]
        preset := some "--presets".toList
        presets := some ⟨"preset=".toList⟩
        description := some []
        comment := some "-".toList
        noTrim := true
        stats := true
        glob := some ["b".toList, [], "--exclude".toList]
        exclude := some ["--".toList] }
    let opening := ["--glob=b", "--stats", "--presets=preset=", "--glob=", "--exclude=--"]
    let closing := ["--comment=-", "--glob=--exclude", "--preset=--presets", "--no-trim",
      "--description=", "--", "--", "--check"]
    parse ((opening ++ closing).map String.toList) = .ok hostile ∧
      parse ((opening ++ "--presets=x" :: closing).map String.toList) =
        .error .argumentConflict := by
  intro hostile opening closing
  let before : List Token := [.many .glob "b".toList, .flag .stats,
    .single .presets "preset=".toList, .many .glob [], .many .exclude "--".toList]
  let after : List Token := [.single .comment "-".toList, .many .glob "--exclude".toList,
    .single .preset "--presets".toList, .flag .noTrim, .single .description []]
  have sayable : hostile.Sayable := by
    refine ⟨by decide, by decide, ?_⟩
    rintro (_ | _)
    · decide
    · decide
  have spells : Spells (before ++ after) hostile := by
    refine ⟨by decide, ?_⟩
    rintro (_ | _)
    · decide
    · decide
  obtain ⟨means, refused⟩ := (spelled_out_means sayable).2 _ spells
  exact ⟨means, refused before (.single .presets ['x']) after rfl ⟨rfl, by decide⟩⟩

end Options

end Splice
