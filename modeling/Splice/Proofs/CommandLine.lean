import Splice.Options

/-!
# Command lines

Words that stand by themselves (`Token`): an option with its value attached, or a flag. A line of
tokens is read one token after the other, each of them changing what has been said so far
(`foldlM_words`).

A token for a single value or a flag may also be put in front of any command line that does not give
it, and then it does what it says: the command line is accepted as before, and says what it said
with the token's part added (`parse_cons_single`, `parse_cons_flag`). Words are read one by one, and
what they do does not depend on what has been said before (`parse_acts`). So it is enough that what
is said in advance goes along with everything that a word can do (`Ahead`).
-/

namespace Splice

/-- What is computed in two steps is computed by the second from what the first answers. -/
theorem exists_of_bind_eq_ok {ε α β : Type} {first : Except ε α} {second : α → Except ε β}
    {answer : β} (computes : (first >>= second) = .ok answer) :
    ∃ middle, first = .ok middle ∧ second middle = .ok answer := by
  cases first with
  | error error => cases computes
  | ok middle => exact ⟨middle, rfl, computes⟩

namespace Options

/-! ## What options say -/

/-- Whether a flag is set. -/
def has (options : Options) : Flag → Bool
  | .keepBlankLines => options.keepBlankLines
  | .noTrim => options.noTrim
  | .check => options.check
  | .stats => options.stats

/-- The options with a flag set. -/
def raise (options : Options) : Flag → Options
  | .keepBlankLines => { options with keepBlankLines := true }
  | .noTrim => { options with noTrim := true }
  | .check => { options with check := true }
  | .stats => { options with stats := true }

/-- Whether an option has its value. -/
def gives (options : Options) : Single → Bool
  | .preset => options.preset.isSome
  | .presets => options.presets.isSome
  | .description => options.description.isSome
  | .comment => options.comment.isSome
  | .includeMarker => options.includeMarker.isSome

/-- The options with a value for one of them. -/
def put (options : Options) (value : Text) : Single → Options
  | .preset => { options with preset := some value }
  | .presets => { options with presets := some ⟨value⟩ }
  | .description => { options with description := some value }
  | .comment => { options with comment := some value }
  | .includeMarker => { options with includeMarker := some value }

/-- The value of an option. -/
def value? (options : Options) : Single → Option Text
  | .preset => options.preset
  | .presets => options.presets.map Path.text
  | .description => options.description
  | .comment => options.comment
  | .includeMarker => options.includeMarker

/-- The values of a list option. -/
def list? (options : Options) : Many → Option (List Text)
  | .glob => options.glob
  | .exclude => options.exclude

/-- The options with further files. -/
def name (options : Options) (files : List Text) : Options :=
  { options with files := options.files ++ files.map Path.mk }

section

variable (options : Options) (option other : Single) (flag flag' : Flag) (many many' : Many)
  (value : Text) (values files : List Text)

@[simp] theorem gives_eq : options.gives option = (options.value? option).isSome := by
  cases option <;> simp [gives, value?]

@[simp] theorem has_raise :
    (options.raise flag).has flag' = (decide (flag' = flag) || options.has flag') := by
  cases flag <;> cases flag' <;> rfl

@[simp] theorem has_put : (options.put value option).has flag = options.has flag := by
  cases option <;> cases flag <;> rfl

@[simp] theorem has_extendMany : (options.extendMany many values).has flag = options.has flag := by
  cases many <;> cases flag <;> rfl

@[simp] theorem has_name : (options.name files).has flag = options.has flag := by
  cases flag <;> rfl

@[simp] theorem value?_raise : (options.raise flag).value? option = options.value? option := by
  cases flag <;> cases option <;> rfl

@[simp] theorem value?_put :
    (options.put value option).value? other =
      if other = option then some value else options.value? other := by
  cases option <;> cases other <;> rfl

@[simp] theorem value?_extendMany :
    (options.extendMany many values).value? option = options.value? option := by
  cases many <;> cases option <;> rfl

@[simp] theorem value?_name : (options.name files).value? option = options.value? option := by
  cases option <;> rfl

@[simp] theorem list?_raise : (options.raise flag).list? many = options.list? many := by
  cases flag <;> cases many <;> rfl

@[simp] theorem list?_put : (options.put value option).list? many = options.list? many := by
  cases option <;> cases many <;> rfl

@[simp] theorem list?_extendMany :
    (options.extendMany many values).list? many' =
      if many' = many then some ((options.list? many').getD [] ++ values)
      else options.list? many' := by
  cases many <;> cases many' <;> rfl

@[simp] theorem list?_name : (options.name files).list? many = options.list? many := by
  cases many <;> rfl

@[simp] theorem files_raise : (options.raise flag).files = options.files := by
  cases flag <;> rfl

@[simp] theorem files_put : (options.put value option).files = options.files := by
  cases option <;> rfl

@[simp] theorem files_extendMany : (options.extendMany many values).files = options.files := by
  cases many <;> rfl

@[simp] theorem files_name :
    (options.name files).files = options.files ++ files.map Path.mk := rfl

/-! It does not matter what is said first, unless two values are for the same option. -/

theorem raise_raise : (options.raise flag).raise flag' = (options.raise flag').raise flag := by
  cases flag <;> cases flag' <;> rfl

theorem put_raise :
    (options.raise flag).put value option = (options.put value option).raise flag := by
  cases flag <;> cases option <;> rfl

theorem extendMany_raise :
    (options.raise flag).extendMany many values = (options.extendMany many values).raise flag := by
  cases flag <;> cases many <;> rfl

theorem name_raise : (options.raise flag).name files = (options.name files).raise flag := by
  cases flag <;> rfl

variable {option other} in
theorem put_put (differ : other ≠ option) (value' : Text) :
    (options.put value option).put value' other = (options.put value' other).put value option := by
  cases option <;> cases other <;> simp [put] at differ ⊢

theorem extendMany_put :
    (options.put value option).extendMany many values =
      (options.extendMany many values).put value option := by
  cases option <;> cases many <;> rfl

theorem name_put :
    (options.put value option).name files = (options.name files).put value option := by
  cases option <;> rfl

end

/-- Options are known by what they say. -/
theorem ext_of_views {options other : Options} (files : options.files = other.files)
    (value? : ∀ option, options.value? option = other.value? option)
    (has : ∀ flag, options.has flag = other.has flag)
    (list? : ∀ many, options.list? many = other.list? many) : options = other := by
  have presets : options.presets = other.presets :=
    Option.map_injective (fun _ _ => congrArg Path.mk) (value? .presets)
  obtain ⟨_, _, _, _, _, _, _, _, _, _, _, _⟩ := options
  obtain ⟨_, _, _, _, _, _, _, _, _, _, _, _⟩ := other
  obtain rfl := files
  obtain rfl := value? .preset
  obtain rfl := presets
  obtain rfl := value? .description
  obtain rfl := value? .comment
  obtain rfl := value? .includeMarker
  obtain rfl := has .keepBlankLines
  obtain rfl := has .noTrim
  obtain rfl := has .check
  obtain rfl := has .stats
  obtain rfl := list? .glob
  obtain rfl := list? .exclude
  rfl

/-! ## What a word does -/

/-- What a word does to options. -/
inductive Effect where
  /-- Values are taken over for a target. -/
  | settle (target : Target) (values : List Text)
  /-- A flag is set. -/
  | raise (flag : Flag)
  /-- The command line is refused. -/
  | refuse (error : UsageError)

/-- The options after an effect. -/
def after (options : Options) : Effect → Except UsageError Options
  | .settle target values => options.settle target values
  | .raise flag => options.setFlag flag
  | .refuse error => .error error

/-- How options follow on others. -/
inductive Follows (options : Options) : Effect → Options → Prop where
  /-- Files have names. -/
  | files {files : List Text} (named : [] ∉ files) :
      Follows options (.settle .files files) (options.name files)
  /-- An option has one value. That of the file with the presets is not empty. -/
  | single {option : Single} {value : Text} {rest : List Text} (new : options.gives option = false)
      (proper : option = .presets → value ≠ []) :
      Follows options (.settle (.single option) (value :: rest)) (options.put value option)
  /-- A list option has some values. -/
  | many {option : Many} {values : List Text} (some : values ≠ []) :
      Follows options (.settle (.many option) values) (options.extendMany option values)
  /-- A flag is set once. -/
  | flag {flag : Flag} (new : options.has flag = false) :
      Follows options (.raise flag) (options.raise flag)

/-- A value can be set once, and only one of them may not be empty. -/
theorem setSingle_eq (options : Options) (option : Single) (value : Text) :
    options.setSingle option value =
      if options.gives option then .error .argumentConflict
      else if option = .presets ∧ value = [] then .error .invalidValue
      else .ok (options.put value option) := by
  cases option <;> simp [setSingle, gives, put]

/-- A flag can be set once. -/
theorem setFlag_eq (options : Options) (flag : Flag) :
    options.setFlag flag =
      if options.has flag then .error .argumentConflict else .ok (options.raise flag) := by
  cases flag <;> rfl

section

variable {options next : Options} {effect : Effect}

/-- Where an effect is accepted, options follow. -/
theorem follows_of_after (accepted : options.after effect = .ok next) :
    Follows options effect next := by
  cases effect with
  | settle target values =>
    cases target with
    | files =>
      simp only [after, settle] at accepted
      split at accepted
      · cases accepted
      · next named =>
        cases accepted
        exact .files named
    | single option =>
      cases values with
      | nil => cases accepted
      | cons value rest =>
        simp only [after, settle, setSingle_eq] at accepted
        split at accepted
        · cases accepted
        · next new =>
          split at accepted
          · cases accepted
          · next proper =>
            cases accepted
            exact .single (Bool.eq_false_iff.2 new) fun same empty => proper ⟨same, empty⟩
    | many option =>
      cases values with
      | nil => cases accepted
      | cons value rest =>
        cases accepted
        exact .many (List.cons_ne_nil _ _)
  | raise flag =>
    simp only [after, setFlag_eq] at accepted
    split at accepted
    · cases accepted
    · next new =>
      cases accepted
      exact .flag (Bool.eq_false_iff.2 new)
  | refuse error => cases accepted

/-- Where options follow, the effect is accepted. -/
theorem Follows.after_eq (follows : Follows options effect next) :
    options.after effect = .ok next := by
  obtain ⟨named⟩ | ⟨new, proper⟩ | @⟨option, values, some⟩ | ⟨new⟩ := follows
  · exact if_neg named
  · rw [after, settle, setSingle_eq, new, if_neg Bool.false_ne_true, if_neg fun both =>
      proper both.1 both.2]
  · obtain ⟨value, rest, rfl⟩ := List.exists_cons_of_ne_nil some
    rfl
  · rw [after, setFlag_eq, new, if_neg Bool.false_ne_true]

end

/-! ## Words and what has been said before them -/

namespace Reading

/-- The reading with other options. -/
def saying (reading : Reading) (options : Options) : Reading :=
  { reading with options }

/-- A step of reading acts: its effects, and how the reading goes on, do not depend on what has been
said so far. -/
def Acts (step : Options → Except UsageError Reading) : Prop :=
  ∃ effects next, ∀ options,
    step options = List.foldlM after options effects >>= fun options => .ok (saying next options)

/-- A step that changes no options. -/
theorem Acts.keeping (next : Reading) : Acts fun options => .ok (next.saying options) :=
  ⟨[], next, fun _ => rfl⟩

/-- A step that ends the reading. -/
theorem Acts.refusing (error : UsageError) : Acts fun _ => .error error :=
  ⟨[.refuse error], {}, fun _ => rfl⟩

/-- A step after an effect. -/
theorem Acts.after {step : Options → Except UsageError Reading} (effect : Effect)
    (acts : Acts step) : Acts fun options => options.after effect >>= step := by
  obtain ⟨effects, next, onward⟩ := acts
  refine ⟨effect :: effects, next, fun options => ?_⟩
  rw [List.foldlM_cons, bind_assoc]
  exact congrArg _ (funext onward)

/-- What is pending is an effect, if there is something. -/
theorem settled_saying (reading : Reading) :
    ∃ effects, ∀ options,
      (reading.saying options).settled = List.foldlM Options.after options effects := by
  obtain ⟨_, _ | ⟨target, values⟩, _, _⟩ := reading
  · exact ⟨[], fun _ => rfl⟩
  · refine ⟨[.settle target values], fun options => ?_⟩
    rw [List.foldlM_cons]
    exact (bind_pure _).symm

/-- A step after what is pending is taken over. -/
theorem Acts.settled {step : Options → Except UsageError Reading} (reading : Reading)
    (acts : Acts step) : Acts fun options => (reading.saying options).settled >>= step := by
  obtain ⟨pending, settles⟩ := reading.settled_saying
  obtain ⟨effects, next, onward⟩ := acts
  refine ⟨pending ++ effects, next, fun options => ?_⟩
  dsimp only
  rw [settles, List.foldlM_append, bind_assoc]
  exact congrArg _ (funext onward)

theorem readOption_acts (reading : Reading) (name : Text) (attached : Option Text) :
    Acts fun options => (reading.saying options).readOption name attached := by
  unfold readOption
  cases meaning? name with
  | none => exact .refusing _
  | some meaning =>
    cases meaning with
    | takes target =>
      cases attached with
      | some value =>
        exact .settled reading
          (.after (.settle target [value]) (.keeping (reading.proceed {})))
      | none =>
        exact .settled reading
          (.keeping { reading with pending := some (target, []), collecting := true })
    | flag flag =>
      cases attached with
      | some value => exact .refusing _
      | none => exact .settled reading (.after (.raise flag) (.keeping (reading.proceed {})))
    | asks answer =>
      cases attached with
      | some value => exact .refusing _
      | none => exact .settled reading (.refusing answer)

theorem readLetter_acts (reading : Reading) (letter : Char) :
    Acts fun options => (reading.saying options).readLetter letter := by
  unfold readLetter
  cases letterMeaning? letter with
  | none => exact .refusing _
  | some answer => exact .settled reading (.refusing answer)

theorem readFile_acts (reading : Reading) (word : Text) :
    Acts fun options => (reading.saying options).readFile word := by
  have begun : Acts fun options => (reading.saying options).settled >>= fun options => Except.ok
      { reading with options, pending := some (.files, [word]), collecting := false } :=
    .settled reading
      (.keeping { reading with pending := some (.files, [word]), collecting := false })
  obtain ⟨said, pending, collecting, filesOnly⟩ := reading
  obtain _ | ⟨_ | _ | _, values⟩ := pending
  · exact begun
  · exact .keeping ⟨said, some (.files, values ++ [word]), collecting, filesOnly⟩
  · exact begun
  · exact begun

/-- Every word acts. -/
theorem readWord_acts (reading : Reading) (word : Text) :
    Acts fun options => (reading.saying options).readWord word := by
  have filesOnly (options : Options) : (reading.saying options).filesOnly = reading.filesOnly := rfl
  have pending (options : Options) : (reading.saying options).pending = reading.pending := rfl
  have collecting (options : Options) : (reading.saying options).collecting = reading.collecting :=
    rfl
  unfold readWord
  simp only [filesOnly, pending, collecting]
  split
  · exact readFile_acts reading word
  · split
    · exact .keeping { reading with filesOnly := true }
    · split
      · exact readOption_acts reading _ _
      · exact readOption_acts reading _ _
    · exact readLetter_acts reading _
    · split
      · next target values _ _ => exact .keeping (reading.readValue target values word)
      · exact readFile_acts reading word

/-- So does what is left of a command line. -/
theorem foldlM_acts (reading : Reading) (words : List Text) :
    ∃ effects, ∀ options, (words.foldlM readWord (reading.saying options) >>= settled) =
      List.foldlM Options.after options effects := by
  induction words generalizing reading with
  | nil => exact reading.settled_saying
  | cons word rest ih =>
    obtain ⟨first, next, reads⟩ := reading.readWord_acts word
    obtain ⟨others, onward⟩ := ih next
    refine ⟨first ++ others, fun options => ?_⟩
    dsimp only at reads
    rw [List.foldlM_cons, reads, List.foldlM_append, bind_assoc, bind_assoc]
    exact congrArg _ (funext onward)

end Reading

/-- What a command line does does not depend on what has been said before it. -/
theorem parse_acts (words : List Text) :
    ∃ effects, ∀ options, (words.foldlM Reading.readWord { options } >>= Reading.settled) =
      List.foldlM after options effects :=
  Reading.foldlM_acts {} words

/-! ## What can be said in advance -/

/-- A change of options that can be made in advance, as long as what it adds is lacking afterwards:
every effect is as it was. -/
def Ahead (change : Options → Options) (lacks : Options → Prop) : Prop :=
  ∀ ⦃options effect next⦄, Follows options effect next → lacks next →
    lacks options ∧ Follows (change options) effect (change next)

/-- A flag can be set in advance. -/
theorem ahead_raise (flag : Flag) : Ahead (·.raise flag) (·.has flag = false) := by
  rintro options _ _ (⟨named⟩ | ⟨new, proper⟩ | ⟨some⟩ | @⟨flag', new⟩) lacking
  · refine ⟨by simpa using lacking, ?_⟩
    dsimp only
    rw [← name_raise]
    exact .files named
  · refine ⟨by simpa using lacking, ?_⟩
    dsimp only
    rw [← put_raise]
    exact .single (by simpa using new) proper
  · refine ⟨by simpa using lacking, ?_⟩
    dsimp only
    rw [← extendMany_raise]
    exact .many some
  · obtain ⟨differ, lacks⟩ : ¬ flag = flag' ∧ options.has flag = false := by simpa using lacking
    refine ⟨lacks, ?_⟩
    dsimp only
    rw [← raise_raise]
    exact .flag (by simpa [new] using Ne.symm differ)

/-- The value of an option can be given in advance. -/
theorem ahead_put (option : Single) (value : Text) :
    Ahead (·.put value option) (·.gives option = false) := by
  rintro options _ _ (⟨named⟩ | @⟨other, value', rest, new, proper⟩ | ⟨some⟩ | ⟨new⟩) lacking
  · refine ⟨by simpa using lacking, ?_⟩
    dsimp only
    rw [← name_put]
    exact .files named
  · have differ : other ≠ option := by
      rintro rfl
      simp at lacking
    refine ⟨by simpa [differ.symm] using lacking, ?_⟩
    dsimp only
    rw [← put_put options value differ]
    exact .single (by simpa [differ] using new) proper
  · refine ⟨by simpa using lacking, ?_⟩
    dsimp only
    rw [← extendMany_put]
    exact .many some
  · refine ⟨by simpa using lacking, ?_⟩
    dsimp only
    rw [put_raise]
    exact .flag (by simpa using new)

/-- Then every run of effects is as it was. -/
theorem Ahead.foldlM {change : Options → Options} {lacks : Options → Prop}
    (ahead : Ahead change lacks) {effects : List Effect} {options last : Options}
    (acts : effects.foldlM after options = .ok last) (lacking : lacks last) :
    lacks options ∧ effects.foldlM after (change options) = .ok (change last) := by
  induction effects generalizing options with
  | nil =>
    cases acts
    exact ⟨lacking, rfl⟩
  | cons effect rest ih =>
    rw [List.foldlM_cons] at acts ⊢
    obtain ⟨next, first, others⟩ := exists_of_bind_eq_ok acts
    obtain ⟨lacks', onward⟩ := ih others
    obtain ⟨lacks, follows⟩ := ahead (follows_of_after first) lacks'
    rw [follows.after_eq]
    exact ⟨lacks, onward⟩

/-- What can be said in advance may be said by a word in front. -/
theorem parse_cons {change : Options → Options} {lacks : Options → Prop} {word : Text}
    {words : List Text} {options : Options} (ahead : Ahead change lacks)
    (first : Reading.readWord {} word = .ok { options := change {} })
    (accepted : parse words = .ok options) (lacking : lacks options) :
    parse (word :: words) = .ok (change options) := by
  obtain ⟨effects, acts⟩ := parse_acts words
  have accepted' : effects.foldlM after {} = .ok options := (acts {}).symm.trans accepted
  rw [parse, List.foldlM_cons, first]
  exact (acts (change {})).trans (ahead.foldlM accepted' lacking).2

/-! ## Words that stand by themselves -/

/-- The word that sets a flag. -/
def Flag.word (flag : Flag) : Text :=
  '-' :: '-' :: flag.name

/-- The word that gives a value to the option of this name. -/
def attached (name value : Text) : Text :=
  '-' :: '-' :: (name ++ '=' :: value)

/-- A flag may be put in front of a command line that lacks it, and does what it says. -/
theorem parse_cons_flag {words : List Text} {options : Options} (flag : Flag)
    (accepted : parse words = .ok options) (lacks : options.has flag = false) :
    parse (flag.word :: words) = .ok (options.raise flag) := by
  have first : Reading.readWord {} flag.word = .ok { options := raise {} flag } := by
    cases flag <;> rfl
  exact parse_cons (ahead_raise flag) first accepted lacks

/-- A word that begins with two hyphens is an option, with a value if there is an equals sign. -/
theorem readWord_option {reading : Reading} (words : reading.filesOnly = false) {rest : Text}
    (more : rest ≠ []) :
    reading.readWord ('-' :: '-' :: rest) =
      let name := rest.takeWhile (· ≠ '=')
      match rest.drop name.length with
      | [] => reading.readOption name none
      | _ :: value => reading.readOption name (some value) := by
  obtain ⟨c, others, rfl⟩ := List.exists_cons_of_ne_nil more
  rw [Reading.readWord.eq_def, words]
  rfl

/-- A value is attached to the name in front of the first equals sign. -/
theorem readWord_attached {reading : Reading} (words : reading.filesOnly = false) {name : Text}
    (free : '=' ∉ name) (value : Text) :
    reading.readWord (attached name value) = reading.readOption name (some value) := by
  have all : ∀ c ∈ name, decide (c ≠ '=') = true := by
    intro c isIn
    exact decide_eq_true fun same => free (same ▸ isIn)
  have upTo : (name ++ '=' :: value).takeWhile (· ≠ '=') = name := by
    rw [List.takeWhile_append_of_pos all]
    simp
  have behind : (name ++ '=' :: value).drop name.length = '=' :: value := List.drop_left' rfl
  rw [attached, readWord_option words (by simp)]
  simp only [upTo, behind]

/-- Names of options are free of equals signs, and stand for them. -/
theorem Single.meaning?_name (option : Single) :
    '=' ∉ option.name ∧ meaning? option.name = some (.takes (.single option)) := by
  cases option <;> decide

theorem Many.meaning?_name (option : Many) :
    '=' ∉ option.name ∧ meaning? option.name = some (.takes (.many option)) := by
  cases option <;> decide

/-- A word of a command line that stands by itself. -/
inductive Token where
  /-- An option with its value. -/
  | single (option : Single) (value : Text)
  /-- A flag. -/
  | flag (flag : Flag)
  /-- An option with one of its values. -/
  | many (option : Many) (value : Text)
  deriving DecidableEq, Repr

/-- How a token is spelled. -/
def Token.word : Token → Text
  | .single option value => attached option.name value
  | .flag given => given.word
  | .many option value => attached option.name value

/-- What a token does to options. -/
def Token.effect : Token → Effect
  | .single option value => .settle (.single option) [value]
  | .flag given => .raise given
  | .many option value => .settle (.many option) [value]

/-- A token does what it does at once, and leaves nothing pending. -/
theorem readWord_token (options : Options) (token : Token) :
    Reading.readWord { options } token.word =
      (options.after token.effect).map fun options => { options } := by
  have option {name value : Text} {target : Target}
      (means : '=' ∉ name ∧ meaning? name = some (.takes target)) :
      Reading.readWord { options } (attached name value) =
        (options.settle target [value]).map fun options => { options } := by
    rw [readWord_attached rfl means.1, Reading.readOption.eq_def, means.2]
    change (options.settle target [value] >>= _) = _
    cases options.settle target [value] <;> rfl
  cases token with
  | single given value => exact option given.meaning?_name
  | flag given =>
    have sets : Reading.readWord { options } given.word =
        (options.setFlag given >>= fun options => .ok { options }) := by
      cases given <;> rfl
    rw [Token.word, sets, Token.effect, after]
    cases options.setFlag given <;> rfl
  | many given value => exact option given.meaning?_name

/-- A line of tokens is read one token after the other. -/
theorem foldlM_words (options : Options) (tokens : List Token) :
    (tokens.map Token.word).foldlM Reading.readWord { options } =
      ((tokens.map Token.effect).foldlM after options).map fun options => { options } := by
  induction tokens generalizing options with
  | nil => rfl
  | cons token rest ih =>
    rw [List.map_cons, List.map_cons, List.foldlM_cons, List.foldlM_cons, readWord_token]
    cases options.after token.effect with
    | error error => rfl
    | ok next => exact ih next

/-- A value may be given in front of a command line that does not give it. -/
theorem parse_cons_single {words : List Text} {options : Options} {option : Single} {value : Text}
    (accepted : parse words = .ok options) (lacks : options.gives option = false)
    (proper : option = .presets → value ≠ []) :
    parse ((Token.single option value).word :: words) = .ok (options.put value option) := by
  have new : gives {} option = false := by
    cases option <;> rfl
  have follows : Follows {} (Token.single option value).effect (put {} value option) :=
    .single new proper
  refine parse_cons (ahead_put option value) ?_ accepted lacks
  rw [readWord_token, follows.after_eq]
  rfl

end Options

end Splice
