import Splice.Report

/-!
# Summaries

What the line with the counters of a parse says (`Report.IsSummary`): the name of the file, and
three numbers, each in a column of its own. A name may hold anything, colons and whole summaries
too; but the columns hold digits and spaces only, so a line is read from its end in one way.

The name is the one that the file was given on the command line. Nothing is said of what it leads
to.
-/

namespace Splice

/-! ## Columns -/

namespace Text

/-- A text is divided in one way by a character that does not come later, whether or not it comes
earlier, too. -/
theorem append_cons_inj_of_notMem_back {front front' back back' : Text} {c : Char}
    (free : c ∉ back) (free' : c ∉ back')
    (same : front ++ c :: back = front' ++ c :: back') :
    front = front' ∧ back = back' := by
  obtain ⟨between, rfl, rest⟩ | ⟨between, rfl, rest⟩ := List.append_eq_append_iff.1 same
  · cases between with
    | nil => simpa using rest
    | cons _ between =>
      obtain ⟨-, rfl⟩ := List.cons_eq_cons.1 rest
      simp at free
  · cases between with
    | nil => simpa using rest.symm
    | cons _ between =>
      obtain ⟨-, rfl⟩ := List.cons_eq_cons.1 rest
      simp at free'

/-- So is a text by a label, where there is no colon after the one that the label ends in. -/
theorem append_label_inj (label : Text) {front front' back back' : Text} (free : ':' ∉ back)
    (free' : ':' ∉ back')
    (same : front ++ (label ++ ": ".toList) ++ back = front' ++ (label ++ ": ".toList) ++ back') :
    front = front' ∧ back = back' := by
  have divided : front ++ label ++ ':' :: ' ' :: back = front' ++ label ++ ':' :: ' ' :: back' := by
    simpa using same
  obtain ⟨before, after⟩ :=
    append_cons_inj_of_notMem_back (by simpa using free) (by simpa using free') divided
  exact ⟨List.append_cancel_right before, (List.cons.inj after).2⟩

/-- The text shows a number in a column: its decimal digits, and spaces before them where they do
not fill the width. -/
structure Column (width number : Nat) (text : Text) : Prop where
  shape : ∃ spaces, text = List.replicate spaces ' ' ++ Nat.toDigits 10 number
  length_eq : text.length = max width (Nat.toDigits 10 number).length

theorem column_decimalPadded (width number : Nat) :
    Column width number (decimalPadded width number) where
  shape := ⟨_, rfl⟩
  length_eq := by
    rw [decimalPadded, decimal, List.length_append, List.length_replicate]
    omega

namespace Column

variable {width number : Nat} {text : Text}

/-- What is no space in a column is a digit of the number. -/
theorem filter_isDigit (column : Column width number text) :
    text.filter Char.isDigit = Nat.toDigits 10 number := by
  obtain ⟨spaces, rfl⟩ := column.shape
  have digits : (Nat.toDigits 10 number).filter Char.isDigit = Nat.toDigits 10 number :=
    List.filter_eq_self.2 fun _ => isDigit_of_mem_decimal
  have blank : (List.replicate spaces ' ').filter Char.isDigit = [] :=
    List.filter_replicate_of_neg (by decide)
  rw [List.filter_append, digits, blank, List.nil_append]

/-- A text shows one number. -/
theorem number_unique {width' number' : Nat} (column : Column width number text)
    (column' : Column width' number' text) : number = number' := by
  have digits : Nat.toDigits 10 number = Nat.toDigits 10 number' :=
    column.filter_isDigit.symm.trans column'.filter_isDigit
  calc
    number = Nat.ofDigitChars 10 (Nat.toDigits 10 number) 0 :=
      Nat.ofDigitChars_ten_toDigits.symm
    _ = Nat.ofDigitChars 10 (Nat.toDigits 10 number') 0 := by rw [digits]
    _ = number' := Nat.ofDigitChars_ten_toDigits

/-- A column divides no line. -/
theorem colon_notMem (column : Column width number text) : ':' ∉ text := by
  obtain ⟨spaces, rfl⟩ := column.shape
  intro isIn
  obtain isIn | isIn := List.mem_append.1 isIn
  · exact absurd (List.eq_of_mem_replicate isIn) (by decide)
  · exact absurd (isDigit_of_mem_decimal isIn) (by decide)

end Column

end Text

/-! ## Lines of counters -/

namespace Report

/-- What the line says: the name of the file, how many files have been visited, how many lines read
in them, and how many parsed. -/
def Counts (file : Path) (tally : Tally) (line : Text) : Prop :=
  ∃ visited read parsed, Text.Column 3 tally.filesVisited visited ∧
    Text.Column 5 tally.linesRead read ∧ Text.Column 5 tally.linesParsed parsed ∧
    line = file.text ++ ": files: ".toList ++ visited ++ "   lines read: ".toList ++ read ++
      "   parsed: ".toList ++ parsed

/-- It says so of one file and of three numbers only. -/
theorem Counts.unique {file file' : Path} {tally tally' : Tally} {line : Text}
    (counts : Counts file tally line) (counts' : Counts file' tally' line) :
    file' = file ∧ tally' = tally := by
  obtain ⟨visited, read, parsed, visits, reads, parses, rfl⟩ := counts
  obtain ⟨visited', read', parsed', visits', reads', parses', same⟩ := counts'
  -- A column holds no colon, so the labels are found one by one from the end.
  obtain ⟨untilParsed, rfl⟩ := Text.append_label_inj "   parsed".toList parses.colon_notMem
    parses'.colon_notMem same
  obtain ⟨untilRead, rfl⟩ := Text.append_label_inj "   lines read".toList reads.colon_notMem
    reads'.colon_notMem untilParsed
  obtain ⟨name, rfl⟩ := Text.append_label_inj ": files".toList visits.colon_notMem
    visits'.colon_notMem untilRead
  have visits_eq := visits'.number_unique visits
  have reads_eq := reads'.number_unique reads
  have parses_eq := parses'.number_unique parses
  refine ⟨congrArg Path.mk name.symm, ?_⟩
  calc
    tally' = ⟨tally'.filesVisited, tally'.linesRead, tally'.linesParsed⟩ := rfl
    _ = ⟨tally.filesVisited, tally.linesRead, tally.linesParsed⟩ := by
      rw [visits_eq, reads_eq, parses_eq]

/-- The line with the counters of a parse: it says which file was parsed and what was counted, and
nothing else can be read from it. -/
structure IsSummary (file : Path) (tally : Tally) (line : Text) : Prop where
  counts : Counts file tally line
  only : ∀ file' tally', Counts file' tally' line → file' = file ∧ tally' = tally

theorem counts_summary (file : Path) (tally : Tally) : Counts file tally (summary file tally) := by
  have label : ": files: ".toList = ": ".toList ++ "files: ".toList := rfl
  have shape (visited read parsed : Text) :
      file.text ++ ": ".toList ++ ("files: ".toList ++ visited ++ "   lines read: ".toList ++
          read ++ "   parsed: ".toList ++ parsed) =
        file.text ++ ": files: ".toList ++ visited ++ "   lines read: ".toList ++ read ++
          "   parsed: ".toList ++ parsed := by
    simp only [label, List.append_assoc]
  exact ⟨_, _, _, Text.column_decimalPadded 3 tally.filesVisited,
    Text.column_decimalPadded 5 tally.linesRead, Text.column_decimalPadded 5 tally.linesParsed,
    shape _ _ _⟩

theorem isSummary_summary (file : Path) (tally : Tally) :
    IsSummary file tally (summary file tally) :=
  ⟨counts_summary file tally, fun _ _ => (counts_summary file tally).unique⟩

example : summary ⟨"a".toList⟩ ⟨2, 12, 7⟩ =
    "a: files:   2   lines read:    12   parsed:     7".toList := by decide

end Report

end Splice
