import Splice.Proofs.Text.Utf8
import Splice.Source

/-!
# Lines

The lines of a source depend on its bytes alone, not on the pieces in which they arrive
(`Source.lines_eq`). A source that holds lines of text yields those lines again, and with them what
follows the last newline, unless reading fails before it is complete (`Source.lines_of_holds`).
-/

namespace Splice

/-! ## Completed lines -/

namespace Source

/-- The bytes that arrive before the end or the failure. -/
def content (source : Source) : List UInt8 :=
  source.chunks.flatMap fun
    | .data bytes => bytes
    | .interrupted => []

@[simp] theorem content_ofBytes (bytes : List UInt8) : (ofBytes bytes).content = bytes := by
  simp [content, ofBytes]

/-- What follows the last newline, with its latest byte first: a line at the end of the file, if
there is anything, and lost in a failure. -/
def lastLine (fault : Option Fault) (unfinished : List UInt8) : List (List UInt8) :=
  if fault.isSome ∨ unfinished = [] then [] else [unfinished.reverse]

/-- Bytes may be read in two goes. -/
theorem complete_append (unfinished first rest : List UInt8) :
    complete unfinished (first ++ rest) =
      ((complete unfinished first).1 ++ (complete (complete unfinished first).2 rest).1,
        (complete (complete unfinished first).2 rest).2) := by
  induction first generalizing unfinished with
  | nil => rfl
  | cons byte more ih =>
    rw [List.cons_append, complete, complete]
    split <;> simp [ih]

/-- The pieces in which bytes arrive do not matter. -/
theorem linesFrom_eq (unfinished : List UInt8) (fault : Option Fault) (chunks : List Chunk) :
    linesFrom unfinished fault chunks =
      (complete unfinished (content ⟨chunks, fault⟩)).1 ++
        lastLine fault (complete unfinished (content ⟨chunks, fault⟩)).2 := by
  induction chunks generalizing unfinished with
  | nil => rfl
  | cons chunk rest ih =>
    cases chunk with
    | interrupted => exact ih unfinished
    | data bytes =>
      have split : content ⟨.data bytes :: rest, fault⟩ = bytes ++ content ⟨rest, fault⟩ := rfl
      rw [linesFrom, split, complete_append, List.append_assoc, ← ih]

/-- The lines of a source are the lines of its bytes. -/
theorem lines_eq (source : Source) :
    source.lines =
      (complete [] source.content).1 ++ lastLine source.fault (complete [] source.content).2 :=
  linesFrom_eq [] source.fault source.chunks

variable {bytes rest : List UInt8}

/-- Without a newline, no line is completed. -/
theorem complete_of_notMem (free : newline ∉ bytes) (unfinished : List UInt8) :
    complete unfinished bytes = ([], bytes.reverse ++ unfinished) := by
  induction bytes generalizing unfinished with
  | nil => rfl
  | cons byte more ih =>
    rw [List.mem_cons, not_or] at free
    rw [complete, if_neg (Ne.symm free.1), ih free.2]
    simp

/-- A newline completes the line before it. -/
theorem complete_newline (free : newline ∉ bytes) (rest : List UInt8) :
    complete [] (bytes ++ newline :: rest) =
      ((bytes ++ [newline]) :: (complete [] rest).1, (complete [] rest).2) := by
  rw [complete_append, complete_of_notMem free, complete, if_pos rfl]
  simp

/-- The completed lines are the pieces of the bytes that end in a newline. -/
theorem complete_eq_filter (bytes : List UInt8) :
    (complete [] bytes).1 =
      (Text.splitAfter newline bytes).filter (·.getLast? = some newline) := by
  induction bytes using Text.induction_splitAfter newline with
  | last body free =>
    by_cases empty : body = []
    · rw [empty]
      rfl
    · have other : body.getLast? ≠ some newline := fun isLast => free (List.mem_of_getLast? isLast)
      simp [complete_of_notMem free, Text.splitAfter_of_notMem free empty, other]
  | piece body rest free ih => simp [complete_newline free, Text.splitAfter_append free, ih]

/-- With the last line, they are all pieces. -/
theorem complete_append_lastLine (bytes : List UInt8) :
    (complete [] bytes).1 ++ lastLine none (complete [] bytes).2 =
      Text.splitAfter newline bytes := by
  induction bytes using Text.induction_splitAfter newline with
  | last body free =>
    by_cases empty : body = []
    · rw [empty]
      rfl
    · simp [complete_of_notMem free, Text.splitAfter_of_notMem free empty, lastLine, empty]
  | piece body rest free ih =>
    rw [complete_newline free, Text.splitAfter_append free, ← ih, List.cons_append]

/-- The pieces of the bytes of a source after each newline. A failure loses the one that has
none. -/
def pieces (source : Source) : List (List UInt8) :=
  let pieces := Text.splitAfter newline source.content
  if source.fault.isSome then pieces.filter (·.getLast? = some newline) else pieces

/-- These are its lines. -/
theorem lines_eq_pieces (source : Source) : source.lines = source.pieces := by
  rw [lines_eq, pieces]
  cases source.fault with
  | none => exact complete_append_lastLine source.content
  | some fault =>
    rw [← complete_eq_filter]
    simp [lastLine]

/-- A line has no newline but one that ends it, and where reading fails it has that. -/
theorem exists_of_mem_lines {source : Source} {line : List UInt8} (isLine : line ∈ source.lines) :
    ∃ body, newline ∉ body ∧
      (line = body ++ [newline] ∨ source.fault = none ∧ line = body) := by
  rw [lines_eq_pieces, pieces] at isLine
  cases fails : source.fault with
  | none =>
    rw [fails] at isLine
    obtain ⟨body, free, ended | bare⟩ := Text.exists_of_mem_splitAfter isLine
    · exact ⟨body, free, .inl ended⟩
    · exact ⟨body, free, .inr ⟨rfl, bare⟩⟩
  | some fault =>
    rw [fails] at isLine
    obtain ⟨isPiece, isEnded⟩ := List.mem_filter.1 isLine
    obtain ⟨body, free, ended | rfl⟩ := Text.exists_of_mem_splitAfter isPiece
    · exact ⟨body, free, .inl ended⟩
    · exact absurd (List.mem_of_getLast? (of_decide_eq_true isEnded)) free

/-- A source that holds the lines that another one completes before it fails, yields them. -/
theorem lines_of_content_eq {source partner : Source} {fault : Fault}
    (fails : source.fault = some fault) (content : partner.content = source.lines.flatten) :
    partner.lines = source.lines := by
  have ended : ∀ line ∈ source.lines, ∃ body, line = body ++ [newline] ∧ newline ∉ body := by
    intro line isLine
    obtain ⟨body, free, ended | ⟨intact, -⟩⟩ := exists_of_mem_lines isLine
    · exact ⟨body, ended, free⟩
    · rw [fails] at intact
      cases intact
  rw [lines_eq_pieces partner, pieces, content, Text.splitAfter_flatten ended]
  cases partner.fault with
  | none => rfl
  | some other =>
    refine List.filter_eq_self.2 fun line isLine => ?_
    obtain ⟨body, rfl, -⟩ := ended line isLine
    simp

/-- An empty source yields no lines. -/
theorem lines_of_content_nil {source : Source} (empty : source.content = []) :
    source.lines = [] := by
  simp [lines_eq, empty, complete, lastLine]

/-- The newline is a character with a byte of its own. -/
theorem newline_eq : newline = UInt8.ofNat '\n'.toNat := rfl

/-- So is the carriage return. -/
theorem carriageReturn_eq : carriageReturn = UInt8.ofNat '\r'.toNat := rfl

/-- The text of a line has no newline. -/
theorem newline_notMem_lineText {source : Source} {line : List UInt8}
    (isLine : line ∈ source.lines) : '\n' ∉ lineText line := by
  have bare : newline ∉ Text.dropFinal newline line := by
    obtain ⟨body, free, rfl | ⟨-, rfl⟩⟩ := exists_of_mem_lines isLine
    · rwa [Text.dropFinal_concat]
    · exact fun isIn => free ((Text.dropFinal_isPrefix _).mem isIn)
  exact Utf8.notMem_decode (by decide) (by decide) fun isIn =>
    bare ((Text.dropFinal_isPrefix _).mem isIn)

/-! ## Lines of text -/

/-- The source holds lines of text, each ended by a newline, and some bytes after the last. -/
structure Holds (source : Source) (lines : List Text) (rest : List UInt8) : Prop where
  /-- These are its bytes. -/
  content_eq : source.content = Utf8.encode (lines.flatMap (· ++ ['\n'])) ++ rest
  /-- Newlines end the lines. -/
  free : ∀ line ∈ lines, '\n' ∉ line
  /-- No line is complete after the last. -/
  free_rest : newline ∉ rest

/-- A line of text with its ending, as it is read. -/
def ended (line : Text) : List UInt8 :=
  Utf8.encode line ++ [newline]

/-- The completed lines of encoded text. -/
theorem complete_encode {lines : List Text} (free : ∀ line ∈ lines, '\n' ∉ line)
    (freeRest : newline ∉ rest) :
    complete [] (Utf8.encode (lines.flatMap (· ++ ['\n'])) ++ rest) =
      (lines.map ended, rest.reverse) := by
  induction lines with
  | nil => simpa using complete_of_notMem freeRest []
  | cons line more ih =>
    rw [List.forall_mem_cons] at free
    have bare : newline ∉ Utf8.encode line := by
      rw [newline_eq, Utf8.mem_encode_iff (by decide)]
      exact free.1
    have split : Utf8.encode ((line :: more).flatMap (· ++ ['\n'])) ++ rest =
        Utf8.encode line ++ newline :: (Utf8.encode (more.flatMap (· ++ ['\n'])) ++ rest) := by
      simp only [List.flatMap_cons, Utf8.encode_append, List.append_assoc]
      rfl
    rw [split, complete_newline bare, ih free.2]
    rfl

/-- A source that holds lines of text yields them, and the rest if it is not lost. -/
theorem lines_of_holds {source : Source} {lines : List Text}
    (holds : source.Holds lines rest) :
    source.lines = lines.map ended ++ lastLine source.fault rest.reverse := by
  rw [lines_eq, holds.content_eq, complete_encode holds.free holds.free_rest]

/-- The text of a line that ends in a newline is the line without a final carriage return. -/
theorem lineText_ended (line : Text) : lineText (ended line) = Text.dropFinal '\r' line := by
  rw [lineText, ended, withoutEnding, Text.dropFinal_concat, carriageReturn_eq,
    Utf8.dropFinal_encode (by decide), Utf8.decode_encode]

/-- So is that of a line at the end of a file. -/
theorem lineText_encode {line : Text} (free : '\n' ∉ line) :
    lineText (Utf8.encode line) = Text.dropFinal '\r' line := by
  have bare : (Utf8.encode line).getLast? ≠ some newline := by
    intro isLast
    have isIn := List.mem_of_getLast? isLast
    rw [newline_eq, Utf8.mem_encode_iff (by decide)] at isIn
    exact free isIn
  rw [lineText, withoutEnding, Text.dropFinal_of_ne bare, carriageReturn_eq,
    Utf8.dropFinal_encode (by decide), Utf8.decode_encode]

end Source

end Splice
