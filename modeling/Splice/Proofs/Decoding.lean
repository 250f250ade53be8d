import Splice.Proofs.Lines

/-!
# Decoding

A file is decoded line by line, and it comes to the same as if it were decoded at once and then
divided into lines (`decoded_linewise`). What is not well formed next to the end of a line stays in
that line, and does not take the ending with it.

This is so because the newline and the carriage return have bytes of their own. Nothing of the kind
holds for dividing bytes elsewhere.
-/

namespace Splice

/-- A piece of text without its ending: one newline, and one carriage return before it. -/
def Text.withoutEnding (piece : Text) : Text :=
  Text.dropFinal '\r' (Text.dropFinal '\n' piece)

/-- Other items than the final one are not dropped. -/
theorem Text.count_dropFinal {α : Type} [DecidableEq α] {item last : α} (other : item ≠ last)
    (items : List α) : (Text.dropFinal last items).count item = items.count item := by
  rcases List.eq_nil_or_concat' items with rfl | ⟨init, final, rfl⟩
  · rfl
  · by_cases same : final = last
    · rw [same, Text.dropFinal_concat, List.count_append, List.count_singleton]
      simp [Ne.symm other]
    · rw [Text.dropFinal_of_ne (by simpa using same)]

/-- A character that is no part of an ending stays when the endings are dropped. -/
theorem Text.count_withoutEnding {c : Char} (notNewline : c ≠ '\n') (notReturn : c ≠ '\r')
    (text : Text) :
    ((Text.splitAfter '\n' text).map Text.withoutEnding).flatten.count c = text.count c := by
  have each (piece : Text) : (Text.withoutEnding piece).count c = piece.count c := by
    rw [Text.withoutEnding, Text.count_dropFinal notReturn, Text.count_dropFinal notNewline]
  conv_rhs => rw [← Text.flatten_splitAfter '\n' text]
  rw [List.count_flatten, List.count_flatten, List.map_map]
  congr 1
  exact List.map_congr_left fun piece _ => each piece

namespace Source

/-- The ending of a line may be dropped before it is decoded or after. -/
theorem lineText_eq (line : List UInt8) :
    lineText line = Text.withoutEnding (Utf8.decode line) := by
  rw [lineText, withoutEnding, carriageReturn_eq, newline_eq,
    ← Utf8.dropFinal_decode (by decide) (by decide),
    ← Utf8.dropFinal_decode (by decide) (by decide)]
  rfl

/-- The lines of a source as pieces of the text that all its bytes decode to. -/
structure Linewise (source : Source) : Prop where
  /-- The bytes are divided after each newline. -/
  lines_eq : source.lines = Text.splitAfter newline source.content
  /-- Each line decodes to what it is of the whole text, with its ending. -/
  decoded_eq : source.lines.map Utf8.decode = Text.splitAfter '\n' (Utf8.decode source.content)
  /-- So its text is that piece without the ending. -/
  texts_eq : source.lines.map lineText =
    (Text.splitAfter '\n' (Utf8.decode source.content)).map Text.withoutEnding
  /-- No newline is lost, and none comes from elsewhere. -/
  newlines_eq : (Utf8.decode source.content).count '\n' = source.content.count newline
  /-- Where the bytes are those of a text, the texts of the lines are its pieces, and there are no
  replacements but those that it has itself. -/
  of_encode : ∀ text, source.content = Utf8.encode text →
    source.lines.map lineText = (Text.splitAfter '\n' text).map Text.withoutEnding ∧
      (source.lines.map lineText).flatten.count Utf8.replacement = text.count Utf8.replacement

/-- To decode a file line by line is to decode it and to divide the text into lines, whatever bytes
it holds. -/
theorem decoded_linewise (source : Source) (intact : source.fault = none) : source.Linewise := by
  have lines : source.lines = Text.splitAfter newline source.content := by
    simp [lines_eq_pieces, pieces, intact]
  have decoded : source.lines.map Utf8.decode =
      Text.splitAfter '\n' (Utf8.decode source.content) := by
    rw [lines, newline_eq]
    exact Utf8.map_decode_splitAfter (by decide) (by decide) source.content
  have texts : source.lines.map lineText =
      (Text.splitAfter '\n' (Utf8.decode source.content)).map Text.withoutEnding := by
    rw [← decoded, List.map_map]
    exact List.map_congr_left fun line _ => lineText_eq line
  refine ⟨lines, decoded, texts, Utf8.count_decode (by decide) (by decide) _, ?_⟩
  intro text content
  rw [content, Utf8.decode_encode] at texts
  rw [texts]
  exact ⟨rfl, Text.count_withoutEnding (by decide) (by decide) text⟩

/-- Characters that are cut short by the end of a line, by an interruption and by the end of the
file. -/
theorem decoded_cut_short :
    let source : Source :=
      ⟨[.data [0xE2, 0x82, 0x0A, 0xC3], .interrupted, .data [0xA9, 0x0D], .data [0x0A, 0xF0]], none⟩
    source.fault = none ∧ source.lines.map lineText = [['\uFFFD'], ['é'], ['\uFFFD']] ∧
      source.Linewise := by
  intro source
  exact ⟨rfl, by decide, decoded_linewise source rfl⟩

end Source

end Splice
