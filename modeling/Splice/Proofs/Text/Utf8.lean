import Mathlib.Tactic.Ring
import Mathlib.Tactic.SplitIfs
import Splice.Proofs.Text.Pieces
import Splice.Proofs.Text.Strip
import Splice.Text.Utf8

/-!
# UTF-8, there and back

Decoding gives back what was encoded (`decode_encode`). A byte below `0x80` stands for a character
of its own and occurs nowhere else (`mem_encode_iff`), so bytes and text can be divided at newlines
alike.

So they can where the bytes are not well formed. A byte of its own ends whatever is unfinished
before it and has no part in what follows (`decode_append_own`), and no other bytes decode to its
character (`notMem_decode`).
-/

namespace Splice.Utf8

/-! ## One byte at a time -/

/-- A number below `0x100` is the value of a byte. -/
theorem toNat_ofNat_of_lt {value : Nat} (small : value < 0x100) :
    (UInt8.ofNat value).toNat = value :=
  UInt8.toNat_ofNat_of_lt' small

section

variable {byte : UInt8} {c : Char} {unfinished longer : Unfinished} (rest : List UInt8)

/-- A byte, and then the bytes after it. -/
theorem decodeFrom_cons (pending : Option Unfinished) (byte : UInt8) :
    decodeFrom pending (byte :: rest) =
      (step pending byte).1 ++ decodeFrom (step pending byte).2 rest := rfl

theorem decodeFrom_of_whole (reads : lead byte = .whole c) :
    decodeFrom none (byte :: rest) = c :: decodeFrom none rest := by
  simp [decodeFrom, step, reads]

theorem decodeFrom_of_opens (reads : lead byte = .opens unfinished) :
    decodeFrom none (byte :: rest) = decodeFrom (some unfinished) rest := by
  simp [decodeFrom, step, reads]

theorem decodeFrom_of_finished (reads : unfinished.next byte = some (.inl c)) :
    decodeFrom (some unfinished) (byte :: rest) = c :: decodeFrom none rest := by
  simp [decodeFrom, step, reads]

theorem decodeFrom_of_longer (reads : unfinished.next byte = some (.inr longer)) :
    decodeFrom (some unfinished) (byte :: rest) = decodeFrom (some longer) rest := by
  simp [decodeFrom, step, reads]

end

section

variable {least greatest bits low : Nat}

/-- The last byte of a character adds its six bits. -/
theorem next_last (fits : least ≤ 0x80 + low) (fits' : 0x80 + low ≤ greatest) (small : low < 0x40) :
    Unfinished.next ⟨0, least, greatest, bits⟩ (UInt8.ofNat (0x80 + low)) =
      some (.inl (Char.ofNat (bits * 0x40 + low))) := by
  have value : (UInt8.ofNat (0x80 + low)).toNat = 0x80 + low :=
    toNat_ofNat_of_lt (by omega)
  simp only [Unfinished.next, value, fits, fits', and_self, ↓reduceIte, Nat.add_sub_cancel_left]

/-- A byte in the middle of a character adds its six bits. -/
theorem next_middle {further : Nat} (fits : least ≤ 0x80 + low) (fits' : 0x80 + low ≤ greatest)
    (small : low < 0x40) :
    Unfinished.next ⟨further + 1, least, greatest, bits⟩ (UInt8.ofNat (0x80 + low)) =
      some (.inr ⟨further, 0x80, 0xBF, bits * 0x40 + low⟩) := by
  have value : (UInt8.ofNat (0x80 + low)).toNat = 0x80 + low :=
    toNat_ofNat_of_lt (by omega)
  simp only [Unfinished.next, value, fits, fits', and_self, ↓reduceIte, Nat.add_sub_cancel_left]

end

section

variable {code : Nat}

theorem lead_of_one (small : code < 0x80) :
    lead (UInt8.ofNat code) = .whole (Char.ofNat code) := by
  have value : (UInt8.ofNat code).toNat = code :=
    toNat_ofNat_of_lt (by omega)
  simp only [lead, value, small, ↓reduceIte]

theorem lead_of_two (large : 0x80 ≤ code) (small : code < 0x800) :
    lead (UInt8.ofNat (0xC0 + code / 0x40)) = .opens ⟨0, 0x80, 0xBF, code / 0x40⟩ := by
  have value : (UInt8.ofNat (0xC0 + code / 0x40)).toNat = 0xC0 + code / 0x40 :=
    toNat_ofNat_of_lt (by omega)
  unfold lead
  dsimp only
  rw [value, if_neg (by omega), if_neg (by omega), if_pos (by omega), Nat.add_sub_cancel_left]

/-- The first of three bytes lets the second one pass. -/
theorem lead_of_three (large : 0x800 ≤ code) (small : code < 0x10000)
    (noSurrogate : code < 0xD800 ∨ 0xDFFF < code) :
    ∃ least greatest,
      lead (UInt8.ofNat (0xE0 + code / 0x1000)) = .opens ⟨1, least, greatest, code / 0x1000⟩ ∧
        least ≤ 0x80 + code / 0x40 % 0x40 ∧ 0x80 + code / 0x40 % 0x40 ≤ greatest := by
  have value : (UInt8.ofNat (0xE0 + code / 0x1000)).toNat = 0xE0 + code / 0x1000 :=
    toNat_ofNat_of_lt (by omega)
  unfold lead
  dsimp only
  rw [value, if_neg (by omega), if_neg (by omega), if_neg (by omega)]
  by_cases first : code / 0x1000 = 0
  · exact ⟨0xA0, 0xBF, by rw [if_pos (by omega), first], by omega, by omega⟩
  · rw [if_neg (by omega)]
    by_cases surrogates : code / 0x1000 = 0xD
    · exact ⟨0x80, 0x9F, by rw [if_pos (by omega), surrogates], by omega, by omega⟩
    · refine ⟨0x80, 0xBF, ?_, by omega, by omega⟩
      rw [if_neg (by omega), if_pos (by omega), Nat.add_sub_cancel_left]

/-- The first of four bytes lets the second one pass. -/
theorem lead_of_four (large : 0x10000 ≤ code) (small : code < 0x110000) :
    ∃ least greatest,
      lead (UInt8.ofNat (0xF0 + code / 0x40000)) = .opens ⟨2, least, greatest, code / 0x40000⟩ ∧
        least ≤ 0x80 + code / 0x1000 % 0x40 ∧ 0x80 + code / 0x1000 % 0x40 ≤ greatest := by
  have value : (UInt8.ofNat (0xF0 + code / 0x40000)).toNat = 0xF0 + code / 0x40000 :=
    toNat_ofNat_of_lt (by omega)
  unfold lead
  dsimp only
  rw [value, if_neg (by omega), if_neg (by omega), if_neg (by omega), if_neg (by omega),
    if_neg (by omega), if_neg (by omega)]
  by_cases first : code / 0x40000 = 0
  · exact ⟨0x90, 0xBF, by rw [if_pos (by omega), first], by omega, by omega⟩
  · rw [if_neg (by omega)]
    by_cases last : code / 0x40000 = 4
    · exact ⟨0x80, 0x8F, by rw [if_neg (by omega), if_pos (by omega), last], by omega, by omega⟩
    · refine ⟨0x80, 0xBF, ?_, by omega, by omega⟩
      rw [if_pos (by omega), Nat.add_sub_cancel_left]

end

/-! ## Characters -/

/-- The number of a character is below the surrogates, or between them and the last character. -/
theorem toNat_valid (c : Char) : c.toNat < 0xD800 ∨ 0xDFFF < c.toNat ∧ c.toNat < 0x110000 :=
  c.valid

/-- The character of a valid number has that number. -/
theorem toNat_ofNat_of_valid {value : Nat} (valid : value.isValidChar) :
    (Char.ofNat value).toNat = value := by
  rw [Char.ofNat, dif_pos valid]
  rfl

/-- The bytes of a character are read as that character, whatever follows. -/
theorem decodeFrom_encodeChar (c : Char) (rest : List UInt8) :
    decodeFrom none (encodeChar c ++ rest) = c :: decodeFrom none rest := by
  have valid := toNat_valid c
  have named := Char.ofNat_toNat c
  unfold encodeChar
  dsimp only
  generalize c.toNat = code at valid named ⊢
  by_cases one : code < 0x80
  · rw [if_pos one, List.singleton_append, decodeFrom_of_whole _ (lead_of_one one), named]
  · rw [if_neg one]
    by_cases two : code < 0x800
    · have bits : code / 0x40 * 0x40 + code % 0x40 = code := by omega
      rw [if_pos two, List.cons_append, List.singleton_append,
        decodeFrom_of_opens _ (lead_of_two (by omega) two),
        decodeFrom_of_finished _ (next_last (by omega) (by omega) (by omega)), bits, named]
    · rw [if_neg two]
      by_cases three : code < 0x10000
      · have bits : (code / 0x1000 * 0x40 + code / 0x40 % 0x40) * 0x40 + code % 0x40 = code := by
          omega
        obtain ⟨least, greatest, opens, fits, fits'⟩ :=
          lead_of_three (by omega) three (by omega)
        rw [if_pos three, List.cons_append, List.cons_append, List.singleton_append,
          decodeFrom_of_opens _ opens,
          decodeFrom_of_longer _ (next_middle fits fits' (by omega)),
          decodeFrom_of_finished _ (next_last (by omega) (by omega) (by omega)), bits, named]
      · have bits : ((code / 0x40000 * 0x40 + code / 0x1000 % 0x40) * 0x40 + code / 0x40 % 0x40) *
            0x40 + code % 0x40 = code := by
          omega
        have four : 0x10000 ≤ code := by omega
        obtain ⟨least, greatest, opens, fits, fits'⟩ := lead_of_four four (by omega)
        rw [if_neg three, List.cons_append, List.cons_append, List.cons_append,
          List.singleton_append, decodeFrom_of_opens _ opens,
          decodeFrom_of_longer _ (next_middle fits fits' (by omega)),
          decodeFrom_of_longer _ (next_middle (by omega) (by omega) (by omega)),
          decodeFrom_of_finished _ (next_last (by omega) (by omega) (by omega)), bits, named]

@[simp] theorem encode_nil : encode [] = [] := rfl

@[simp] theorem encode_cons (c : Char) (rest : Text) :
    encode (c :: rest) = encodeChar c ++ encode rest := rfl

@[simp] theorem encode_append (first rest : Text) :
    encode (first ++ rest) = encode first ++ encode rest :=
  List.flatMap_append

/-- Decoding gives back what was encoded. -/
@[simp] theorem decode_encode (text : Text) : decode (encode text) = text := by
  induction text with
  | nil => rfl
  | cons c rest ih =>
    rw [encode_cons, decode, decodeFrom_encodeChar]
    exact congrArg (c :: ·) ih

/-- What follows encoded text is decoded by itself. -/
theorem decode_encode_append (text : Text) (rest : List UInt8) :
    decode (encode text ++ rest) = text ++ decode rest := by
  induction text with
  | nil => rfl
  | cons c more ih =>
    rw [encode_cons, List.append_assoc, decode, decodeFrom_encodeChar]
    exact congrArg (c :: ·) ih

/-! ## Bytes of their own -/

section

variable {c : Char}

theorem encodeChar_of_lt (own : c.toNat < 0x80) : encodeChar c = [UInt8.ofNat c.toNat] := by
  simp only [encodeChar, own, ↓reduceIte]

/-- A character that has no byte of its own is spelled by bytes that are no characters. -/
theorem le_toNat_of_mem_encodeChar (wide : 0x80 ≤ c.toNat) {byte : UInt8}
    (isIn : byte ∈ encodeChar c) : 0x80 ≤ byte.toNat := by
  have valid := toNat_valid c
  have le {value : Nat} (small : value < 0x100) (large : 0x80 ≤ value) :
      0x80 ≤ (UInt8.ofNat value).toNat := by
    rwa [toNat_ofNat_of_lt small]
  unfold encodeChar at isIn
  dsimp only at isIn
  rw [if_neg (by omega)] at isIn
  split at isIn
  · rcases List.mem_pair.1 isIn with rfl | rfl <;> exact le (by omega) (by omega)
  · split at isIn
    · simp only [List.mem_cons, List.not_mem_nil, or_false] at isIn
      rcases isIn with rfl | rfl | rfl <;> exact le (by omega) (by omega)
    · simp only [List.mem_cons, List.not_mem_nil, or_false] at isIn
      rcases isIn with rfl | rfl | rfl | rfl <;> exact le (by omega) (by omega)

theorem encodeChar_ne_nil (c : Char) : encodeChar c ≠ [] := by
  unfold encodeChar
  dsimp only
  split
  · exact List.cons_ne_nil _ _
  · split
    · exact List.cons_ne_nil _ _
    · split <;> exact List.cons_ne_nil _ _

/-- A byte that is a character spells that character alone. -/
theorem mem_encodeChar_iff (own : c.toNat < 0x80) {other : Char} :
    UInt8.ofNat c.toNat ∈ encodeChar other ↔ other = c := by
  constructor
  · intro isIn
    have value : (UInt8.ofNat c.toNat).toNat = c.toNat := toNat_ofNat_of_lt (by omega)
    by_cases small : other.toNat < 0x80
    · rw [encodeChar_of_lt small, List.mem_singleton] at isIn
      have same : c.toNat = other.toNat := by
        rw [← value, isIn, toNat_ofNat_of_lt (by omega)]
      exact Char.toNat_inj.1 same.symm
    · have wide := le_toNat_of_mem_encodeChar (by omega) isIn
      omega
  · rintro rfl
    rw [encodeChar_of_lt own]
    exact List.mem_singleton_self _

/-- A byte that is a character occurs where the character does. -/
theorem mem_encode_iff (own : c.toNat < 0x80) {text : Text} :
    UInt8.ofNat c.toNat ∈ encode text ↔ c ∈ text := by
  simp [encode, mem_encodeChar_iff own]

/-- A final character with a byte of its own is a final byte. -/
theorem dropFinal_encode (own : c.toNat < 0x80) (text : Text) :
    Text.dropFinal (UInt8.ofNat c.toNat) (encode text) = encode (Text.dropFinal c text) := by
  rcases List.eq_nil_or_concat' text with rfl | ⟨init, last, rfl⟩
  · rfl
  · by_cases same : last = c
    · subst same
      simp [encodeChar_of_lt own]
    · have other : (encode (init ++ [last])).getLast? ≠ some (UInt8.ofNat c.toNat) := by
        intro isLast
        rw [encode_append, encode_cons, encode_nil, List.append_nil,
          List.getLast?_append_of_ne_nil _ (encodeChar_ne_nil last)] at isLast
        exact same ((mem_encodeChar_iff own).1 (List.mem_of_getLast? isLast))
      rw [Text.dropFinal_of_ne other, Text.dropFinal_of_ne (by simpa using same)]

end

/-! ## Bytes that are not well formed -/

/-- The character that an unfinished one becomes has no byte of its own. -/
def Unfinished.Wide (unfinished : Unfinished) : Prop :=
  0x80 ≤ unfinished.least ∧
    0x80 ≤ (unfinished.bits * 0x40 + (unfinished.least - 0x80)) * 0x40 ^ unfinished.further

/-- What a first byte opens is wide. -/
theorem wide_of_lead {byte : UInt8} {unfinished : Unfinished}
    (reads : lead byte = .opens unfinished) : unfinished.Wide := by
  unfold lead at reads
  dsimp only at reads
  generalize byte.toNat = value at reads
  split_ifs at reads <;> cases reads <;> constructor <;> dsimp only <;> omega

/-- Only its own byte is read as a character. -/
theorem eq_of_lead {byte : UInt8} {c : Char} (reads : lead byte = .whole c) :
    byte = UInt8.ofNat c.toNat := by
  unfold lead at reads
  dsimp only at reads
  split_ifs at reads with small
  obtain rfl : Char.ofNat byte.toNat = c := by simpa using reads
  rw [toNat_ofNat_of_valid (.inl (by omega)), UInt8.ofNat_toNat]

section

variable {c : Char}

/-- Where a character may start, its own byte is that character. -/
theorem lead_own (own : c.toNat < 0x80) : lead (UInt8.ofNat c.toNat) = .whole c := by
  rw [lead_of_one own, Char.ofNat_toNat]

/-- A replacement is no character with a byte of its own. -/
theorem ne_replacement (own : c.toNat < 0x80) : c ≠ replacement := by
  rintro rfl
  exact absurd own (by decide)

end

namespace Unfinished.Wide

variable {unfinished : Unfinished} {byte : UInt8} {c : Char}

/-- A wide character is none with a byte of its own: its number is too great, or is none of a
character. In the latter case it is read as NUL. -/
theorem ne_own {other : Char} (wide : unfinished.Wide) (own : c.toNat < 0x80) (notNul : c ≠ '\x00')
    (reads : unfinished.next byte = some (.inl other)) : other ≠ c := by
  obtain ⟨further, least, greatest, bits⟩ := unfinished
  obtain ⟨large, wide⟩ := wide
  unfold Unfinished.next at reads
  dsimp only at reads large wide
  split at reads
  · next fits =>
    cases further with
    | zero =>
      obtain rfl : Char.ofNat (bits * 0x40 + (byte.toNat - 0x80)) = other := by simpa using reads
      rw [Nat.pow_zero, Nat.mul_one] at wide
      by_cases valid : (bits * 0x40 + (byte.toNat - 0x80)).isValidChar
      · intro same
        have value := congrArg Char.toNat same
        rw [toNat_ofNat_of_valid valid] at value
        omega
      · rw [Char.ofNat, dif_neg valid]
        exact Ne.symm notNul
    | succ further => cases reads
  · cases reads

/-- A wide character stays wide while it is read. -/
theorem next {longer : Unfinished} (wide : unfinished.Wide)
    (reads : unfinished.next byte = some (.inr longer)) : longer.Wide := by
  obtain ⟨further, least, greatest, bits⟩ := unfinished
  obtain ⟨large, wide⟩ := wide
  unfold Unfinished.next at reads
  dsimp only at reads large wide
  split at reads
  · next fits =>
    cases further with
    | zero => cases reads
    | succ further =>
      obtain rfl : _ = longer := by simpa using reads
      refine ⟨Nat.le_refl _, ?_⟩
      calc
        0x80 ≤ (bits * 0x40 + (least - 0x80)) * 0x40 ^ (further + 1) := wide
        _ ≤ (bits * 0x40 + (byte.toNat - 0x80)) * 0x40 ^ (further + 1) :=
          Nat.mul_le_mul_right _ (by omega)
        _ = _ := by
          dsimp only
          rw [Nat.pow_succ]
          ring
  · cases reads

/-- No byte of its own continues a wide character. -/
theorem next_own (wide : unfinished.Wide) (own : c.toNat < 0x80) :
    unfinished.next (UInt8.ofNat c.toNat) = none := by
  have value : (UInt8.ofNat c.toNat).toNat = c.toNat := toNat_ofNat_of_lt (by omega)
  obtain ⟨large, -⟩ := wide
  rw [Unfinished.next, if_neg (by omega)]

end Unfinished.Wide

section

variable {pending : Option Unfinished} {byte : UInt8} {c : Char}

/-- A byte that does not continue what is unfinished is read as if nothing were. -/
theorem step_of_next_eq_none {unfinished : Unfinished} (reads : unfinished.next byte = none) :
    step (some unfinished) byte = (replacement :: (step none byte).1, (step none byte).2) := by
  simp [step, reads]

/-- What is unfinished is wide, and stays so. -/
theorem wide_step (wide : ∀ unfinished ∈ pending, unfinished.Wide) (byte : UInt8) :
    ∀ unfinished ∈ (step pending byte).2, unfinished.Wide := by
  have fresh : ∀ unfinished ∈ (step none byte).2, unfinished.Wide := by
    cases reads : lead byte with
    | whole c => simp [step, reads]
    | opens unfinished => simpa [step, reads] using wide_of_lead reads
    | stray => simp [step, reads]
  cases pending with
  | none => exact fresh
  | some unfinished =>
    have isWide := wide unfinished rfl
    match reads : unfinished.next byte with
    | some (.inl c) => simp [step, reads]
    | some (.inr longer) => simpa [step, reads] using isWide.next reads
    | none =>
      rw [step_of_next_eq_none reads]
      exact fresh

/-- A character with a byte of its own is completed by that byte alone. -/
theorem notMem_step (wide : ∀ unfinished ∈ pending, unfinished.Wide) (own : c.toNat < 0x80)
    (notNul : c ≠ '\x00') (other : byte ≠ UInt8.ofNat c.toNat) : c ∉ (step pending byte).1 := by
  have fresh : c ∉ (step none byte).1 := by
    cases reads : lead byte with
    | whole read =>
      have isOther : c ≠ read := by
        rintro rfl
        exact other (eq_of_lead reads)
      simpa [step, reads] using isOther
    | opens unfinished => simp [step, reads]
    | stray => simpa [step, reads] using ne_replacement own
  cases pending with
  | none => exact fresh
  | some unfinished =>
    have isWide := wide unfinished rfl
    match reads : unfinished.next byte with
    | some (.inl read) => simpa [step, reads] using (isWide.ne_own own notNul reads).symm
    | some (.inr longer) => simp [step, reads]
    | none =>
      rw [step_of_next_eq_none reads]
      exact List.not_mem_cons_of_ne_of_not_mem (ne_replacement own) fresh

/-- A byte of its own gives up on what is unfinished, and is its character. -/
theorem step_own (wide : ∀ unfinished ∈ pending, unfinished.Wide) (own : c.toNat < 0x80) :
    step pending (UInt8.ofNat c.toNat) = (decodeFrom pending [] ++ [c], none) := by
  cases pending with
  | none => simp [step, lead_own own, decodeFrom]
  | some unfinished =>
    rw [step_of_next_eq_none ((wide unfinished rfl).next_own own)]
    simp [step, lead_own own, decodeFrom]

theorem notMem_decodeFrom (wide : ∀ unfinished ∈ pending, unfinished.Wide) (own : c.toNat < 0x80)
    (notNul : c ≠ '\x00') {bytes : List UInt8} (free : UInt8.ofNat c.toNat ∉ bytes) :
    c ∉ decodeFrom pending bytes := by
  induction bytes generalizing pending with
  | nil =>
    rw [decodeFrom]
    split
    · simpa using ne_replacement own
    · exact List.not_mem_nil
  | cons byte rest ih =>
    rw [List.mem_cons, not_or] at free
    rw [decodeFrom_cons]
    exact List.not_mem_append (notMem_step wide own notNul (Ne.symm free.1))
      (ih (wide_step wide byte) free.2)

theorem decodeFrom_append_own (wide : ∀ unfinished ∈ pending, unfinished.Wide)
    (own : c.toNat < 0x80) (first rest : List UInt8) :
    decodeFrom pending (first ++ UInt8.ofNat c.toNat :: rest) =
      decodeFrom pending first ++ c :: decode rest := by
  induction first generalizing pending with
  | nil =>
    rw [List.nil_append, decodeFrom_cons, step_own wide own, List.append_assoc]
    rfl
  | cons byte more ih =>
    rw [List.cons_append, decodeFrom_cons, decodeFrom_cons, ih (wide_step wide byte),
      List.append_assoc]

theorem decodeFrom_ne_nil {bytes : List UInt8} (begun : pending.isSome ∨ bytes ≠ []) :
    decodeFrom pending bytes ≠ [] := by
  induction bytes generalizing pending with
  | nil =>
    have isPending : pending.isSome := by simpa using begun
    simp [decodeFrom, isPending]
  | cons byte rest ih =>
    have fresh : (step none byte).1 ≠ [] ∨ (step none byte).2.isSome := by
      cases reads : lead byte <;> simp [step, reads]
    have read : (step pending byte).1 ≠ [] ∨ (step pending byte).2.isSome := by
      cases pending with
      | none => exact fresh
      | some unfinished =>
        match reads : unfinished.next byte with
        | some (.inl c) => simp [step, reads]
        | some (.inr longer) => simp [step, reads]
        | none => simp [step_of_next_eq_none reads]
    rw [decodeFrom_cons]
    rcases read with done | unfinished
    · exact List.append_ne_nil_of_left_ne_nil done _
    · exact List.append_ne_nil_of_right_ne_nil _ (ih (.inl unfinished))

end

section

variable {c : Char} {bytes : List UInt8}

/-- Bytes among which a character's own is not decode to text without that character, well formed or
not. -/
theorem notMem_decode (own : c.toNat < 0x80) (notNul : c ≠ '\x00')
    (free : UInt8.ofNat c.toNat ∉ bytes) : c ∉ decode bytes :=
  notMem_decodeFrom (by simp) own notNul free

/-- What stands before a byte of its own and what stands after it are decoded by themselves. -/
theorem decode_append_own (own : c.toNat < 0x80) (first rest : List UInt8) :
    decode (first ++ UInt8.ofNat c.toNat :: rest) = decode first ++ c :: decode rest :=
  decodeFrom_append_own (by simp) own first rest

/-- Some bytes are some text. -/
theorem decode_ne_nil (notNil : bytes ≠ []) : decode bytes ≠ [] :=
  decodeFrom_ne_nil (.inr notNil)

/-- Text has as many of a character as there are bytes of its own. -/
theorem count_decode (own : c.toNat < 0x80) (notNul : c ≠ '\x00') (bytes : List UInt8) :
    (decode bytes).count c = bytes.count (UInt8.ofNat c.toNat) := by
  induction bytes using Text.induction_splitAfter (UInt8.ofNat c.toNat) with
  | last body free =>
    rw [List.count_eq_zero.2 free, List.count_eq_zero.2 (notMem_decode own notNul free)]
  | piece body rest free ih =>
    rw [decode_append_own own, List.count_append, List.count_cons_self, ih, List.count_append,
      List.count_cons_self, List.count_eq_zero.2 free,
      List.count_eq_zero.2 (notMem_decode own notNul free)]

/-- Bytes and text are divided alike after the bytes of a character's own. -/
theorem map_decode_splitAfter (own : c.toNat < 0x80) (notNul : c ≠ '\x00') (bytes : List UInt8) :
    (Text.splitAfter (UInt8.ofNat c.toNat) bytes).map decode =
      Text.splitAfter c (decode bytes) := by
  induction bytes using Text.induction_splitAfter (UInt8.ofNat c.toNat) with
  | last body free =>
    by_cases empty : body = []
    · rw [empty]
      rfl
    · rw [Text.splitAfter_of_notMem free empty,
        Text.splitAfter_of_notMem (notMem_decode own notNul free) (decode_ne_nil empty)]
      rfl
  | piece body rest free ih =>
    rw [Text.splitAfter_append free, decode_append_own own,
      Text.splitAfter_append (notMem_decode own notNul free), List.map_cons, ih,
      decode_append_own own]
    rfl

/-- A final character with a byte of its own comes of a final byte. -/
theorem dropFinal_decode (own : c.toNat < 0x80) (notNul : c ≠ '\x00') (bytes : List UInt8) :
    Text.dropFinal c (decode bytes) = decode (Text.dropFinal (UInt8.ofNat c.toNat) bytes) := by
  induction bytes using Text.induction_splitAfter (UInt8.ofNat c.toNat) with
  | last body free =>
    have absent := notMem_decode own notNul free
    rw [Text.dropFinal_of_ne fun isLast => absent (List.mem_of_getLast? isLast),
      Text.dropFinal_of_ne fun isLast => free (List.mem_of_getLast? isLast)]
  | piece body rest free ih =>
    by_cases empty : rest = []
    · rw [empty, decode_append_own own, Text.dropFinal_concat]
      exact Text.dropFinal_concat _
    · rw [decode_append_own own, Text.dropFinal_append_cons _ _ (decode_ne_nil empty), ih,
        Text.dropFinal_append_cons _ _ empty, decode_append_own own]

end

end Splice.Utf8
