import EntityForge.Text.Utf8
import Mathlib.Data.List.TakeWhile

/-! # Encoding and decoding

The bytes of a text are decoded to the same text (`exists_encode`), if no surrogate stands alone in
it.  Decoding reads one sequence at a time, so it is enough that the sequence of a character is read
as that character, whatever follows (`step_encodeChar`); the four lengths of a sequence are taken
one by one.
-/

namespace EntityForge.Utf8

/-! ### Bytes as numbers -/

theorem isContinuation_iff (b : UInt8) :
    isContinuation b = true ↔ 0x80 ≤ b.toNat ∧ b.toNat ≤ 0xBF := by
  simp [isContinuation, UInt8.le_iff_toNat_le]

theorem mayFollow_iff (first second : UInt8) :
    mayFollow first second = true ↔ (0x80 ≤ second.toNat ∧ second.toNat ≤ 0xBF) ∧
      (first.toNat = 0xE0 → 0xA0 ≤ second.toNat) ∧ (first.toNat = 0xED → second.toNat < 0xA0) ∧
      (first.toNat = 0xF0 → 0x90 ≤ second.toNat) ∧ (first.toNat = 0xF4 → second.toNat < 0x90) := by
  have hEq (b c : UInt8) : b = c ↔ b.toNat = c.toNat := UInt8.toNat_inj.symm
  rw [mayFollow, Bool.and_eq_true, isContinuation_iff]
  simp only [hEq, UInt8.le_iff_toNat_le, UInt8.lt_iff_toNat_lt, UInt8.reduceToNat]
  split
  · simp_all
  · split
    · simp_all
    · split
      · simp_all
      · split <;> simp_all

/-! ### One sequence -/

section

variable {b b2 b3 b4 : UInt8} (rest : Bytes)

theorem step_one (h : b.toNat < 0x80) : step b rest = .code (.ofNat b.toNat) 1 rest := by
  rw [step.eq_def, if_pos (UInt8.lt_iff_toNat_lt.mpr h)]

/-- The first byte of a longer sequence. -/
theorem not_single_of_le (h : 0xC2 ≤ b.toNat) (hLast : b.toNat ≤ 0xF4) :
    ¬ b < 0x80 ∧ ¬ (b < 0xC2 || 0xF4 < b) = true := by
  simp only [UInt8.lt_iff_toNat_lt, UInt8.reduceToNat, Bool.or_eq_true, decide_eq_true_eq]
  omega

theorem step_two (h : 0xC2 ≤ b.toNat) (hLast : b.toNat < 0xE0) (hNext : mayFollow b b2 = true) :
    step b (b2 :: rest) = .code (.ofNat (b.toNat % 0x20 * 0x40 + payload b2)) 2 rest := by
  obtain ⟨hLong, hStart⟩ := not_single_of_le h (by omega)
  rw [step.eq_def, if_neg hLong, if_neg hStart]
  have hLength : b < 0xE0 := UInt8.lt_iff_toNat_lt.mpr hLast
  simp only [hNext, Bool.not_true, Bool.false_eq_true, if_false, hLength, if_true]

theorem step_three (h : 0xE0 ≤ b.toNat) (hLast : b.toNat < 0xF0) (hNext : mayFollow b b2 = true)
    (hEnd : isContinuation b3 = true) :
    step b (b2 :: b3 :: rest) =
      .code (.ofNat ((b.toNat % 0x10 * 0x40 + payload b2) * 0x40 + payload b3)) 3 rest := by
  obtain ⟨hLong, hStart⟩ := not_single_of_le (b := b) (by omega) (by omega)
  rw [step.eq_def, if_neg hLong, if_neg hStart]
  have hMore : ¬ b < 0xE0 := by simpa [UInt8.lt_iff_toNat_lt] using h
  have hLength : b < 0xF0 := UInt8.lt_iff_toNat_lt.mpr hLast
  simp only [hNext, hEnd, Bool.not_true, Bool.false_eq_true, if_false, hMore, hLength, if_true]

theorem step_four (h : 0xF0 ≤ b.toNat) (hLast : b.toNat ≤ 0xF4) (hNext : mayFollow b b2 = true)
    (hThird : isContinuation b3 = true) (hEnd : isContinuation b4 = true) :
    step b (b2 :: b3 :: b4 :: rest) =
      .code (.ofNat (((b.toNat % 0x08 * 0x40 + payload b2) * 0x40 + payload b3) * 0x40 +
        payload b4)) 4 rest := by
  obtain ⟨hLong, hStart⟩ := not_single_of_le (b := b) (by omega) hLast
  rw [step.eq_def, if_neg hLong, if_neg hStart]
  have hMore : ¬ b < 0xE0 := by
    simp only [UInt8.lt_iff_toNat_lt, UInt8.reduceToNat]
    omega
  have hLength : ¬ b < 0xF0 := by simpa [UInt8.lt_iff_toNat_lt] using h
  simp only [hNext, hThird, hEnd, Bool.not_true, Bool.false_eq_true, if_false, hMore, hLength]

end

/-! ### The sequence of a character

The bytes of a character are made from its number by fields of six bits; read back, the fields give
the number again.
-/

section

variable {v : Nat} (rest : Bytes)

theorem toNat_ofNat {n : Nat} (h : n < 256) : (UInt8.ofNat n).toNat = n :=
  UInt8.toNat_ofNat_of_lt h

theorem isContinuation_ofNat (n : Nat) : isContinuation (UInt8.ofNat (n % 64 + 128)) = true := by
  rw [isContinuation_iff, toNat_ofNat (by omega)]
  omega

theorem payload_ofNat (n : Nat) : payload (UInt8.ofNat (n % 64 + 128)) = n % 64 := by
  rw [payload, toNat_ofNat (by omega)]
  omega

theorem step_number_one (h : v ≤ 127) : step (UInt8.ofNat v) rest = .code (.ofNat v) 1 rest := by
  have hFirst := toNat_ofNat (n := v) (by omega)
  rw [step_one rest (by omega), hFirst]

theorem step_number_two (h : 127 < v) (hLast : v ≤ 2047) :
    step (UInt8.ofNat (v / 64 % 32 + 192)) (UInt8.ofNat (v % 64 + 128) :: rest) =
      .code (.ofNat v) 2 rest := by
  have hFirst := toNat_ofNat (n := v / 64 % 32 + 192) (by omega)
  have hSecond := toNat_ofNat (n := v % 64 + 128) (by omega)
  have hNext : mayFollow (UInt8.ofNat (v / 64 % 32 + 192)) (UInt8.ofNat (v % 64 + 128)) = true := by
    rw [mayFollow_iff, hFirst, hSecond]
    omega
  have hNumber : (v / 64 % 32 + 192) % 32 * 64 + v % 64 = v := by omega
  rw [step_two rest (by omega) (by omega) hNext, payload_ofNat, hFirst, hNumber]

/-- Surrogates are ruled out by the second byte. -/
theorem step_number_three (h : 2047 < v) (hLast : v ≤ 65535) (hValid : v < 0xD800 ∨ 0xDFFF < v) :
    step (UInt8.ofNat (v / 4096 % 16 + 224))
        (UInt8.ofNat (v / 64 % 64 + 128) :: UInt8.ofNat (v % 64 + 128) :: rest) =
      .code (.ofNat v) 3 rest := by
  have hFirst := toNat_ofNat (n := v / 4096 % 16 + 224) (by omega)
  have hSecond := toNat_ofNat (n := v / 64 % 64 + 128) (by omega)
  have hNext : mayFollow (UInt8.ofNat (v / 4096 % 16 + 224))
      (UInt8.ofNat (v / 64 % 64 + 128)) = true := by
    rw [mayFollow_iff, hFirst, hSecond]
    omega
  have hNumber : ((v / 4096 % 16 + 224) % 16 * 64 + v / 64 % 64) * 64 + v % 64 = v := by omega
  rw [step_three rest (by omega) (by omega) hNext (isContinuation_ofNat v), payload_ofNat,
    payload_ofNat, hFirst, hNumber]

theorem step_number_four (h : 65535 < v) (hLast : v < 0x110000) :
    step (UInt8.ofNat (v / 262144 % 8 + 240))
        (UInt8.ofNat (v / 4096 % 64 + 128) :: UInt8.ofNat (v / 64 % 64 + 128) ::
          UInt8.ofNat (v % 64 + 128) :: rest) =
      .code (.ofNat v) 4 rest := by
  have hFirst := toNat_ofNat (n := v / 262144 % 8 + 240) (by omega)
  have hSecond := toNat_ofNat (n := v / 4096 % 64 + 128) (by omega)
  have hNext : mayFollow (UInt8.ofNat (v / 262144 % 8 + 240))
      (UInt8.ofNat (v / 4096 % 64 + 128)) = true := by
    rw [mayFollow_iff, hFirst, hSecond]
    omega
  have hNumber : (((v / 262144 % 8 + 240) % 8 * 64 + v / 4096 % 64) * 64 + v / 64 % 64) * 64 +
      v % 64 = v := by omega
  rw [step_four rest (by omega) (by omega) hNext (isContinuation_ofNat (v / 64))
    (isContinuation_ofNat v), payload_ofNat, payload_ofNat, payload_ofNat, hFirst, hNumber]

end

/-- The bytes of a character are one sequence, which is read as that character. -/
theorem step_encodeChar (c : Char) (rest : Bytes) :
    ∃ b more, encodeChar c = b :: more ∧
      step b (more ++ rest) = .code (.char c) (more.length + 1) rest := by
  have hValid : c.toNat < 0xD800 ∨ 0xDFFF < c.toNat ∧ c.toNat < 0x110000 := c.valid
  have hCode : CodePoint.ofNat c.toNat = .char c := CodePoint.ofNat_toNat (.char c)
  have hNumber : c.val.toNat = c.toNat := rfl
  rw [encodeChar, String.utf8EncodeChar, hNumber, ← hCode]
  by_cases hOne : c.toNat ≤ 127
  · rw [if_pos hOne]
    exact ⟨_, [], rfl, step_number_one rest hOne⟩
  · rw [if_neg hOne]
    by_cases hTwo : c.toNat ≤ 2047
    · rw [if_pos hTwo]
      exact ⟨_, [_], rfl, step_number_two rest (by omega) hTwo⟩
    · rw [if_neg hTwo]
      by_cases hThree : c.toNat ≤ 65535
      · rw [if_pos hThree]
        exact ⟨_, [_, _], rfl, step_number_three rest (by omega) hThree (by omega)⟩
      · rw [if_neg hThree]
        exact ⟨_, [_, _, _], rfl, step_number_four rest (by omega) (by omega)⟩

/-! ### Texts -/

/-- Every code point of a text is a character; no surrogate stands alone. -/
def IsEncodable (t : Text) : Prop := ∀ p ∈ t, ∃ c : Char, p = .char c

theorem all_isSome_iff {t : Text} : (t.all fun p => p.toChar?.isSome) = true ↔ IsEncodable t := by
  rw [List.all_eq_true]
  refine forall₂_congr fun p _ => ?_
  cases p <;> simp [CodePoint.toChar?]

instance (t : Text) : Decidable (IsEncodable t) := decidable_of_iff _ all_isSome_iff

theorem surrogateRun?_of_isEncodable {t : Text} (h : IsEncodable t) : surrogateRun? t = none := by
  have hAll : ∀ p ∈ t, p.toChar?.isSome = true := List.all_eq_true.mp (all_isSome_iff.mpr h)
  have hBefore : t.takeWhile (fun p => p.toChar?.isSome) = t := List.takeWhile_eq_self_iff.mpr hAll
  rw [surrogateRun?, hBefore]
  simp only [List.drop_length]

theorem encode_of_isEncodable {t : Text} (h : IsEncodable t) :
    encode t = .ok (t.flatMap fun p => (p.toChar?.map encodeChar).getD []) := by
  rw [encode, surrogateRun?_of_isEncodable h]

theorem decodeFrom_encodeChar (offset : Nat) (c : Char) (rest : Bytes) :
    ∃ next, decodeFrom offset (encodeChar c ++ rest) =
      (decodeFrom next rest).map (.char c :: ·) := by
  obtain ⟨b, more, hBytes, hStep⟩ := step_encodeChar c rest
  refine ⟨offset + (more.length + 1), ?_⟩
  rw [hBytes, List.cons_append, decodeFrom]
  split
  · next hBad =>
      rw [hStep] at hBad
      cases hBad
  · next hGood =>
      rw [hStep] at hGood
      cases hGood
      rfl

theorem decodeFrom_flatMap {t : Text} (h : IsEncodable t) (offset : Nat) :
    decodeFrom offset (t.flatMap fun p => (p.toChar?.map encodeChar).getD []) = .ok t := by
  induction t generalizing offset with
  | nil =>
      rw [List.flatMap_nil, decodeFrom]
  | cons p rest ih =>
      obtain ⟨c, rfl⟩ := h p List.mem_cons_self
      have hRest : IsEncodable rest := fun q hq => h q (List.mem_cons_of_mem _ hq)
      obtain ⟨next, hNext⟩ := decodeFrom_encodeChar offset c
        (rest.flatMap fun p => (p.toChar?.map encodeChar).getD [])
      rw [List.flatMap_cons]
      exact hNext.trans (by rw [ih hRest]; rfl)

/-- A text without surrogates that stand alone has bytes, and they give the text again. -/
theorem exists_encode {t : Text} (h : IsEncodable t) :
    ∃ bytes, encode t = .ok bytes ∧ decode bytes = .ok t :=
  ⟨_, encode_of_isEncodable h, decodeFrom_flatMap h 0⟩

end EntityForge.Utf8
