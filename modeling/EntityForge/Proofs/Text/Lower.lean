import EntityForge.Text.Blank
import EntityForge.Text.Lower
import Mathlib

/-! # Lower case

Lowering a text that is in lower case already changes nothing (`Text.lower_lower`).  A run of the
table moves an arithmetic progression to another one, and no run of the table moves a member of
that one further: this is compared run by run (`CaseRuns.settles`), not number by number.  What is
outside the table, the dotted capital I and the final sigma, is told by `CodePoint.IsLow`, which
every code point of a lowered text satisfies.

Two code points from outside ASCII have ASCII in their lower case: the dotted capital I, which
becomes a small one and a dot to put above it, and the Kelvin sign, which becomes a `k`
(`CodePoint.isLookAlike_iff`).  That there are no others is compared run by run too
(`CaseRuns.staysAbove`).  So a text whose lower case is ASCII and has no `k` in it is ASCII itself
(`Text.isAscii_of_lower`), and of a text in ASCII only the letters A to Z are changed
(`Text.lower_of_isAscii`).  Together they say which texts have a lower case of that kind
(`Text.lower_eq_iff`).
-/

namespace EntityForge

namespace CaseRuns

/-- Do the runs leave `lo`, `lo + step`, … up to `hi` in place?  A run does that lies beside them,
or that passes between them. -/
def misses (lo hi step : Nat) : CaseRuns → Bool
  | [] => true
  | (first, last, s, _) :: rest =>
      hi < first ||
        ((last < lo || (lo == hi || step % s == 0) && lo % s != first % s) &&
          misses lo hi step rest)

/-- Are the numbers that the runs move moved to code points that no run moves further, and that are
not the dotted capital I? -/
def settles (runs : CaseRuns) : Bool :=
  runs.all fun (first, last, step, d) =>
    0 ≤ first + d && last + d < 0x110000 && (last + d < 0x130 || 0x130 < first + d) &&
      misses (first + d).toNat (last + d).toNat step runs

variable {runs : CaseRuns} {n : Nat}

theorem mod_eq_of_sub_mod_eq_zero {start step : Nat} (hStart : start ≤ n)
    (h : (n - start) % step = 0) : start % step = n % step :=
  (Nat.modEq_iff_dvd' hStart).mpr (Nat.dvd_of_mod_eq_zero h)

theorem shift_of_misses {lo hi step : Nat} (h : misses lo hi step runs = true) (hLo : lo ≤ n)
    (hHi : n ≤ hi) (hStep : (n - lo) % step = 0) : runs.shift n = n := by
  induction runs with
  | nil => rfl
  | cons run rest ih =>
      obtain ⟨first, last, s, d⟩ := run
      simp only [misses, Bool.or_eq_true, Bool.and_eq_true, decide_eq_true_eq, beq_iff_eq,
        bne_iff_ne] at h
      rw [shift]
      by_cases hBefore : n < first
      · rw [if_pos hBefore]
      · rw [if_neg hBefore]
        obtain hAfter | ⟨hApart, hRest⟩ := h
        · omega
        · have hNot : ¬ (n ≤ last ∧ (n - first) % s = 0) := by
            rintro ⟨hLast, hOn⟩
            obtain hAfter | ⟨hSteps, hOffset⟩ := hApart
            · omega
            · -- on both progressions `n` has the remainder of their first members
              refine hOffset (Eq.trans ?_ (mod_eq_of_sub_mod_eq_zero (by omega) hOn).symm)
              obtain rfl | hMultiple := hSteps
              · rw [Nat.le_antisymm hLo hHi]
              · exact mod_eq_of_sub_mod_eq_zero hLo (Nat.mod_eq_zero_of_dvd
                  ((Nat.dvd_of_mod_eq_zero hMultiple).trans (Nat.dvd_of_mod_eq_zero hStep)))
          rw [if_neg hNot]
          exact ih hRest

/-- A number stays, or it lies on a run, which moves it. -/
theorem shift_eq_or_exists (runs : CaseRuns) (n : Nat) :
    runs.shift n = n ∨ ∃ first last step d, (first, last, step, d) ∈ runs ∧
      first ≤ n ∧ n ≤ last ∧ (n - first) % step = 0 ∧ runs.shift n = (n + d).toNat := by
  induction runs with
  | nil => exact .inl rfl
  | cons run rest ih =>
      obtain ⟨first, last, step, d⟩ := run
      rw [shift]
      by_cases hBefore : n < first
      · exact .inl (if_pos hBefore)
      · rw [if_neg hBefore]
        by_cases hOn : n ≤ last ∧ (n - first) % step = 0
        · rw [if_pos hOn]
          exact .inr ⟨first, last, step, d, List.mem_cons_self, by omega, hOn.1, hOn.2, rfl⟩
        · rw [if_neg hOn]
          refine ih.imp_right ?_
          rintro ⟨first, last, step, d, hMem, hMoved⟩
          exact ⟨first, last, step, d, List.mem_cons_of_mem _ hMem, hMoved⟩

/-- What a number of code points that are not the dotted capital I is moved to. -/
theorem shift_spec (h : runs.settles = true) (hCode : n < 0x110000) (hDotted : n ≠ 0x130) :
    runs.shift (runs.shift n) = runs.shift n ∧ runs.shift n < 0x110000 ∧ runs.shift n ≠ 0x130 := by
  obtain hStays | ⟨first, last, step, d, hMem, hFirst, hLast, hStep, hMoved⟩ :=
    shift_eq_or_exists runs n
  · rw [hStays]
    exact ⟨hStays, hCode, hDotted⟩
  · have hRun := List.all_eq_true.mp h _ hMem
    simp only [Bool.and_eq_true, Bool.or_eq_true, decide_eq_true_eq] at hRun
    obtain ⟨⟨⟨hPositive, hBound⟩, hApart⟩, hMisses⟩ := hRun
    have hOffset : (n + d).toNat - (first + d).toNat = n - first := by omega
    rw [hMoved]
    refine ⟨shift_of_misses hMisses (by omega) (by omega) (by rw [hOffset, hStep]), ?_, ?_⟩
    · omega
    · omega

theorem settles_lowerRuns : Text.lowerRuns.settles = true := by decide +kernel

end CaseRuns

namespace CodePoint

theorem toNat_lt (p : CodePoint) : p.toNat < 0x110000 := by
  cases p with
  | char c =>
      have h := c.valid
      simp only [UInt32.isValidChar, Nat.isValidChar] at h
      simp only [toNat, Char.toNat]
      omega
  | surrogate k =>
      have h := k.isLt
      simp only [toNat]
      omega

theorem toNat_ofNat {n : Nat} (h : n < 0x110000) : (ofNat n).toNat = n := by
  by_cases hRange : 0xD800 ≤ n ∧ n < 0xE000
  · simp only [ofNat, dif_pos hRange, toNat]
    omega
  · have hValid : n.isValidChar := by
      simp only [Nat.isValidChar]
      omega
    rw [ofNat, dif_neg hRange, toNat, Char.toNat_ofNat, if_pos hValid]

/-- A code point that lowering leaves alone wherever it stands. -/
structure IsLow (p : CodePoint) : Prop where
  lower_eq : p.lower = [p]
  ne_sigma : p.toNat ≠ 0x3A3

theorem isLow_ofNat {n : Nat} (hShift : Text.lowerRuns.shift n = n) (hCode : n < 0x110000)
    (hDotted : n ≠ 0x130) : IsLow (ofNat n) where
  lower_eq := by rw [lower, toNat_ofNat hCode, if_neg hDotted, hShift]
  ne_sigma := by
    rw [toNat_ofNat hCode]
    rintro rfl
    exact absurd hShift (by decide +kernel)

/-- Lower case consists of code points that are in lower case. -/
theorem isLow_of_mem_lower {p q : CodePoint} (h : q ∈ p.lower) : IsLow q := by
  rw [lower] at h
  split at h
  · simp only [List.mem_cons, List.not_mem_nil, or_false] at h
    rcases h with rfl | rfl
    · exact isLow_ofNat (n := 0x69) (by decide +kernel) (by decide) (by decide)
    · exact isLow_ofNat (n := 0x307) (by decide +kernel) (by decide) (by decide)
  · next hDotted =>
    obtain ⟨hShift, hBound, hImage⟩ :=
      CaseRuns.shift_spec CaseRuns.settles_lowerRuns p.toNat_lt hDotted
    rw [List.mem_singleton.mp h]
    exact isLow_ofNat hShift hBound hImage

end CodePoint

namespace Text

open CodePoint (IsLow)

theorem isLow_of_mem_lowerAfter {before t : Text} {q : CodePoint} (h : q ∈ lowerAfter before t) :
    IsLow q := by
  induction t generalizing before with
  | nil => cases h
  | cons p rest ih =>
      simp only [lowerAfter] at h
      rcases List.mem_append.mp h with hHead | hRest
      · split at hHead
        · rw [List.mem_singleton.mp hHead]
          exact CodePoint.isLow_ofNat (n := 0x3C2) (by decide +kernel) (by decide) (by decide)
        · exact CodePoint.isLow_of_mem_lower hHead
      · exact ih hRest

theorem lowerAfter_of_isLow {before t : Text} (h : ∀ p ∈ t, IsLow p) : lowerAfter before t = t := by
  induction t generalizing before with
  | nil => rfl
  | cons p rest ih =>
      obtain ⟨hHead, hRest⟩ := List.forall_mem_cons.mp h
      simp only [lowerAfter, hHead.ne_sigma, decide_false, Bool.false_and, Bool.false_eq_true,
        if_false, hHead.lower_eq, ih hRest, List.singleton_append]

/-- Lowering twice is lowering once. -/
@[simp]
theorem lower_lower (t : Text) : t.lower.lower = t.lower :=
  lowerAfter_of_isLow fun _ => isLow_of_mem_lowerAfter

end Text

/-! ### ASCII -/

namespace CaseRuns

/-- Do the runs leave the numbers from `bound` on there?  A number that is moved below it has to be
listed, and to be a run of its own. -/
def staysAbove (bound : Nat) (listed : List Nat) (runs : CaseRuns) : Bool :=
  runs.all fun (first, last, _, d) =>
    last < bound || bound ≤ first + d || (first == last && listed.contains first)

theorem le_shift_of_staysAbove {runs : CaseRuns} {bound n : Nat} {listed : List Nat}
    (h : runs.staysAbove bound listed = true) (hBound : bound ≤ n) (hListed : n ∉ listed) :
    bound ≤ runs.shift n := by
  obtain hStays | ⟨first, last, step, d, hMem, hFirst, hLast, -, hMoved⟩ :=
    shift_eq_or_exists runs n
  · rw [hStays]
    exact hBound
  · have hRun := List.all_eq_true.mp h _ hMem
    simp only [Bool.or_eq_true, Bool.and_eq_true, decide_eq_true_eq, beq_iff_eq,
      List.contains_iff_mem] at hRun
    obtain (hBelow | hAbove) | ⟨hOne, hIn⟩ := hRun
    · omega
    · rw [hMoved]
      omega
    · have hFirstEq : first = n := by omega
      exact absurd (hFirstEq ▸ hIn) hListed

theorem staysAbove_lowerRuns : Text.lowerRuns.staysAbove 0x80 [0x212A] = true := by
  decide +kernel

end CaseRuns

namespace CodePoint

variable {p : CodePoint}

/-- A code point of ASCII. -/
def IsAscii (p : CodePoint) : Prop := p.toNat < 0x80

instance : DecidablePred IsAscii := fun p => inferInstanceAs (Decidable (p.toNat < 0x80))

/-- The letters A to Z in lower case; any other code point stays. -/
def asciiLower : CodePoint → CodePoint
  | .char c => .char c.toLower
  | .surrogate k => .surrogate k

theorem lower_of_isAscii (h : p.IsAscii) : p.lower = [p.asciiLower] := by
  have hAll : ∀ n : Fin 0x80, (ofNat n).lower = [(ofNat n).asciiLower] := by decide +kernel
  have hp := hAll ⟨p.toNat, h⟩
  rwa [ofNat_toNat] at hp

/-- A code point from outside ASCII with ASCII in its lower case. -/
structure IsLookAlike (p : CodePoint) : Prop where
  not_isAscii : ¬ p.IsAscii
  exists_lower : ∃ q ∈ p.lower, q.IsAscii

/-- The capital I with a dot and the Kelvin sign are the only ones. -/
theorem isLookAlike_iff : p.IsLookAlike ↔ p = .char '\u0130' ∨ p = .char '\u212A' := by
  constructor
  · rintro ⟨hOutside, q, hMem, hAscii⟩
    by_cases hDotted : p.toNat = 0x130
    · exact .inl (toNat_injective hDotted)
    · refine .inr (toNat_injective ?_)
      rw [lower, if_neg hDotted, List.mem_singleton] at hMem
      obtain ⟨-, hCode, -⟩ := CaseRuns.shift_spec CaseRuns.settles_lowerRuns p.toNat_lt hDotted
      rw [hMem, IsAscii, toNat_ofNat hCode] at hAscii
      by_contra hOther
      have hAbove := CaseRuns.le_shift_of_staysAbove CaseRuns.staysAbove_lowerRuns
        (Nat.le_of_not_lt hOutside) (fun h => hOther (List.mem_singleton.mp h))
      omega
  · rintro (rfl | rfl)
    · exact ⟨by decide, .char 'i', by decide +kernel, by decide⟩
    · exact ⟨by decide, .char 'k', by decide +kernel, by decide⟩

theorem IsLookAlike.isBlank_eq_false (h : p.IsLookAlike) : p.isBlank = false := by
  rcases isLookAlike_iff.mp h with rfl | rfl
  · decide
  · decide

/-- The lower case of a look-alike has something from outside ASCII in it, or it is a `k`. -/
theorem isAscii_of_lower (h : ∀ q ∈ p.lower, q.IsAscii ∧ q ≠ .char 'k') : p.IsAscii := by
  by_contra hOutside
  obtain ⟨first, rest, hLower⟩ : ∃ first rest, p.lower = first :: rest := by
    rw [lower]
    split
    · exact ⟨_, _, rfl⟩
    · exact ⟨_, _, rfl⟩
  have hFirst : first ∈ p.lower := by simp [hLower]
  rcases isLookAlike_iff.mp ⟨hOutside, first, hFirst, (h first hFirst).1⟩ with rfl | rfl
  · exact absurd (h (.char '\u0307') (by decide +kernel)).1 (by decide)
  · exact (h (.char 'k') (by decide +kernel)).2 rfl

end CodePoint

namespace Text

variable {t key : Text}

/-- A text in ASCII. -/
def IsAscii (t : Text) : Prop := ∀ p ∈ t, p.IsAscii

instance : DecidablePred IsAscii := fun t => inferInstanceAs (Decidable (∀ p ∈ t, p.IsAscii))

/-- Texts that are alike but for the case of the letters A to Z. -/
def SameLetters (s t : Text) : Prop := s.map CodePoint.asciiLower = t.map CodePoint.asciiLower

instance (s t : Text) : Decidable (s.SameLetters t) :=
  inferInstanceAs (Decidable (s.map CodePoint.asciiLower = t.map CodePoint.asciiLower))

theorem isAscii_of_lowerAfter {before : Text}
    (h : ∀ q ∈ lowerAfter before t, q.IsAscii ∧ q ≠ .char 'k') : t.IsAscii := by
  induction t generalizing before with
  | nil => exact fun _ hp => absurd hp List.not_mem_nil
  | cons p rest ih =>
      rw [lowerAfter, List.forall_mem_append] at h
      obtain ⟨hHead, hRest⟩ := h
      refine List.forall_mem_cons.mpr ⟨?_, ih hRest⟩
      split at hHead
      · -- neither form of the small sigma is in ASCII
        exact absurd (hHead _ List.mem_cons_self).1 (by decide)
      · exact CodePoint.isAscii_of_lower hHead

theorem isAscii_of_lower (hAscii : t.lower.IsAscii) (hKelvin : CodePoint.char 'k' ∉ t.lower) :
    t.IsAscii :=
  isAscii_of_lowerAfter fun q hq => ⟨hAscii q hq, fun hk => hKelvin (hk ▸ hq)⟩

theorem lowerAfter_of_isAscii {before : Text} (h : t.IsAscii) :
    lowerAfter before t = t.map CodePoint.asciiLower := by
  induction t generalizing before with
  | nil => rfl
  | cons p rest ih =>
      obtain ⟨hHead, hRest⟩ := List.forall_mem_cons.mp h
      have hSigma : p.toNat ≠ 0x3A3 := by
        have hp : p.toNat < 0x80 := hHead
        omega
      simp only [lowerAfter, hSigma, decide_false, Bool.false_and, Bool.false_eq_true, if_false,
        CodePoint.lower_of_isAscii hHead, ih hRest, List.singleton_append, List.map_cons]

/-- In ASCII only the letters A to Z are changed. -/
theorem lower_of_isAscii (h : t.IsAscii) : t.lower = t.map CodePoint.asciiLower :=
  lowerAfter_of_isAscii h

/-- The texts with a given lower case in ASCII that has no `k` are those in ASCII with the same
letters. -/
theorem lower_eq_iff (hAscii : key.IsAscii) (hKelvin : CodePoint.char 'k' ∉ key)
    (hLow : key.map CodePoint.asciiLower = key) :
    t.lower = key ↔ t.IsAscii ∧ t.SameLetters key := by
  rw [SameLetters, hLow]
  constructor
  · rintro rfl
    have ht := isAscii_of_lower hAscii hKelvin
    exact ⟨ht, (lower_of_isAscii ht).symm⟩
  · rintro ⟨ht, hSame⟩
    rw [lower_of_isAscii ht, hSame]

end Text

end EntityForge
