import EntityForge.Text.Basic
import Mathlib.Data.List.Basic

/-! # Decimal numerals

The numeral of an integer holds only digits and perhaps a minus sign, and begins with one of these.
Different integers have different numerals.
-/

namespace EntityForge.Text

/-- A code point of the numeral of an integer. -/
def isNumeralCode (p : CodePoint) : Bool := p.isDigit || p == .char '-'

theorem isDigit_of_mem_ofNat {n : Nat} : ∀ p ∈ ofNat n, p.isDigit = true := by
  intro p hp
  obtain ⟨c, hc, rfl⟩ := List.mem_map.mp hp
  have hDigit := Nat.isDigit_of_mem_toDigits (by decide) (by decide) hc
  simp only [Char.isDigit, UInt32.le_iff_toNat_le, Bool.and_eq_true, decide_eq_true_eq] at hDigit
  simp only [CodePoint.isDigit, CodePoint.toNat, Bool.and_eq_true]
  exact ⟨decide_eq_true hDigit.1, decide_eq_true hDigit.2⟩

theorem isNumeralCode_of_mem_ofInt {n : Int} : ∀ p ∈ ofInt n, isNumeralCode p = true := by
  intro p hp
  rw [ofInt] at hp
  split at hp
  · rcases List.mem_cons.mp hp with rfl | hp
    · decide
    · simp [isNumeralCode, isDigit_of_mem_ofNat p hp]
  · simp [isNumeralCode, isDigit_of_mem_ofNat p hp]

theorem ofNat_injective {m n : Nat} (h : ofNat m = ofNat n) : m = n := by
  have hInjective : Function.Injective CodePoint.char := fun _ _ he => CodePoint.char.inj he
  have hDigits := List.map_injective_iff.mpr hInjective h
  calc m = Nat.ofDigitChars 10 (Nat.toDigits 10 m) 0 := Nat.ofDigitChars_ten_toDigits.symm
    _ = Nat.ofDigitChars 10 (Nat.toDigits 10 n) 0 := by rw [hDigits]
    _ = n := Nat.ofDigitChars_ten_toDigits

/-- Does the text begin as a numeral does, with a digit or a minus sign? -/
def beginsAsNumeral (t : Text) : Bool := t.head?.any isNumeralCode

theorem beginsAsNumeral_ofNat (n : Nat) : (ofNat n).beginsAsNumeral = true := by
  cases hNumeral : ofNat n with
  | nil => exact absurd (List.map_eq_nil_iff.mp hNumeral) Nat.toDigits_ne_nil
  | cons p rest =>
      have hDigit : p.isDigit = true := isDigit_of_mem_ofNat (n := n) p (by simp [hNumeral])
      simp [beginsAsNumeral, isNumeralCode, hDigit]

theorem beginsAsNumeral_ofInt (n : Int) : (ofInt n).beginsAsNumeral = true := by
  rw [ofInt]
  split
  · rfl
  · exact beginsAsNumeral_ofNat _

/-- Different integers have different numerals. -/
theorem ofInt_injective {m n : Int} (h : ofInt m = ofInt n) : m = n := by
  -- a numeral with a minus sign is not the numeral of a natural number
  have hSign : ∀ a b : Nat, CodePoint.char '-' :: ofNat a ≠ ofNat b := by
    intro a b he
    have hMinus := isDigit_of_mem_ofNat (n := b) (.char '-') (by simp [← he])
    exact absurd hMinus (by decide)
  rw [ofInt, ofInt] at h
  split at h <;> split at h
  · have hAbs := ofNat_injective (List.cons.inj h).2
    omega
  · exact absurd h (hSign _ _)
  · exact absurd h.symm (hSign _ _)
  · have hAbs := ofNat_injective h
    omega

end EntityForge.Text
