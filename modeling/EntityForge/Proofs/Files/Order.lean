import EntityForge.Files.Path
import Mathlib

/-! # The order of paths

Paths are compared name by name, and names code point by code point.  Said with the numbers of the
code points, both are the lexicographic order of lists (`Text.le_iff`, `Path.le_iff`); so of any two
paths one comes first, and only paths with the same names come in the same place.
-/

namespace EntityForge

/-- In lexicographic order the first items decide unless they are the same. -/
theorem cons_le_cons_iff {α : Type} [LinearOrder α] {a b : α} {s t : List α} :
    a :: s ≤ b :: t ↔ a < b ∨ a = b ∧ s ≤ t := by
  rw [le_iff_lt_or_eq, le_iff_lt_or_eq, List.cons_lt_cons_iff, List.cons.injEq]
  tauto

namespace Text

/-- What texts are compared by: the numbers of their code points. -/
def key (t : Text) : List Nat := t.map CodePoint.toNat

theorem key_injective : Function.Injective key :=
  List.map_injective_iff.mpr fun _ _ => CodePoint.toNat_injective

theorem le_iff {s t : Text} : le s t = true ↔ s.key ≤ t.key := by
  induction s generalizing t with
  | nil => exact iff_of_true (by rw [le]) (not_lt.mp (List.not_lt_nil _))
  | cons p s ih =>
      cases t with
      | nil => exact iff_of_false (by simp [le]) (not_le.mpr (List.nil_lt_cons _ _))
      | cons q t =>
          rw [le, key, key, List.map_cons, List.map_cons, cons_le_cons_iff]
          by_cases hSame : p = q
          · subst hSame
            simpa [key] using ih
          · have hNe : p.toNat ≠ q.toNat := fun h => hSame (CodePoint.toNat_injective h)
            simp [hSame, hNe]

end Text

namespace Path

/-- What paths are compared by: the keys of their names, one after the other. -/
def key (path : Path) : List (List Nat) := path.parts.map Text.key

theorem parts_eq_of_key_eq {p q : Path} (h : p.key = q.key) : p.parts = q.parts :=
  List.map_injective_iff.mpr Text.key_injective h

theorem compareParts_iff {s t : List Text} :
    le.compareParts s t = true ↔ s.map Text.key ≤ t.map Text.key := by
  induction s generalizing t with
  | nil => exact iff_of_true (by rw [le.compareParts]) (not_lt.mp (List.not_lt_nil _))
  | cons a s ih =>
      cases t with
      | nil => exact iff_of_false (by simp [le.compareParts]) (not_le.mpr (List.nil_lt_cons _ _))
      | cons b t =>
          rw [le.compareParts, List.map_cons, List.map_cons, cons_le_cons_iff]
          by_cases hSame : a = b
          · subst hSame
            simpa using ih
          · have hNe : a.key ≠ b.key := fun h => hSame (Text.key_injective h)
            rw [if_neg hSame, Text.le_iff, le_iff_lt_or_eq]
            simp [hNe]

theorem le_iff {p q : Path} : p.le q = true ↔ p.key ≤ q.key :=
  compareParts_iff

end Path

end EntityForge
