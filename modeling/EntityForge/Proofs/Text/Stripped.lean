import EntityForge.Text.Blank
import Mathlib.Data.List.TakeWhile

/-! # Stripped texts

Stripping a text is told by what is left: `StripsTo` says of a text that it is another one without
the blanks around it, and there is exactly one such text, the one that the two walks from the ends
find (`stripsTo_iff`).
-/

namespace EntityForge.Text

variable {t front core back : Text}

/-! ### The end of a text -/

/-- Stripping leaves a text alone that does not end in a blank. -/
theorem stripRight_eq_self (h : ∀ p ∈ t.getLast?, p.isBlank = false) : t.stripRight = t := by
  rw [← List.head?_reverse] at h
  rw [Text.stripRight]
  cases hr : t.reverse with
  | nil => rw [List.reverse_eq_nil_iff.mp hr]; rfl
  | cons p rest =>
      have hp : p.isBlank = false := h p (by rw [hr]; rfl)
      rw [List.dropWhile_cons, hp, if_neg (by simp), ← hr, List.reverse_reverse]

theorem stripRight_append_of_blank (h : ∀ p ∈ back, p.isBlank = true) :
    (t ++ back).stripRight = t.stripRight := by
  have hBack : back.reverse.dropWhile CodePoint.isBlank = [] :=
    List.dropWhile_eq_nil_iff.mpr fun p hp => h p (List.mem_reverse.mp hp)
  rw [stripRight, List.reverse_append, List.dropWhile_append, hBack]
  rfl

theorem stripRight_eq_nil_iff : t.stripRight = [] ↔ t.isBlank = true := by
  rw [stripRight, List.reverse_eq_nil_iff, List.dropWhile_eq_nil_iff, isBlank, List.all_eq_true]
  simp only [List.mem_reverse]

/-- What is stripped at its end does not end in a blank. -/
theorem no_blank_end_stripRight (t : Text) : ∀ p ∈ t.stripRight.getLast?, p.isBlank = false := by
  intro p hp
  rw [stripRight, List.getLast?_reverse] at hp
  have hNot := List.head?_dropWhile_not CodePoint.isBlank t.reverse
  rw [Option.mem_def.mp hp] at hNot
  simpa using hNot

/-- Only blanks are stripped off the end. -/
theorem exists_stripRight_append (t : Text) :
    ∃ back : Text, (∀ p ∈ back, p.isBlank = true) ∧ t = t.stripRight ++ back := by
  refine ⟨(t.reverse.takeWhile CodePoint.isBlank).reverse, fun p hp => ?_, ?_⟩
  · exact List.mem_takeWhile_imp (List.mem_reverse.mp hp)
  · rw [stripRight, ← List.reverse_append, List.takeWhile_append_dropWhile, List.reverse_reverse]

/-! ### The beginning of a text -/

/-- What is stripped at its beginning does not begin with a blank. -/
theorem no_blank_head_stripLeft (t : Text) : ∀ p ∈ t.stripLeft.head?, p.isBlank = false := by
  intro p hp
  have hNot := List.head?_dropWhile_not CodePoint.isBlank t
  rw [← stripLeft, Option.mem_def.mp hp] at hNot
  simpa using hNot

/-- Only blanks are stripped off the beginning. -/
theorem exists_append_stripLeft (t : Text) :
    ∃ front : Text, (∀ p ∈ front, p.isBlank = true) ∧ t = front ++ t.stripLeft :=
  ⟨t.takeWhile CodePoint.isBlank, fun _ hp => List.mem_takeWhile_imp hp,
    List.takeWhile_append_dropWhile.symm⟩

/-! ### Both ends -/

/-- The one text is the other one without the blanks around it. -/
structure StripsTo (t core : Text) : Prop where
  around : ∃ front back : Text, t = front ++ (core ++ back) ∧ (∀ p ∈ front, p.isBlank = true) ∧
    ∀ p ∈ back, p.isBlank = true
  no_blank_head : ∀ p ∈ core.head?, p.isBlank = false
  no_blank_end : ∀ p ∈ core.getLast?, p.isBlank = false

theorem stripsTo_strip (t : Text) : t.StripsTo t.strip := by
  obtain ⟨front, hFront, hLeft⟩ := exists_append_stripLeft t
  obtain ⟨back, hBack, hRight⟩ := exists_stripRight_append t.stripLeft
  refine ⟨⟨front, back, ?_, hFront, hBack⟩, fun p hp => ?_, no_blank_end_stripRight _⟩
  · rw [strip, ← hRight, ← hLeft]
  · -- what is stripped at its end has kept its beginning
    refine no_blank_head_stripLeft t p ?_
    rw [hRight, ← strip, List.head?_append, Option.mem_def.mp hp]
    rfl

theorem strip_of_stripsTo (h : t.StripsTo core) : t.strip = core := by
  obtain ⟨front, back, rfl, hFront, hBack⟩ := h.around
  rw [strip, stripLeft, List.dropWhile_append_of_pos hFront]
  cases core with
  | nil => rw [List.nil_append, List.dropWhile_eq_nil_iff.mpr hBack]; rfl
  | cons p rest =>
      have hp : p.isBlank = false := h.no_blank_head p rfl
      rw [List.cons_append, List.dropWhile_cons, hp, if_neg (by simp), ← List.cons_append,
        stripRight_append_of_blank hBack, stripRight_eq_self h.no_blank_end]

/-- There is one text that is another one without the blanks around it, the stripped one. -/
theorem stripsTo_iff : t.StripsTo core ↔ t.strip = core :=
  ⟨strip_of_stripsTo, fun h => h ▸ stripsTo_strip t⟩

end EntityForge.Text
