import EntityForge.Proofs.Text.Stripped
import Mathlib.Data.List.Basic

/-! # Lines of a text

A list of lines can be joined to one text and taken apart again: `lines_join` says that nothing is
lost as long as no line holds a line feed itself.  A line that layout leaves as it is has no blank
at its end either; `IsLine` is both together, and it is kept when something is put in front of a
line.
-/

namespace EntityForge.Text

/-- What stands in front of the first mark, and what stands behind it, can be told. -/
theorem append_cons_cancel {α : Type} {mark : α} {x₁ x₂ z₁ z₂ : List α} (h₁ : mark ∉ x₁)
    (h₂ : mark ∉ x₂) (h : x₁ ++ mark :: z₁ = x₂ ++ mark :: z₂) : x₁ = x₂ ∧ z₁ = z₂ := by
  induction x₁ generalizing x₂ with
  | nil =>
      cases x₂ with
      | nil => exact ⟨rfl, (List.cons.inj h).2⟩
      | cons a rest => exact absurd (List.cons.inj h).1 (List.ne_of_not_mem_cons h₂)
  | cons a rest ih =>
      cases x₂ with
      | nil => exact absurd (List.cons.inj h).1.symm (List.ne_of_not_mem_cons h₁)
      | cons b more =>
          obtain ⟨hHead, hTail⟩ := List.cons.inj h
          obtain ⟨hRest, hBack⟩ := ih (List.not_mem_of_not_mem_cons h₁)
            (List.not_mem_of_not_mem_cons h₂) hTail
          exact ⟨by rw [hHead, hRest], hBack⟩

/-- Splitting at a code point is splitting a list at one of its items. -/
theorem splitOn_eq_listSplitOn (sep : CodePoint) (t : Text) :
    splitOn sep t = List.splitOn sep t := by
  induction t with
  | nil => simp
  | cons p rest ih =>
      rw [List.splitOn_cons_eq_if_modifyHead, splitOn, ih]
      by_cases hp : p = sep
      · simp [hp]
      · obtain ⟨piece, pieces, he⟩ := List.exists_cons_of_ne_nil (List.splitOn_ne_nil sep rest)
        simp [hp, he]

theorem splitOn_cons_of_ne {sep p : CodePoint} (h : p ≠ sep) (rest : Text) :
    ∃ piece pieces, splitOn sep rest = piece :: pieces ∧
      splitOn sep (p :: rest) = (p :: piece) :: pieces := by
  obtain ⟨piece, pieces, he⟩ := List.exists_cons_of_ne_nil (splitOn_ne_nil sep rest)
  exact ⟨piece, pieces, he, by simp [splitOn, h, he]⟩

/-- A text without the separator is one piece. -/
theorem splitOn_of_notMem {sep : CodePoint} {t : Text} (h : sep ∉ t) : splitOn sep t = [t] := by
  induction t with
  | nil => rfl
  | cons p rest ih =>
      have hFirst : p ≠ sep := (List.ne_of_not_mem_cons h).symm
      obtain ⟨piece, pieces, he, hSplit⟩ := splitOn_cons_of_ne hFirst rest
      rw [ih (List.not_mem_of_not_mem_cons h)] at he
      cases he
      exact hSplit

/-- No piece holds the separator. -/
theorem notMem_of_mem_splitOn {sep : CodePoint} {t piece : Text} (h : piece ∈ splitOn sep t) :
    sep ∉ piece := by
  induction t generalizing piece with
  | nil =>
      rw [List.mem_singleton.mp h]
      exact List.not_mem_nil
  | cons p rest ih =>
      by_cases hp : p = sep
      · rw [hp, splitOn_cons_self] at h
        rcases List.mem_cons.mp h with rfl | hMore
        · exact List.not_mem_nil
        · exact ih hMore
      · obtain ⟨first, pieces, he, hSplit⟩ := splitOn_cons_of_ne hp rest
        rw [hSplit] at h
        rw [he] at ih
        rcases List.mem_cons.mp h with rfl | hMore
        · exact List.not_mem_cons_of_ne_of_not_mem (Ne.symm hp) (ih List.mem_cons_self)
        · exact ih (List.mem_cons_of_mem _ hMore)

/-- Joined lines can be taken apart again. -/
theorem lines_join {ls : List Text} (hne : ls ≠ []) (h : ∀ l ∈ ls, CodePoint.char '\n' ∉ l) :
    lines (join (text "\n") ls) = ls := by
  rw [lines, splitOn_eq_listSplitOn]
  exact List.splitOn_intercalate _ h hne

/-- Lines of which the last is empty are joined by a line feed behind each of the others. -/
theorem join_concat_nil (sep : Text) (ls : List Text) :
    join sep (ls ++ [[]]) = ls.flatMap (· ++ sep) := by
  induction ls with
  | nil => rfl
  | cons l rest ih =>
      have hRest : rest ++ [[]] ≠ [] := by simp
      simp only [join, List.cons_append, List.flatMap_cons] at ih ⊢
      rw [List.intercalate_cons_of_ne_nil hRest, ih, List.append_assoc]

/-- A line that can be laid out as it is: it holds no line feed and does not end in a blank. -/
structure IsLine (t : Text) : Prop where
  no_feed : CodePoint.char '\n' ∉ t
  no_blank_end : ∀ p ∈ t.getLast?, p.isBlank = false

instance (t : Text) : Decidable t.IsLine :=
  decidable_of_iff (CodePoint.char '\n' ∉ t ∧ ∀ p ∈ t.getLast?, p.isBlank = false)
    ⟨fun h => ⟨h.1, h.2⟩, fun h => ⟨h.1, h.2⟩⟩

namespace IsLine

theorem nil : IsLine [] := ⟨by simp, by simp⟩

theorem stripRight {t : Text} (h : IsLine t) : t.stripRight = t :=
  stripRight_eq_self h.no_blank_end

/-- What stands in front of a line makes a line with it, if it holds no line feed. -/
theorem append {front t : Text} (hFront : CodePoint.char '\n' ∉ front) (hne : t ≠ [])
    (h : IsLine t) : IsLine (front ++ t) := by
  refine ⟨by simp [hFront, h.no_feed], ?_⟩
  rw [List.getLast?_append_of_ne_nil _ hne]
  exact h.no_blank_end

end IsLine

/-- A line with something on it. -/
structure IsFullLine (t : Text) : Prop where
  ne_nil : t ≠ []
  isLine : t.IsLine

instance (t : Text) : Decidable t.IsFullLine :=
  decidable_of_iff (t ≠ [] ∧ t.IsLine) ⟨fun h => ⟨h.1, h.2⟩, fun h => ⟨h.1, h.2⟩⟩

namespace IsFullLine

theorem append {front t : Text} (hFront : CodePoint.char '\n' ∉ front) (h : t.IsFullLine) :
    (front ++ t).IsFullLine :=
  ⟨by simp [h.ne_nil], h.isLine.append hFront h.ne_nil⟩

end IsFullLine

end EntityForge.Text
