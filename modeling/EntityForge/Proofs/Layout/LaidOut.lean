import EntityForge.Layout
import EntityForge.Proofs.Text.Lines
import Mathlib.Data.List.Chain

/-! # Code that layout leaves as it is

Layout strips the lines and limits runs of blank ones.  Code whose lines are stripped already and
never blank twice in a row comes out with the same lines, so that the line ending between them is
all that layout decides: `format_join`.

A page of code is put together from full lines and from blocks that end in a blank line; the
lemmas on `IsLaidOut` follow these two ways.
-/

namespace EntityForge.Layout

/-- Lines that are stripped already, none of them blank right after another blank one. -/
structure IsLaidOut (ls : List Text) : Prop where
  isLine : ∀ l ∈ ls, l.IsLine
  spaced : ls.IsChain fun a b => a ≠ [] ∨ b ≠ []

namespace IsLaidOut

theorem singleton {l : Text} (h : l.IsLine) : IsLaidOut [l] :=
  ⟨by simp [h], List.isChain_singleton l⟩

theorem cons {l : Text} {ls : List Text} (hl : l.IsFullLine) (h : IsLaidOut ls) :
    IsLaidOut (l :: ls) :=
  ⟨List.forall_mem_cons.mpr ⟨hl.isLine, h.isLine⟩,
    List.isChain_cons.mpr ⟨fun _ _ => .inl hl.ne_nil, h.spaced⟩⟩

/-- A blank line may stand before lines that do not begin with one. -/
theorem blank_cons {ls : List Text} (hHead : ∀ l ∈ ls.head?, l ≠ []) (h : IsLaidOut ls) :
    IsLaidOut ([] :: ls) :=
  ⟨List.forall_mem_cons.mpr ⟨.nil, h.isLine⟩,
    List.isChain_cons.mpr ⟨fun l hl => .inr (hHead l hl), h.spaced⟩⟩

theorem append {front ls : List Text} (hFront : ∀ l ∈ front, l.IsFullLine) (h : IsLaidOut ls) :
    IsLaidOut (front ++ ls) := by
  induction front with
  | nil => exact h
  | cons l rest ih =>
      have hRest := ih fun l hl => hFront l (List.mem_cons_of_mem _ hl)
      exact hRest.cons (hFront l List.mem_cons_self)

/-- Blocks of lines, each with a blank line behind it, may stand before lines that do not begin
with a blank one. -/
theorem flatMap_append {α : Type} {block : α → List Text} {items : List α} {ls : List Text}
    (hBlock : ∀ item ∈ items, block item ≠ [] ∧ ∀ l ∈ block item, l.IsFullLine)
    (hHead : ∀ l ∈ ls.head?, l ≠ []) (h : IsLaidOut ls) :
    IsLaidOut (items.flatMap (fun item => block item ++ [[]]) ++ ls) := by
  -- the head is part of the invariant: the blank line of a block comes before the next block
  suffices hBoth : IsLaidOut (items.flatMap (fun item => block item ++ [[]]) ++ ls) ∧
      ∀ l ∈ (items.flatMap (fun item => block item ++ [[]]) ++ ls).head?, l ≠ [] from hBoth.1
  induction items with
  | nil => exact ⟨h, hHead⟩
  | cons item rest ih =>
      obtain ⟨hne, hLines⟩ := hBlock item List.mem_cons_self
      obtain ⟨hRest, hRestHead⟩ := ih fun item hi => hBlock item (List.mem_cons_of_mem _ hi)
      simp only [List.flatMap_cons, List.append_assoc, List.singleton_append]
      refine ⟨append hLines (blank_cons hRestHead hRest), fun l hl => ?_⟩
      rw [List.head?_append_of_ne_nil _ hne] at hl
      exact (hLines l (List.mem_of_mem_head? hl)).ne_nil

end IsLaidOut

/-- Spaced lines stay as they are, right after another line or after a single blank line. -/
theorem limitBlankLines_eq_self {ls : List Text}
    (h : ls.IsChain fun a b => a ≠ [] ∨ b ≠ []) {blanks : Nat}
    (hBlanks : blanks = 0 ∨ blanks = 1 ∧ ∀ l ∈ ls.head?, l ≠ []) :
    limitBlankLines blanks ls = ls := by
  induction ls generalizing blanks with
  | nil => rfl
  | cons l rest ih =>
      obtain ⟨hHead, hRest⟩ := List.isChain_cons.mp h
      by_cases hl : l = []
      · subst hl
        have hZero : blanks = 0 := by simpa using hBlanks
        have hNext := ih hRest (.inr ⟨rfl, fun l hl => by simpa using hHead l hl⟩)
        simp [limitBlankLines, maxBlankLines, hZero, hNext]
      · simp [limitBlankLines, hl, ih hRest (.inl rfl)]

/-- Layout of such lines only puts its line ending between them. -/
theorem format_join {ls : List Text} (hne : ls ≠ []) (h : IsLaidOut ls) (lineEnding : Text) :
    format lineEnding (Text.join (text "\n") ls) = Text.join lineEnding ls := by
  have hStrip : ls.map Text.stripRight = ls := by
    conv_rhs => rw [← List.map_id ls]
    exact List.map_congr_left fun l hl => (h.isLine l hl).stripRight
  rw [format, formattedLines, Text.lines_join hne fun l hl => (h.isLine l hl).no_feed, hStrip,
    limitBlankLines_eq_self h.spaced (.inl rfl)]

end EntityForge.Layout
