import EntityForge.Naming.Literal
import Mathlib.Data.List.Basic

/-! # Literals can be read back

Every code point of a text is spelled by itself or behind a backslash.  Reading the spelling from
left to right gives the text back (`unescape_flatMap`), so different texts have different
literals; and no literal holds a line feed, a carriage return or a tab (`notMem_quote`).
-/

namespace EntityForge.Literal

/-- The code point that a mark behind a backslash stands for. -/
def meaning (mark : CodePoint) : CodePoint :=
  if mark = .char 'n' then .char '\n'
  else if mark = .char 'r' then .char '\r'
  else if mark = .char 't' then .char '\t'
  else mark

/-- The text that is spelled inside a literal. -/
def unescape : Text → Text
  | [] => []
  | [p] => [p]
  | p :: q :: rest =>
      if p = .char '\\' then meaning q :: unescape rest else p :: unescape (q :: rest)

theorem unescape_cons {p : CodePoint} (hp : p ≠ .char '\\') (t : Text) :
    unescape (p :: t) = p :: unescape t := by
  cases t with
  | nil => rfl
  | cons q rest => rw [unescape, if_neg hp]

theorem unescape_mark (mark : CodePoint) (t : Text) :
    unescape (.char '\\' :: mark :: t) = meaning mark :: unescape t := by
  rw [unescape, if_pos rfl]

/-- One code point is read back. -/
theorem unescape_escapeCode (p : CodePoint) (t : Text) :
    unescape (escapeCode p ++ t) = p :: unescape t := by
  rw [escapeCode]
  split_ifs with hBackslash hQuote hFeed hReturn hTab
  · rw [hBackslash]
    exact unescape_mark _ t
  · rw [hQuote]
    exact unescape_mark _ t
  · rw [hFeed]
    exact unescape_mark _ t
  · rw [hReturn]
    exact unescape_mark _ t
  · rw [hTab]
    exact unescape_mark _ t
  · exact unescape_cons hBackslash t

theorem unescape_flatMap (t : Text) : unescape (t.flatMap escapeCode) = t := by
  induction t with
  | nil => rfl
  | cons p rest ih => rw [List.flatMap_cons, unescape_escapeCode, ih]

/-- Different texts have different literals. -/
theorem quote_injective {s t : Text} (h : quote s = quote t) : s = t := by
  simp only [quote, List.cons_append, List.cons.injEq, true_and, List.append_cancel_right_eq] at h
  rw [← unescape_flatMap s, h, unescape_flatMap]

/-- No spelling holds a control that has a spelling itself. -/
theorem notMem_escapeCode {p : CodePoint} (hp : p ∈ text "\n\r\t") (q : CodePoint) :
    p ∉ escapeCode q := by
  rw [escapeCode]
  split_ifs with _ _ hFeed hReturn hTab
  iterate 5
    · revert p
      decide
  · rw [List.mem_singleton]
    rintro rfl
    have hCases : p = .char '\n' ∨ p = .char '\r' ∨ p = .char '\t' := by
      simpa [text] using hp
    rcases hCases with h | h | h
    · exact hFeed h
    · exact hReturn h
    · exact hTab h

/-- A literal holds none of the controls that it spells. -/
theorem notMem_quote {p : CodePoint} (hp : p ∈ text "\n\r\t") (t : Text) : p ∉ quote t := by
  have hQuote : p ≠ .char '"' := by
    rintro rfl
    exact absurd hp (by decide)
  simp [quote, notMem_escapeCode hp, hQuote]

theorem feed_not_mem_quote (t : Text) : CodePoint.char '\n' ∉ quote t :=
  notMem_quote (by decide) t

end EntityForge.Literal
