import EntityForge.Text.Basic

/-! # Tables over code points

A property of code points is a sorted list of closed ranges; a case mapping is a sorted list of
runs, each with a step and a shift. Looking up stops at the first range that begins too late.
-/

namespace EntityForge

/-- Sorted, disjoint, closed ranges of code point numbers. -/
abbrev CodeRanges := List (Nat × Nat)

/-- Does one of the ranges hold the number? -/
def CodeRanges.has : CodeRanges → Nat → Bool
  | [], _ => false
  | (first, last) :: rest, n =>
      if n < first then false else if n ≤ last then true else CodeRanges.has rest n

/-- Runs `(first, last, step, shift)`: the numbers `first`, `first + step`, … up to `last` are
moved by `shift`. -/
abbrev CaseRuns := List (Nat × Nat × Nat × Int)

/-- The number that the runs move `n` to; a number in no run stays. -/
def CaseRuns.shift : CaseRuns → Nat → Nat
  | [], n => n
  | (first, last, step, d) :: rest, n =>
      if n < first then n
      else if n ≤ last ∧ (n - first) % step = 0 then (n + d).toNat
      else CaseRuns.shift rest n

/-- A table holds only numbers of its ranges. -/
theorem CodeRanges.exists_of_has {ranges : CodeRanges} {n : Nat} (h : ranges.has n = true) :
    ∃ r ∈ ranges, r.1 ≤ n ∧ n ≤ r.2 := by
  induction ranges with
  | nil => simp [has] at h
  | cons r rest ih =>
      simp only [has] at h
      split at h
      · simp at h
      · split at h
        · exact ⟨r, List.mem_cons_self, by omega, by omega⟩
        · obtain ⟨s, hs, hn⟩ := ih h
          exact ⟨s, List.mem_cons_of_mem _ hs, hn⟩

end EntityForge
