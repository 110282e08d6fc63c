import EntityForge.Repeated
import Mathlib.Data.List.Induction
import Mathlib.Data.List.Nodup

/-! # Second occurrences

A walk over a list reports each repeated key once, and where that is has a description without a
walk: at the item whose key exactly one earlier item has (`repeated_eq_secondOccurrences`).  The
induction runs on a split of the list, since what has been seen and reported at any place is told
by the counts of keys before it.  Nothing is reported exactly if all keys are different.

Second occurrences can be counted: a list that grows at its end gets at most one more
(`secondOccurrences_concat`), so a key is reported once if it is repeated and else not at all
(`count_map_secondOccurrences`).  `repeated_once_each` puts this together.
-/

namespace EntityForge

universe u v

variable {α : Type u} {β : Type v} [DecidableEq β] {key : α → β}

theorem repeatedFrom_eq_nil_iff {seen : List β} {items : List α} :
    repeatedFrom key seen [] items = [] ↔
      (∀ item ∈ items, key item ∉ seen) ∧ (items.map key).Nodup := by
  induction items generalizing seen with
  | nil => simp [repeatedFrom]
  | cons item rest ih =>
      by_cases hSeen : key item ∈ seen
      · simp [repeatedFrom, hSeen]
      · have hStep : repeatedFrom key seen [] (item :: rest) =
            repeatedFrom key (key item :: seen) [] rest := by
          simp [repeatedFrom, hSeen]
        have hSplit : (∀ i ∈ rest, key i ∉ key item :: seen) ↔
            key item ∉ rest.map key ∧ ∀ i ∈ rest, key i ∉ seen := by
          simp only [List.mem_cons, not_or, List.mem_map, not_exists, not_and]
          exact ⟨fun h => ⟨fun i hi => (h i hi).1, fun i hi => (h i hi).2⟩,
            fun h i hi => ⟨h.1 i hi, h.2 i hi⟩⟩
        rw [hStep, ih, hSplit, List.forall_mem_cons, List.map_cons, List.nodup_cons]
        tauto

/-- The items whose key exactly one earlier item has, in order. -/
def secondOccurrences (key : α → β) (items : List α) : List α :=
  (items.zipIdx.filter fun (item, place) =>
    ((items.take place).map key).count (key item) = 1).map Prod.fst

/-- The walk reports, after any first part of the list, the second occurrences among the rest. -/
theorem repeatedFrom_eq {seen reported : List β} {before rest : List α}
    (hSeen : ∀ k, k ∈ seen ↔ 1 ≤ (before.map key).count k)
    (hReported : ∀ k, k ∈ reported ↔ 2 ≤ (before.map key).count k) :
    repeatedFrom key seen reported rest =
      ((rest.zipIdx before.length).filter fun (item, place) =>
        (((before ++ rest).take place).map key).count (key item) = 1).map Prod.fst := by
  induction rest generalizing before seen reported with
  | nil => rfl
  | cons item rest ih =>
      have hCount : ∀ k, ((before ++ [item]).map key).count k =
          (before.map key).count k + if key item = k then 1 else 0 := by
        intro k
        simp [List.count_append, List.count_singleton]
      have hSeenNext : ∀ k, k ∈ key item :: seen ↔ 1 ≤ ((before ++ [item]).map key).count k := by
        intro k
        rw [List.mem_cons, hSeen, hCount]
        by_cases hk : key item = k
        · simp [hk]
        · simp [hk, Ne.symm hk]
      have hPart : (before ++ item :: rest).take before.length = before := List.take_left
      have hWhole : before ++ item :: rest = before ++ [item] ++ rest := by simp
      have hLength : before.length + 1 = (before ++ [item]).length := by simp
      have hSecond : (key item ∈ seen ∧ key item ∉ reported) ↔
          (before.map key).count (key item) = 1 := by
        rw [hSeen, hReported]
        omega
      rw [repeatedFrom, List.zipIdx_cons, List.filter_cons]
      simp only [hPart, decide_eq_true_eq]
      by_cases hOnce : (before.map key).count (key item) = 1
      · rw [if_pos (hSecond.mpr hOnce), if_pos hOnce, List.map_cons, hWhole, hLength]
        refine congrArg (item :: ·) (ih hSeenNext fun k => ?_)
        rw [List.mem_cons, hReported, hCount]
        by_cases hk : key item = k
        · subst hk
          simp [hOnce]
        · simp [hk, Ne.symm hk]
      · rw [if_neg (mt hSecond.mp hOnce), if_neg hOnce, hWhole, hLength]
        refine ih hSeenNext fun k => ?_
        rw [hReported, hCount]
        by_cases hk : key item = k
        · subst hk
          simp only [if_true]
          omega
        · simp [hk]

/-- Each repeated key is reported at its second occurrence. -/
theorem repeated_eq_secondOccurrences (items : List α) :
    repeated key items = secondOccurrences key items := by
  have hNone : ∀ bound, 0 < bound →
      ∀ k : β, k ∈ ([] : List β) ↔ bound ≤ (([] : List α).map key).count k := by
    intro bound hBound k
    simp only [List.not_mem_nil, List.map_nil, List.count_nil, false_iff]
    omega
  exact repeatedFrom_eq (hNone 1 (by omega)) (hNone 2 (by omega))

example : secondOccurrences id [1, 2, 1, 1, 2] = [1, 2] := by decide

/-- No key is repeated if and only if all keys are different. -/
theorem repeated_eq_nil_iff {items : List α} :
    repeated key items = [] ↔ (items.map key).Nodup := by
  simp [repeated, repeatedFrom_eq_nil_iff]

/-- One more item is a second occurrence if exactly one item before it has its key. -/
theorem secondOccurrences_concat (key : α → β) (items : List α) (item : α) :
    secondOccurrences key (items ++ [item]) =
      secondOccurrences key items ++
        if (items.map key).count (key item) = 1 then [item] else [] := by
  have hBefore : (items.zipIdx.filter fun (other, place) =>
      (((items ++ [item]).take place).map key).count (key other) = 1) =
      items.zipIdx.filter fun (other, place) =>
        ((items.take place).map key).count (key other) = 1 := by
    refine List.filter_congr fun (other, place) hMem => ?_
    have hPlace : place ≤ items.length := by
      have hLast := List.snd_lt_of_mem_zipIdx hMem
      omega
    simp only [List.take_append_of_le_length hPlace]
  rw [secondOccurrences, List.zipIdx_append, List.filter_append, List.map_append, hBefore]
  refine congrArg (secondOccurrences key items ++ ·) ?_
  by_cases hOnce : (items.map key).count (key item) = 1 <;> simp [hOnce]

/-- A key is reported once if it is repeated, and else not at all. -/
theorem count_map_secondOccurrences (items : List α) (k : β) :
    ((secondOccurrences key items).map key).count k =
      if 2 ≤ (items.map key).count k then 1 else 0 := by
  induction items using List.reverseRecOn with
  | nil => simp [secondOccurrences]
  | append_singleton items item ih =>
      rw [secondOccurrences_concat, List.map_append, List.count_append, ih, List.map_append,
        List.count_append, List.map_singleton, List.count_singleton]
      by_cases hk : key item = k
      · subst hk
        by_cases hOnce : (items.map key).count (key item) = 1
        · simp [hOnce]
        · have hMore : 2 ≤ (items.map key).count (key item) ↔
              2 ≤ (items.map key).count (key item) + 1 := by omega
          simp [hOnce, hMore]
      · have hNone : ((if (items.map key).count (key item) = 1 then [item] else []).map
            key).count k = 0 := by
          split <;> simp [hk]
        simp [hNone, hk]

/-- The reported items are the second occurrences of keys, in order. So nothing is reported exactly
if all keys are different; and the keys of the reported items are different from each other and are
the keys that occur twice or more. Items that are to be told apart as they are have `id` for
key. -/
theorem repeated_once_each (key : α → β) (items : List α) :
    repeated key items = secondOccurrences key items ∧
      (repeated key items = [] ↔ (items.map key).Nodup) ∧
      ((repeated key items).map key).Nodup ∧
      ∀ k, k ∈ (repeated key items).map key ↔ 2 ≤ (items.map key).count k := by
  have hCount : ∀ k, ((repeated key items).map key).count k =
      if 2 ≤ (items.map key).count k then 1 else 0 := by
    intro k
    rw [repeated_eq_secondOccurrences, count_map_secondOccurrences]
  refine ⟨repeated_eq_secondOccurrences items, repeated_eq_nil_iff, ?_, fun k => ?_⟩
  · rw [List.nodup_iff_count_le_one]
    intro k
    rw [hCount]
    split <;> omega
  · rw [← List.count_pos_iff, hCount]
    split <;> omega

end EntityForge
