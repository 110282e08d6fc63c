import Mathlib.Data.List.Basic

/-! # Steps that fail at the first fault

A step over the items of a list either finds fault with an item or gives a result for it.  Going
through the list then fails with the first fault, and without any fault it gives all results in
order (`mapM_unlessFault`).  So what a monadic walk does can be said by two plain functions on the
items.
-/

namespace EntityForge

universe u v w

variable {ε : Type u} {α : Type v} {β : Type w}

/-- The result, unless there is a fault. -/
def unlessFault (fault? : Option ε) (result : α) : Except ε α :=
  match fault? with
  | some fault => .error fault
  | none => .ok result

@[simp]
theorem unlessFault_none (result : α) : unlessFault (none : Option ε) result = .ok result := rfl

@[simp]
theorem unlessFault_some (fault : ε) (result : α) :
    unlessFault (some fault) result = .error fault := rfl

theorem unlessFault_eq_ok_iff {fault? : Option ε} {result r : α} :
    unlessFault fault? result = .ok r ↔ fault? = none ∧ result = r := by
  cases fault? <;> simp

theorem unlessFault_eq_error_iff {fault? : Option ε} {result : α} {fault : ε} :
    unlessFault fault? result = .error fault ↔ fault? = some fault := by
  cases fault? <;> simp

/-- Two steps fail at the first of their faults. -/
theorem unlessFault_bind {ε : Type u} {α β : Type v} {fault? more? : Option ε} {a : α} {b : β}
    {next : α → Except ε β} (h : next a = unlessFault more? b) :
    (unlessFault fault? a >>= next) = unlessFault (fault?.or more?) b := by
  cases fault? with
  | some fault => rfl
  | none => exact h

theorem unlessFault_bind_ok {ε : Type u} {α β : Type v} {fault? : Option ε} {a : α} {b : β}
    {next : α → Except ε β} (h : next a = .ok b) :
    (unlessFault fault? a >>= next) = unlessFault fault? b := by
  cases fault? with
  | some fault => rfl
  | none => exact h

theorem mapM_unlessFault {ε : Type u} {α : Type v} {β : Type u} {step : α → Except ε β}
    {fault? : α → Option ε} {result : α → β} {items : List α}
    (h : ∀ a ∈ items, step a = unlessFault (fault? a) (result a)) :
    items.mapM step = unlessFault (items.findSome? fault?) (items.map result) := by
  induction items with
  | nil => rfl
  | cons a rest ih =>
      have hRest := ih fun b hb => h b (List.mem_cons_of_mem _ hb)
      have hFirst : (a :: rest).findSome? fault? = (fault? a).or (rest.findSome? fault?) := by
        cases hFault : fault? a <;> simp [hFault]
      rw [List.mapM_cons, h a List.mem_cons_self, hRest, hFirst]
      exact unlessFault_bind (unlessFault_bind_ok rfl)

theorem bind_eq_error_iff {ε : Type u} {α β : Type v} {x : Except ε α} {next : α → Except ε β}
    {fault : ε} :
    (x >>= next) = .error fault ↔
      x = .error fault ∨ ∃ a, x = .ok a ∧ next a = .error fault := by
  cases x <;> simp [bind, Except.bind]

theorem bind_eq_ok_iff {ε : Type u} {α β : Type v} {x : Except ε α} {next : α → Except ε β}
    {b : β} : (x >>= next) = .ok b ↔ ∃ a, x = .ok a ∧ next a = .ok b := by
  cases x <;> simp [bind, Except.bind]

theorem map_eq_error_iff {ε : Type u} {α : Type v} {β : Type w} {x : Except ε α} {f : α → β}
    {fault : ε} : x.map f = .error fault ↔ x = .error fault := by
  cases x <;> simp [Except.map]

theorem mapError_eq_ok_iff {ε : Type u} {δ : Type w} {α : Type v} {x : Except ε α} {f : ε → δ}
    {a : α} : x.mapError f = .ok a ↔ x = .ok a := by
  cases x <;> simp [Except.mapError]

theorem mapError_eq_error_iff {ε : Type u} {δ : Type w} {α : Type v} {x : Except ε α} {f : ε → δ}
    {fault : δ} : x.mapError f = .error fault ↔ ∃ e, x = .error e ∧ f e = fault := by
  cases x <;> simp [Except.mapError]

/-- What each step of a walk keeps, the walk keeps. -/
theorem map_of_mapM_eq_ok {ε : Type u} {α : Type v} {β : Type u} {γ : Type w}
    {step : α → Except ε β} {p : β → γ} {q : α → γ} {items : List α} {results : List β}
    (hStep : ∀ a b, step a = .ok b → p b = q a) (h : items.mapM step = .ok results) :
    results.map p = items.map q := by
  induction items generalizing results with
  | nil =>
      cases h
      rfl
  | cons a rest ih =>
      simp only [List.mapM_cons, bind, Except.bind, pure, Except.pure] at h
      split at h
      · cases h
      · next hFirst =>
          split at h
          · cases h
          · next hRest =>
              cases h
              rw [List.map_cons, List.map_cons, hStep _ _ hFirst, ih hRest]

theorem length_of_mapM_eq_ok {ε : Type u} {α : Type v} {β : Type u} {step : α → Except ε β}
    {items : List α} {results : List β} (h : items.mapM step = .ok results) :
    results.length = items.length := by
  have hUnits : results.map (fun _ => ()) = items.map fun _ => () :=
    map_of_mapM_eq_ok (fun _ _ _ => rfl) h
  simpa using congrArg List.length hUnits

/-- The result at a place is that of the item there. -/
theorem getElem?_of_mapM_eq_ok {ε : Type u} {α : Type v} {β : Type u} {step : α → Except ε β}
    {items : List α} {results : List β} (h : items.mapM step = .ok results) {i : Nat} {a : α}
    (hItem : items[i]? = some a) : ∃ b, step a = .ok b ∧ results[i]? = some b := by
  induction items generalizing results i with
  | nil => cases hItem
  | cons first rest ih =>
      rw [List.mapM_cons] at h
      obtain ⟨b, hFirst, hMore⟩ := bind_eq_ok_iff.mp h
      obtain ⟨more, hRest, hResults⟩ := bind_eq_ok_iff.mp hMore
      cases hResults
      cases i with
      | zero =>
          cases hItem
          exact ⟨b, hFirst, rfl⟩
      | succ i => exact ih hRest hItem

end EntityForge
