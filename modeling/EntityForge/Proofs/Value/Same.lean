import EntityForge.Proofs.Value.Rebuilt
import Mathlib.Data.List.Forall2

/-! # The same value

Two values are the same if they differ at most in the order of members.  No value is the same as an
object that has it as a member (`not_same_of_lookup?`): it would be such an object itself, with a
member that is the same as it is, and so on without end.
-/

namespace EntityForge.Value

/-- Values that differ at most in the order in which the members of objects come. -/
inductive Same : Value → Value → Prop
  | null : Same .null .null
  | bool (b : Bool) : Same (.bool b) (.bool b)
  | int (n : Int) : Same (.int n) (.int n)
  | float (x : Binary64) : Same (.float x) (.float x)
  | string (t : Text) : Same (.string t) (.string t)
  | list {items others : List Value} (hItems : List.Forall₂ Same items others) :
      Same (.list items) (.list others)
  | object {members others : Entries Value}
      (hMembers : ∀ key, Option.Rel Same (Entries.lookup? members key)
        (Entries.lookup? others key)) : Same (.object members) (.object others)

theorem sizeOf_lt_of_lookup? {members : Entries Value} {key : Text} {value : Value}
    (h : members.lookup? key = some value) : sizeOf value < sizeOf members :=
  sizeOf_lt_of_mem (Entries.mem_of_lookup? h)

theorem Same.refl (value : Value) : Same value value := by
  match value with
  | .null => exact .null
  | .bool b => exact .bool b
  | .int n => exact .int n
  | .float x => exact .float x
  | .string t => exact .string t
  | .list items =>
      refine .list ?_
      rw [List.forall₂_same]
      intro item hItem
      exact Same.refl item
  | .object members =>
      refine .object fun key => ?_
      cases hValue : Entries.lookup? members key with
      | none => exact .none
      | some value => exact .some (Same.refl value)
termination_by sizeOf value
decreasing_by
  · have hSize := List.sizeOf_lt_of_mem hItem
    simp only [Value.list.sizeOf_spec]
    omega
  · have hSize := sizeOf_lt_of_lookup? hValue
    simp only [Value.object.sizeOf_spec]
    omega

/-- Objects that hold the same values under the same names are the same. -/
theorem Same.of_lookup? {members others : Entries Value}
    (h : ∀ key, Entries.lookup? members key = Entries.lookup? others key) :
    Same (.object members) (.object others) := by
  refine .object fun key => ?_
  rw [h key]
  cases Entries.lookup? others key with
  | none => exact .none
  | some value => exact .some (Same.refl value)

/-- No value is the same as an object that holds it. -/
theorem not_same_of_lookup? {members : Entries Value} {key : Text} {value : Value}
    (h : members.lookup? key = some value) : ¬ Same value (.object members) := by
  induction hSize : sizeOf members using Nat.strongRecOn generalizing members value with
  | _ n ih =>
    intro hSame
    cases hSame with
    | object hMembers =>
        next inner =>
        have hInner := hMembers key
        have hLess := sizeOf_lt_of_lookup? h
        rw [h] at hInner
        cases hFound : Entries.lookup? inner key with
        | none =>
            rw [hFound] at hInner
            cases hInner
        | some value =>
            rw [hFound] at hInner
            cases hInner with
            | some hValue =>
                simp only [Value.object.sizeOf_spec] at hLess
                exact ih _ (by omega) hFound rfl hValue

end EntityForge.Value
