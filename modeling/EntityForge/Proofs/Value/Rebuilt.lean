import EntityForge.Proofs.Entries
import EntityForge.Value.Basic

/-! # Rebuilt values

A value is rebuilt from the inside out: every object in it gets another form, made from its members
with their values rebuilt before.  The names of the members are what they were.
-/

namespace EntityForge

namespace Value

mutual

/-- A value with the members of every object put in another form, from the inside out. -/
def rebuilt (form : Entries Value → Entries Value) : Value → Value
  | .list items => .list (rebuiltItems form items)
  | .object members => .object (form (rebuiltMembers form members))
  | value => value

/-- The items of a list, each rebuilt. -/
def rebuiltItems (form : Entries Value → Entries Value) : List Value → List Value
  | [] => []
  | item :: rest => rebuilt form item :: rebuiltItems form rest

/-- The members of an object, each with its value rebuilt. -/
def rebuiltMembers (form : Entries Value → Entries Value) : Entries Value → Entries Value
  | [] => []
  | (name, value) :: rest => (name, rebuilt form value) :: rebuiltMembers form rest

end

/-- The value in which each object keeps only the last member of a name, at the place of the
first. -/
def collapsed : Value → Value := rebuilt Entries.ofPairs

/-- The value of a member is smaller than the object. -/
theorem sizeOf_lt_of_mem {members : Entries Value} {name : Text} {value : Value}
    (h : (name, value) ∈ members) : sizeOf value < sizeOf members := by
  have hMember := List.sizeOf_lt_of_mem h
  simp only [Prod.mk.sizeOf_spec] at hMember
  omega

section

variable (form : Entries Value → Entries Value)

theorem rebuiltItems_eq_map (items : List Value) :
    rebuiltItems form items = items.map (rebuilt form) := by
  induction items with
  | nil => rfl
  | cons item rest ih => rw [rebuiltItems, ih, List.map_cons]

theorem rebuiltMembers_eq_map (members : Entries Value) :
    rebuiltMembers form members = members.map fun member => (member.1, rebuilt form member.2) := by
  induction members with
  | nil => rfl
  | cons member rest ih => rw [rebuiltMembers, ih, List.map_cons]

theorem names_rebuiltMembers (members : Entries Value) :
    Entries.names (rebuiltMembers form members) = members.names := by
  rw [rebuiltMembers_eq_map, Entries.names, List.map_map]
  rfl

end

end Value

end EntityForge
