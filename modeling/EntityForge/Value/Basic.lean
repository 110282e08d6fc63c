import EntityForge.Entries
import EntityForge.Number.Binary64

/-! # Dynamic values

Documents, settings and template data come from outside and may hold anything: these are their
values. The members of an object are entries in the order of first mention.
-/

namespace EntityForge

/-- A value of a document, a setting or a template variable. -/
inductive Value
  | null
  | bool (b : Bool)
  | int (n : Int)
  | float (x : Binary64)
  | string (t : Text)
  | list (items : List Value)
  | object (members : List (Text × Value))
  deriving Repr

instance : Inhabited Value := ⟨.null⟩

namespace Value

/-- Does the value count as true in a condition? Nothing, zero and everything empty do not. -/
def isTruthy : Value → Bool
  | .null => false
  | .bool b => b
  | .int n => n ≠ 0
  | .float x => !x.isZero
  | .string t => !t.isEmpty
  | .list items => !items.isEmpty
  | .object members => !members.isEmpty

/-- The name of the kind of a value in messages about settings. -/
def kind : Value → Text
  | .null => text "NoneType"
  | .bool _ => text "bool"
  | .int _ => text "int"
  | .float _ => text "float"
  | .string _ => text "str"
  | .list _ => text "list"
  | .object _ => text "dict"

/-- The text of a value that is one. -/
def text? : Value → Option Text
  | .string t => some t
  | _ => none

/-- The members of a value that is an object. -/
def members? : Value → Option (Entries Value)
  | .object members => some members
  | _ => none

end Value

end EntityForge
