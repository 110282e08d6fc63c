import EntityForge.Number.Shortest
import EntityForge.Value.Basic

/-! # Names of members to be written

What names a member of a document that is about to be written may be a text or any other value
without parts. Two names are the same if their values are equal: truth values count as the numbers
one and zero, and numbers of different kinds are compared by what they are. No number is equal to
the one that is not a number, not even itself.
-/

namespace EntityForge

/-- Is the number the integer `n`? -/
def Binary64.isInt (n : Int) : Binary64 → Bool
  | .finite negative mantissa exponent =>
      let m : Int := if negative then -mantissa else mantissa
      let power := Nat.pow 2 exponent.natAbs
      if exponent < 0 then m = n * power else m * power = n
  | _ => false

/-- Are two numbers equal? Zeros are, whatever their signs. -/
def Binary64.isSame : Binary64 → Binary64 → Bool
  | .nan, _ => false
  | x, y => x.isZero && y.isZero || x = y

namespace Json

/-- Floating-point numbers are laid out as in messages, but for the names of the special ones. -/
def floatLayout : Binary64.Layout where
  nan := text "NaN"
  infinity := text "Infinity"
  leastPlain := -4
  greatestPlain := 15
  exponentDigits := 2

/-- What names a member. -/
inductive Key
  | null
  | bool (b : Bool)
  | int (n : Int)
  | float (x : Binary64)
  | string (t : Text)
  deriving DecidableEq, Repr

namespace Key

/-- The name that a value makes, if it has no parts. -/
def ofValue? : Value → Option Key
  | .null => some .null
  | .bool b => some (.bool b)
  | .int n => some (.int n)
  | .float x => some (.float x)
  | .string t => some (.string t)
  | .list _ => none
  | .object _ => none

/-- The integer that a name counts as, if it is one by kind. -/
def int? : Key → Option Int
  | .bool b => some (if b then 1 else 0)
  | .int n => some n
  | _ => none

/-- Are two names the same? -/
def isSame (a b : Key) : Bool :=
  match a, b with
  | .null, .null => true
  | .string s, .string t => s = t
  | .float x, .float y => x.isSame y
  | .float x, b => b.int?.any fun n => x.isInt n
  | a, .float y => a.int?.any fun n => y.isInt n
  | a, b =>
      match a.int?, b.int? with
      | some m, some n => m = n
      | _, _ => false

/-- How a name is spelled. -/
def spelled : Key → Text
  | .null => text "null"
  | .bool true => text "true"
  | .bool false => text "false"
  | .int n => Text.ofInt n
  | .float x => x.numeral floatLayout
  | .string t => t

/-- Writes a member: in place if its name is there, which is then kept, at the end otherwise. -/
def put : List (Key × Value) → Key → Value → List (Key × Value)
  | [], key, value => [(key, value)]
  | (name, old) :: rest, key, value =>
      if name.isSame key then (name, value) :: rest else (name, old) :: put rest key value

/-- Writes all members of `more`, in order. -/
def putAll (members more : List (Key × Value)) : List (Key × Value) :=
  more.foldl (fun all member => put all member.1 member.2) members

theorem isSame_string (s t : Text) : isSame (.string s) (.string t) = decide (s = t) := rfl

end Key

end Json

end EntityForge
