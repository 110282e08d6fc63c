import EntityForge.Json.Fault
import EntityForge.Number.Shortest
import EntityForge.Text.Shown
import EntityForge.Value.Basic

/-! # Values shown in messages and in generated text

`shown` spells a value out so that its kind can be told; `plain` is the same but for a text, which
stands as it is. Not every value can be spelled out: `spellingFault?` says what is in the way.
-/

namespace EntityForge

/-- Why a value cannot be spelled out: an integer in it has too many digits, or too many lists and
objects stand one inside the other. -/
inductive SpellingFault
  | longInteger
  | tooDeep
  deriving DecidableEq, Repr

/-- The fault in the words of a message. -/
def SpellingFault.message : SpellingFault → Text
  | .longInteger =>
      text "Exceeds the limit (" ++ Text.ofNat Json.maxIntegerDigits ++
        text " digits) for integer string conversion; use sys.set_int_max_str_digits() to " ++
        text "increase the limit"
  | .tooDeep => text "maximum recursion depth exceeded while getting the repr of an object"

namespace Value

/-- Floating-point numbers have an exponent of two digits or more when their first digit stands
below the fourth decimal place or above the sixteenth whole place. -/
def floatLayout : Binary64.Layout where
  nan := text "nan"
  infinity := text "inf"
  leastPlain := -4
  greatestPlain := 15
  exponentDigits := 2

mutual

/-- A value spelled out. -/
def shown : Value → Text
  | .null => text "None"
  | .bool true => text "True"
  | .bool false => text "False"
  | .int n => Text.ofInt n
  | .float x => x.numeral floatLayout
  | .string t => t.shown
  | .list items =>
      text "[" ++ Text.join (text ", ") (shownItems items) ++
        text "]"
  | .object members =>
      text "\x7b" ++ Text.join (text ", ") (shownMembers members) ++
        text "\x7d"

/-- The items of a list, each spelled out. -/
def shownItems : List Value → List Text
  | [] => []
  | item :: rest => shown item :: shownItems rest

/-- The members of an object, each spelled out. -/
def shownMembers : List (Text × Value) → List Text
  | [] => []
  | (name, value) :: rest =>
      (name.shown ++ text ": " ++ shown value) :: shownMembers rest

end

/-- A value as it stands in generated text. -/
def plain : Value → Text
  | .string t => t
  | value => value.shown

mutual

/-- Why a value cannot be spelled out, if there is a reason; the first one found from left to right.
No more than `depth` lists and objects can stand one inside the other, if there is such a limit. -/
def spellingFault? (depth : Option Nat) : Value → Option SpellingFault
  | .int n =>
      if Json.maxIntegerDigits < (Text.ofNat n.natAbs).length then some .longInteger else none
  | .list items =>
      if depth = some 0 then some .tooDeep else itemsFault? (depth.map (· - 1)) items
  | .object members =>
      if depth = some 0 then some .tooDeep else membersFault? (depth.map (· - 1)) members
  | _ => none

/-- Why one of the items of a list cannot be spelled out. -/
def itemsFault? (depth : Option Nat) : List Value → Option SpellingFault
  | [] => none
  | item :: rest => (spellingFault? depth item).or (itemsFault? depth rest)

/-- Why one of the members of an object cannot be spelled out. -/
def membersFault? (depth : Option Nat) : List (Text × Value) → Option SpellingFault
  | [] => none
  | (_, value) :: rest => (spellingFault? depth value).or (membersFault? depth rest)

end

end Value

end EntityForge
