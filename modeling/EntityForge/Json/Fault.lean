import EntityForge.Text.Basic

/-! # Faults of JSON documents

A malformed document has a fault at one place, given as the number of code points before it. A
document may also hold an integer of more digits than can be read.
-/

namespace EntityForge.Json

/-- What is wrong at the place of a fault. -/
inductive Reason
  | value
  | name
  | colon
  | comma
  | extraData
  | unterminatedString
  | controlCharacter
  | escape
  | unicodeEscape
  | byteOrderMark
  deriving DecidableEq, Repr

/-- Why a document cannot be read. -/
inductive Fault
  | malformed (reason : Reason) (offset : Nat)
  | longInteger (digits : Nat)
  deriving DecidableEq, Repr

/-- The greatest number of digits of an integer, its sign aside. -/
def maxIntegerDigits : Nat := 4300

/-- The reason in the words of a message. -/
def Reason.message : Reason → Text
  | .value => text "Expecting value"
  | .name => text "Expecting property name enclosed in double quotes"
  | .colon => text "Expecting ':' delimiter"
  | .comma => text "Expecting ',' delimiter"
  | .extraData => text "Extra data"
  | .unterminatedString => text "Unterminated string starting at"
  | .controlCharacter => text "Invalid control character at"
  | .escape => text "Invalid \\escape"
  | .unicodeEscape => text "Invalid \\uXXXX escape"
  | .byteOrderMark => text "Unexpected UTF-8 BOM (decode using utf-8-sig)"

/-- The line of an offset in a document, from one: one more than the line feeds before it. -/
def lineOf (document : Text) (offset : Nat) : Nat :=
  (document.take offset).count (.char '\n') + 1

/-- The column of an offset in a document, from one, in code points. -/
def columnOf (document : Text) (offset : Nat) : Nat :=
  ((document.take offset).reverse.takeWhile (· ≠ .char '\n')).length + 1

/-- The words for an integer of too many digits. -/
def longIntegerMessage (digits : Nat) : Text :=
  text "Exceeds the limit (" ++ Text.ofNat maxIntegerDigits ++
    text " digits) for integer string conversion: value has " ++ Text.ofNat digits ++
    text " digits; use sys.set_int_max_str_digits() to increase the limit"

end EntityForge.Json
