import EntityForge.Expression.Grammar
import EntityForge.Text.Utf8

/-! # Literals

An expression is a literal if it is a constant, a signed number, a complex number as a sum, or a
tuple, set or mapping of literals. The items of a set and the keys of a mapping are found again by
their values, so they hold no sets and mappings themselves.
-/

namespace EntityForge.Expression

/-- A literal, as far as it matters to others that hold it. -/
inductive Literal
  | whole (n : Nat)
  | floating
  | imaginary
  | plain
  | tuple (items : List Literal)
  | set
  | entries
  deriving Repr

/-- Why a text is no literal. -/
inductive LiteralFault
  | unencodable (run : Utf8.SurrogateRun)
  | nullByte
  | spelling (fault : Fault)
  | noLiteral
  | spreadMapping
  | notHashable (kind : Text)
  | tooLarge
  deriving DecidableEq, Repr

/-- The fault in the words of a message. -/
def LiteralFault.message : LiteralFault → Text
  | .unencodable run => run.message
  | .nullByte => text "source code string cannot contain null bytes"
  | .spelling fault => fault.message
  | .noLiteral => text "malformed node or string"
  | .spreadMapping => text "malformed node or string: None"
  | .notHashable kind => text "unhashable type: '" ++ kind ++ text "'"
  | .tooLarge => text "int too large to convert to float"

mutual

/-- The kind of a literal, or of a part of it, that cannot be found by its value. -/
def Literal.unhashable? : Literal → Option Text
  | .set => some (text "set")
  | .entries => some (text "dict")
  | .tuple items => unhashableItem? items
  | _ => none

/-- The kind of the first such item. -/
def unhashableItem? : List Literal → Option Text
  | [] => none
  | item :: rest => item.unhashable?.or (unhashableItem? rest)

end

/-- A literal that can be found by its value. -/
def Literal.hashed (literal : Literal) : Except LiteralFault Unit :=
  match literal.unhashable? with
  | some kind => .error (.notHashable kind)
  | none => .ok ()

/-- The number that an expression is. -/
def Tree.number? : Tree → Option Literal
  | .constant (.numeral (.whole n)) => some (.whole n)
  | .constant (.numeral .floating) => some .floating
  | .constant (.numeral .imaginary) => some .imaginary
  | _ => none

/-- The number that an expression is, maybe behind a sign. -/
def Tree.signedNumber? : Tree → Option Literal
  | .signed operand => operand.number?
  | t => t.number?

/-- The complex number that a sum is. Its whole part must not be too large for a floating-point
number. -/
def complexSum (left right : Tree) : Except LiteralFault Literal :=
  match left.signedNumber?, right.number? with
  | some (.whole n), some .imaginary =>
      if Nat.pow 2 1024 - Nat.pow 2 970 ≤ n then .error .tooLarge else .ok .imaginary
  | some .floating, some .imaginary => .ok .imaginary
  | _, _ => .error .noLiteral

mutual

/-- The literal that an expression is. -/
def Tree.literal : Tree → Except LiteralFault Literal
  | .constant (.numeral n) =>
      match n with
      | .whole n => .ok (.whole n)
      | .floating => .ok .floating
      | .imaginary => .ok .imaginary
      | .tooLong _ => .error .noLiteral
  | .constant _ => .ok .plain
  | .tuple items => do return .tuple (← literals items)
  | .set items => do
      checkItems items
      return .set
  | .call (.name t) (.arguments 0 0 _) =>
      if t = text "set" then .ok .set else .error .noLiteral
  | .entries entries => do
      checkEntries entries
      return .entries
  | .sum left right => complexSum left right
  | .signed operand => (operand.number?).elim (.error .noLiteral) .ok
  | _ => .error .noLiteral

/-- The literals that expressions are. -/
def literals : List Tree → Except LiteralFault (List Literal)
  | [] => .ok []
  | t :: rest => do
      let first ← t.literal
      return first :: (← literals rest)

/-- Checks the items of a set. -/
def checkItems : List Tree → Except LiteralFault Unit
  | [] => .ok ()
  | t :: rest => do
      (← t.literal).hashed
      checkItems rest

/-- Checks the entries of a mapping. -/
def checkEntries : List (Option Tree × Tree) → Except LiteralFault Unit
  | [] => .ok ()
  | (none, _) :: _ => .error .spreadMapping
  | (some key, value) :: rest => do
      let key ← key.literal
      let _ ← value.literal
      key.hashed
      checkEntries rest

end

/-- Why a text is no literal, if it is none. -/
def literalFault? (t : Text) : Option LiteralFault :=
  let t := t.dropWhile fun p => p = .char ' ' ∨ p = .char '\t'
  match Utf8.surrogateRun? t with
  | some run => some (.unencodable run)
  | none =>
      if t.contains (.char '\x00') then some .nullByte
      else
        match (readText false (t.length + 1) t).mapError LiteralFault.spelling >>= Tree.literal with
        | .error fault => some fault
        | .ok _ => none

end EntityForge.Expression
