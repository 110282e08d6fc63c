import EntityForge.Expression.Fault

/-! # Tokens of expressions

An expression is spelled with words, numerals, text literals and signs, and with the breaks between
its lines. A token knows the line that it begins on and how many brackets are open behind it.
-/

namespace EntityForge.Expression

/-- What a numeral stands for. A decimal numeral that is too long to be read stands for nothing. -/
inductive Numeral
  | whole (n : Nat)
  | floating
  | imaginary
  | tooLong (digits : Nat)
  deriving DecidableEq, Repr

/-- A text literal: whether it stands for bytes, whether its backslashes stand for themselves,
whether it has replacement fields, and what stands between its quotes. -/
structure Quoted where
  isBytes : Bool
  isRaw : Bool
  hasFields : Bool
  body : Text
  deriving DecidableEq, Repr

/-- A token. -/
inductive Token
  | word (t : Text)
  | numeral (n : Numeral)
  | quoted (literal : Quoted)
  | sign (s : String)
  | lineEnd
  | indent
  | outdent
  | finish
  deriving DecidableEq, Repr

/-- A token in its place. -/
structure Placed where
  token : Token
  line : Nat
  depth : Nat
  deriving DecidableEq, Repr

/-- Where the tokens of a source stop: what is to be said if a reader gets there, whether that is
also said where no reader gets there, and whether the end of the source shows behind the last token.
-/
structure Stop where
  fault : TokenFault
  isLoud : Bool
  isSeen : Bool
  deriving DecidableEq, Repr

/-- The tokens of a source. If they stop before its end, there is a fault, and there are brackets
open, each with its line, the innermost first. -/
structure Tokens where
  placed : List Placed
  stop : Option Stop
  brackets : List (Char × Nat)
  deriving DecidableEq, Repr

/-- The words that are no names. -/
def reservedWords : List String := [
  "False", "None", "True", "and", "as", "assert", "async", "await", "break", "class", "continue",
  "def", "del", "elif", "else", "except", "finally", "for", "from", "global", "if", "import", "in",
  "is", "lambda", "nonlocal", "not", "or", "pass", "raise", "return", "try", "while", "with",
  "yield"]

/-- Is a word a name? -/
def isFreeWord (t : Text) : Bool := reservedWords.all fun word => t ≠ text word

/-- Does a name or numeral go on with this code point? Past ASCII all do. -/
def continuesWord (p : CodePoint) : Bool :=
  let n := p.toNat
  p.isDigit || (0x41 ≤ n && n ≤ 0x5A) || (0x61 ≤ n && n ≤ 0x7A) || n == 0x5F || 0x80 ≤ n

/-- Does a name begin with this code point? -/
def beginsWord (p : CodePoint) : Bool := continuesWord p && !p.isDigit

end EntityForge.Expression
