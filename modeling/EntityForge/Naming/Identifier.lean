import EntityForge.Text.Letter
import EntityForge.Text.Numeral

/-! # Identifiers

An identifier is a word code point that is not a decimal digit, followed by word code points. Word
code points are letters, numerals of every kind and the underscore; so a superscript two may begin
an identifier, while a combining mark occurs in none.
-/

namespace EntityForge

namespace CodePoint

/-- A letter, a numeral of any kind or the underscore. -/
def isWord (p : CodePoint) : Bool :=
  p.isLetter || p.isDecimal || p.isOtherNumeral || p == .char '_'

/-- A word code point that is not a decimal digit. -/
def isIdentifierStart (p : CodePoint) : Bool := p.isWord && !p.isDecimal

end CodePoint

/-- Is the text an identifier? -/
def Text.isIdentifier : Text → Bool
  | [] => false
  | p :: rest => p.isIdentifierStart && rest.all CodePoint.isWord

end EntityForge
