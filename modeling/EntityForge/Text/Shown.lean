import EntityForge.Text.Printable

/-! # Texts shown in messages

A text in a message stands in quotes, with everything unprintable spelled out, so that a reader
can tell where it ends and what it holds.
-/

namespace EntityForge

namespace Text

/-- The quote around a shown text: the single one, unless the text holds it and no double one. -/
def showQuote (t : Text) : Char :=
  if t.contains (.char '\'') && !t.contains (.char '"') then '"' else '\''

/-- How a code point is spelled inside quotes of the kind `quote`. -/
def showCode (quote : Char) (p : CodePoint) : Text :=
  if p = .char quote || p = .char '\\' then [.char '\\', p]
  else if p = .char '\n' then text "\\n"
  else if p = .char '\r' then text "\\r"
  else if p = .char '\t' then text "\\t"
  else if p.isPrintable then [p]
  else if p.toNat ≤ 0xFF then text "\\x" ++ ofNatHex 2 p.toNat
  else if p.toNat ≤ 0xFFFF then text "\\u" ++ ofNatHex 4 p.toNat
  else text "\\U" ++ ofNatHex 8 p.toNat

/-- A text in quotes, with unprintable code points spelled out. -/
def shown (t : Text) : Text :=
  let quote := t.showQuote
  .char quote :: t.flatMap (showCode quote) ++ [.char quote]

end Text

end EntityForge
