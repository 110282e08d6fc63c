import EntityForge.Text.Basic

/-! # String literals

A string literal stands in double quotes; quotes, backslashes, line feeds, carriage returns and
tabs inside it are escaped.
-/

namespace EntityForge.Literal

/-- How a code point is spelled inside a literal. -/
def escapeCode (p : CodePoint) : Text :=
  if p = .char '\\' then text "\\\\"
  else if p = .char '"' then text "\\\""
  else if p = .char '\n' then text "\\n"
  else if p = .char '\r' then text "\\r"
  else if p = .char '\t' then text "\\t"
  else [p]

/-- The literal of a text. -/
def quote (t : Text) : Text := .char '"' :: t.flatMap escapeCode ++ [.char '"']

end EntityForge.Literal
