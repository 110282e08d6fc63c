import EntityForge.Text.Blank

/-! # Layout of generated code

Generated code is laid out line by line: blanks at the end of a line go, and of a run of blank
lines at most two stay.
-/

namespace EntityForge.Layout

/-- The greatest number of blank lines in a row. -/
def maxBlankLines : Nat := 2

/-- Drops the blank lines beyond the second of a run; `blanks` is how many came right before. -/
def limitBlankLines (blanks : Nat) : List Text → List Text
  | [] => []
  | line :: rest =>
      if line.isEmpty then
        if blanks < maxBlankLines then line :: limitBlankLines (blanks + 1) rest
        else limitBlankLines (blanks + 1) rest
      else line :: limitBlankLines 0 rest

/-- The lines of laid out code. -/
def formattedLines (code : Text) : List Text :=
  limitBlankLines 0 (code.lines.map Text.stripRight)

/-- Lays out code, with `lineEnding` between its lines. -/
def format (lineEnding code : Text) : Text := Text.join lineEnding (formattedLines code)

end EntityForge.Layout
