import EntityForge.Console.CodeRun
import EntityForge.Text.Blank

/-! # Lines of a console

A console has a number of columns. A message is broken into lines between its words; a word that is
longer than a line begins on a line of its own and is cut where the line is full. Code is not
broken: what does not fit on a line is left out.
-/

namespace EntityForge.Console

/-- Controls that a console does not print: bell, backspace, vertical tab, form feed and carriage
return. -/
def isControl (p : CodePoint) : Bool := [0x7, 0x8, 0xB, 0xC, 0xD].contains p.toNat

/-- The pieces of a line between its tabs with a run of spaces in the place of each tab, up to a
column that is a multiple of `size`. The columns before the first piece are counted in `column`. A
piece is measured together with a space after it. -/
def spaceOut (measure : Text → Nat) (size column : Nat) : List Text → Text
  | [] => []
  | [last] => last
  | piece :: rest =>
      let filled := column + measure (piece ++ [.char ' '])
      let spaces := (size - filled % size) % size
      piece ++ List.replicate (spaces + 1) (.char ' ') ++
        spaceOut measure size (filled + spaces) rest

/-- The line with a run of spaces in the place of each tab. -/
def expandTabs (measure : Text → Nat) (size : Nat) (line : Text) : Text :=
  spaceOut measure size 0 (line.splitOn '\t')

/-- The words of a line: each with the blanks after it, and the first also with those before it. -/
def words (line : Text) : List Text :=
  match h : (line.dropWhile CodePoint.isBlank).dropWhile (!·.isBlank) with
  | [] => if line.isBlank then [] else [line]
  | p :: rest =>
      let after := (p :: rest).dropWhile CodePoint.isBlank
      have : after.length < line.length := by
        have hWord : ((line.dropWhile CodePoint.isBlank).dropWhile (!·.isBlank)).length ≤
            line.length :=
          Nat.le_trans (List.dropWhile_sublist _).length_le (List.dropWhile_sublist _).length_le
        have hBlank : p.isBlank = true := by
          have := List.head?_dropWhile_not (!·.isBlank) (line.dropWhile CodePoint.isBlank)
          rw [h] at this
          simpa using this
        have hAfter : after.length ≤ rest.length := by
          simp only [after, List.dropWhile_cons, hBlank, if_true]
          exact (List.dropWhile_sublist _).length_le
        rw [h, List.length_cons] at hWord
        omega
      line.take (line.length - after.length) :: words after
termination_by line.length

/-- Sets words in lines of at most `width` columns, given what is already on the line at hand and
the columns that it fills. Blanks after the last word of a line may stick out. -/
def setWords (width : Nat) (line : Text) (filled : Nat) : List Text → List Text
  | [] => [line]
  | word :: rest =>
      let bare := word.stripRight.cells
      if filled + bare ≤ width then setWords width (line ++ word) (filled + word.cells) rest
      else if width < bare then
        let pieces := word.chop width
        let last := pieces.getLast?.getD []
        (if line.isEmpty then [] else [line]) ++ pieces.dropLast ++
          setWords width last last.cells rest
      else line :: setWords width word word.cells rest

/-- The lines of a message on a console. -/
def messageLines (width : Nat) (message : Text) : List Text :=
  (Text.lines (message.filter fun p => !isControl p)).flatMap fun line =>
    setWords width [] 0 (words (expandTabs Text.cells 8 line))

/-- The text without a byte order mark at its beginning. -/
def dropMark (t : Text) : Text := if t.head? = some (.ofNat 0xFEFF) then t.tail else t

/-- The code as it is printed: with spaces in the place of tabs and without a byte order mark. -/
def plainCode (code : Text) : Text :=
  let lines := (Text.lines (Text.unifyNewlines code)).map (expandTabs List.length 4)
  dropMark (Text.join (text "\n") lines)

/-- The lines of a piece of code on a console. -/
def codeLines (width : Nat) (code : Text) : List Text :=
  (linesOfRuns (codeRuns true (plainCode code))).map fun runs =>
    cropLine width (runs.map fun run => run.filter fun p => !isControl p)

end EntityForge.Console
