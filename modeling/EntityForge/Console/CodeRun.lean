import EntityForge.Naming.Name
import EntityForge.Text.Cells

/-! # Runs of code

A console prints code run by run and measures each run by itself: a name, a text in quotes, a
comment, an attribute at the beginning of a line; any other code point is a run of its own. Runs
laid end to end are the code. A name is made of letters of the alphabets that have capitals, digits,
low lines, marks and what is not shown.
-/

namespace EntityForge.Console

/-- The letters with two cases, the letters that modify others, and the numbers that are written
with letters. -/
def casedRanges : CodeRanges := [
  (0x41, 0x5A), (0x61, 0x7A), (0xB5, 0xB5), (0xC0, 0xD6), (0xD8, 0xF6), (0xF8, 0x1BA),
  (0x1BC, 0x1BF), (0x1C4, 0x293), (0x295, 0x2C1), (0x2C6, 0x2D1), (0x2E0, 0x2E4), (0x2EC, 0x2EC),
  (0x2EE, 0x2EE), (0x370, 0x374), (0x376, 0x377), (0x37A, 0x37D), (0x37F, 0x37F), (0x386, 0x386),
  (0x388, 0x38A), (0x38C, 0x38C), (0x38E, 0x3A1), (0x3A3, 0x3F5), (0x3F7, 0x481), (0x48A, 0x52F),
  (0x531, 0x556), (0x559, 0x559), (0x560, 0x588), (0x640, 0x640), (0x6E5, 0x6E6), (0x7F4, 0x7F5),
  (0x7FA, 0x7FA), (0x81A, 0x81A), (0x824, 0x824), (0x828, 0x828), (0x8C9, 0x8C9), (0x971, 0x971),
  (0xE46, 0xE46), (0xEC6, 0xEC6), (0x10A0, 0x10C5), (0x10C7, 0x10C7), (0x10CD, 0x10CD),
  (0x10D0, 0x10FA), (0x10FC, 0x10FF), (0x13A0, 0x13F5), (0x13F8, 0x13FD), (0x16EE, 0x16F0),
  (0x17D7, 0x17D7), (0x1843, 0x1843), (0x1AA7, 0x1AA7), (0x1C78, 0x1C7D), (0x1C80, 0x1C88),
  (0x1C90, 0x1CBA), (0x1CBD, 0x1CBF), (0x1D00, 0x1DBF), (0x1E00, 0x1F15), (0x1F18, 0x1F1D),
  (0x1F20, 0x1F45), (0x1F48, 0x1F4D), (0x1F50, 0x1F57), (0x1F59, 0x1F59), (0x1F5B, 0x1F5B),
  (0x1F5D, 0x1F5D), (0x1F5F, 0x1F7D), (0x1F80, 0x1FB4), (0x1FB6, 0x1FBC), (0x1FBE, 0x1FBE),
  (0x1FC2, 0x1FC4), (0x1FC6, 0x1FCC), (0x1FD0, 0x1FD3), (0x1FD6, 0x1FDB), (0x1FE0, 0x1FEC),
  (0x1FF2, 0x1FF4), (0x1FF6, 0x1FFC), (0x2071, 0x2071), (0x207F, 0x207F), (0x2090, 0x209C),
  (0x2102, 0x2102), (0x2107, 0x2107), (0x210A, 0x2113), (0x2115, 0x2115), (0x2119, 0x211D),
  (0x2124, 0x2124), (0x2126, 0x2126), (0x2128, 0x2128), (0x212A, 0x212D), (0x212F, 0x2134),
  (0x2139, 0x2139), (0x213C, 0x213F), (0x2145, 0x2149), (0x214E, 0x214E), (0x2160, 0x2188),
  (0x2C00, 0x2CE4), (0x2CEB, 0x2CEE), (0x2CF2, 0x2CF3), (0x2D00, 0x2D25), (0x2D27, 0x2D27),
  (0x2D2D, 0x2D2D), (0x2D6F, 0x2D6F), (0x2E2F, 0x2E2F), (0x3005, 0x3005), (0x3007, 0x3007),
  (0x3021, 0x3029), (0x3031, 0x3035), (0x3038, 0x303B), (0x309D, 0x309E), (0x30FC, 0x30FE),
  (0xA015, 0xA015), (0xA4F8, 0xA4FD), (0xA60C, 0xA60C), (0xA640, 0xA66D), (0xA67F, 0xA69D),
  (0xA6E6, 0xA6EF), (0xA717, 0xA71F), (0xA722, 0xA788), (0xA78B, 0xA78E), (0xA790, 0xA7CA),
  (0xA7D0, 0xA7D1), (0xA7D3, 0xA7D3), (0xA7D5, 0xA7D9), (0xA7F2, 0xA7F6), (0xA7F8, 0xA7FA),
  (0xA9CF, 0xA9CF), (0xA9E6, 0xA9E6), (0xAA70, 0xAA70), (0xAADD, 0xAADD), (0xAAF3, 0xAAF4),
  (0xAB30, 0xAB5A), (0xAB5C, 0xAB69), (0xAB70, 0xABBF), (0xFB00, 0xFB06), (0xFB13, 0xFB17),
  (0xFF21, 0xFF3A), (0xFF41, 0xFF5A), (0xFF70, 0xFF70), (0xFF9E, 0xFF9F), (0x10140, 0x10174),
  (0x10341, 0x10341), (0x1034A, 0x1034A), (0x103D1, 0x103D5), (0x10400, 0x1044F),
  (0x104B0, 0x104D3), (0x104D8, 0x104FB), (0x10570, 0x1057A), (0x1057C, 0x1058A),
  (0x1058C, 0x10592), (0x10594, 0x10595), (0x10597, 0x105A1), (0x105A3, 0x105B1),
  (0x105B3, 0x105B9), (0x105BB, 0x105BC), (0x10780, 0x10785), (0x10787, 0x107B0),
  (0x107B2, 0x107BA), (0x10C80, 0x10CB2), (0x10CC0, 0x10CF2), (0x118A0, 0x118DF),
  (0x12400, 0x1246E), (0x16B40, 0x16B43), (0x16E40, 0x16E7F), (0x16F93, 0x16F9F),
  (0x16FE0, 0x16FE1), (0x16FE3, 0x16FE3), (0x1AFF0, 0x1AFF3), (0x1AFF5, 0x1AFFB),
  (0x1AFFD, 0x1AFFE), (0x1D400, 0x1D454), (0x1D456, 0x1D49C), (0x1D49E, 0x1D49F),
  (0x1D4A2, 0x1D4A2), (0x1D4A5, 0x1D4A6), (0x1D4A9, 0x1D4AC), (0x1D4AE, 0x1D4B9),
  (0x1D4BB, 0x1D4BB), (0x1D4BD, 0x1D4C3), (0x1D4C5, 0x1D505), (0x1D507, 0x1D50A),
  (0x1D50D, 0x1D514), (0x1D516, 0x1D51C), (0x1D51E, 0x1D539), (0x1D53B, 0x1D53E),
  (0x1D540, 0x1D544), (0x1D546, 0x1D546), (0x1D54A, 0x1D550), (0x1D552, 0x1D6A5),
  (0x1D6A8, 0x1D6C0), (0x1D6C2, 0x1D6DA), (0x1D6DC, 0x1D6FA), (0x1D6FC, 0x1D714),
  (0x1D716, 0x1D734), (0x1D736, 0x1D74E), (0x1D750, 0x1D76E), (0x1D770, 0x1D788),
  (0x1D78A, 0x1D7A8), (0x1D7AA, 0x1D7C2), (0x1D7C4, 0x1D7CB), (0x1DF00, 0x1DF09),
  (0x1DF0B, 0x1DF1E), (0x1E137, 0x1E13D), (0x1E900, 0x1E943), (0x1E94B, 0x1E94B)]

/-- May a name begin so? -/
def isNameStart (p : CodePoint) : Bool := p.isChar '_' || casedRanges.has p.toNat

/-- The signs that are not shown but say how others are. -/
def formatRanges : CodeRanges := [
  (0xAD, 0xAD), (0x600, 0x605), (0x61C, 0x61C), (0x6DD, 0x6DD), (0x70F, 0x70F), (0x890, 0x891),
  (0x8E2, 0x8E2), (0x180E, 0x180E), (0x200B, 0x200F), (0x202A, 0x202E), (0x2060, 0x2064),
  (0x2066, 0x206F), (0xFEFF, 0xFEFF), (0xFFF9, 0xFFFB), (0x110BD, 0x110BD), (0x110CD, 0x110CD),
  (0x13430, 0x13438), (0x1BCA0, 0x1BCA3), (0x1D173, 0x1D17A), (0xE0001, 0xE0001),
  (0xE0020, 0xE007F)]

/-- May a name go on so? -/
def isNameCode (p : CodePoint) : Bool :=
  isNameStart p || p.isDecimal || Name.markRanges.has p.toNat ||
    Name.laterMarkRanges.has p.toNat || formatRanges.has p.toNat

/-- The number of code points up to the end of the first `mark`, if there is one. -/
def upTo? (mark : Text) : Text → Option Nat
  | [] => if mark.isEmpty then some 0 else none
  | p :: rest =>
      if mark.isPrefixOf (p :: rest) then some mark.length else (upTo? mark rest).map (· + 1)

/-- The number of code points of a text in quotes after its opening quote, if it ends on its
line. -/
def quotedLength? : Text → Option Nat
  | [] => none
  | .char '"' :: _ => some 1
  | .char '\n' :: _ => some 1
  | .char '\\' :: p :: rest =>
      if p.isChar '\n' then none else (quotedLength? rest).map (· + 2)
  | .char '\\' :: [] => none
  | _ :: rest => (quotedLength? rest).map (· + 1)

/-- The number of code points of a text in quotes after its opening quote, if a quote is written
twice in it. -/
def verbatimLength? : Text → Option Nat
  | [] => none
  | .char '"' :: .char '"' :: rest => (verbatimLength? rest).map (· + 2)
  | .char '"' :: _ => some 1
  | _ :: rest => (verbatimLength? rest).map (· + 1)

/-- The number of code points of the run at the head of a code after its first one, if it has
more. -/
def runTail? (atLineStart : Bool) : Text → Option Nat
  | .char '/' :: .char '/' :: rest =>
      some ((rest.takeWhile (· ≠ .char '\n')).length + 1)
  | .char '/' :: .char '*' :: rest => (upTo? (text "*/") rest).map (· + 1)
  | .char '[' :: rest => if atLineStart then upTo? (text "]") rest else none
  | .char '@' :: .char '"' :: rest => (verbatimLength? rest).map (· + 1)
  | .char '"' :: rest => quotedLength? rest
  | .char '\'' :: .char '\\' :: _ :: .char '\'' :: _ => some 3
  | .char '\'' :: p :: .char '\'' :: _ => if p.isChar '\\' then none else some 2
  | p :: rest => if isNameStart p then some (rest.takeWhile isNameCode).length else none
  | [] => none

/-- The runs of code. -/
def codeRuns (atLineStart : Bool) (code : Text) : List Text :=
  match code with
  | [] => []
  | p :: rest =>
      let count := (runTail? atLineStart (p :: rest)).getD 0
      (p :: rest.take count) ::
        codeRuns (p.isChar '\n' || atLineStart && p.isChar ' ') (rest.drop count)
termination_by code.length
decreasing_by
  simp only [List.length_drop, List.length_cons]
  omega

/-- Puts a run before lines that are given run by run. -/
def prependRun (run : Text) (lines : List (List Text)) : List (List Text) :=
  match (Text.lines run).reverse, lines with
  | last :: before, line :: lines => before.reverse.map (fun t => [t]) ++ (last :: line) :: lines
  | _, lines => lines

/-- The lines of runs, each line run by run. -/
def linesOfRuns (runs : List Text) : List (List Text) := runs.foldr prependRun [[]]

/-- As much of a line as fits into `width` columns, going by what its runs fill. -/
def cropRuns (width : Nat) : List Text → Text
  | [] => []
  | run :: rest =>
      if run.cells < width then run ++ cropRuns (width - run.cells) rest else run.crop width

/-- A text cut into pieces as long as the given runs; there may be fewer of them. -/
def cutLike : List Text → Text → List Text
  | [], _ => []
  | run :: rest, t => t.take run.length :: cutLike rest (t.drop run.length)

/-- As much of a line of code as fits into `width` columns: first going by the line as a whole, then
going by its runs. -/
def cropLine (width : Nat) (runs : List Text) : Text :=
  let pieces := cutLike runs (Text.crop width runs.flatten)
  if (pieces.map Text.cells).foldr (· + ·) 0 ≤ width then pieces.flatten else cropRuns width pieces

end EntityForge.Console
