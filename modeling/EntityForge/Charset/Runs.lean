import EntityForge.Text.Ranges

/-! # Runs of characters

A character set gives characters to codes. It is written in runs: the code of a first character,
and the characters of that code and of the codes after it. Where a code inside a run has no
character stands U+FFFD.
-/

namespace EntityForge

/-- Runs of characters, each with the code of its first character. No run is longer than 256
codes. -/
abbrev CharacterRuns := List (Nat × String)

namespace CharacterRuns

/-- What the runs say of a code: its character, or U+FFFD for none, or nothing. -/
def cell? : CharacterRuns → Nat → Option Char
  | [], _ => none
  | (first, run) :: runs, n =>
      if n < first ∨ first + 0x100 ≤ n then cell? runs n
      else
        match run.toList[n - first]? with
        | none => cell? runs n
        | some c => some c

/-- The code point of a code that has a character. -/
def code? (runs : CharacterRuns) (n : Nat) : Option Nat :=
  match runs.cell? n with
  | none => none
  | some c => if c = '\uFFFD' then none else some c.toNat

/-- The runs of rows: each row begins 0x100 codes after the one before it. -/
def ofRows (first : Nat) : List String → CharacterRuns
  | [] => []
  | row :: rows => (first, row) :: ofRows (first + 0x100) rows

/-- The code points from `first` on, `count` of them, that no run has, in order. -/
def lacking (runs : CharacterRuns) (first count : Nat) : Array Nat :=
  let mark (marks : Array Bool) (c : Char) :=
    if c.toNat < first then marks else marks.setIfInBounds (c.toNat - first) true
  let marks := runs.foldl (fun marks run => run.2.toList.foldl mark marks)
    (Array.replicate count false)
  ((List.range count).filterMap fun i =>
    if marks[i]? = some false then some (first + i) else none).toArray

end CharacterRuns

end EntityForge
