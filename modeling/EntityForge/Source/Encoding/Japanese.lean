import EntityForge.Charset.Japanese
import EntityForge.Source.Encoding.Sequence

/-! # Japanese encodings

The kanji of Japanese stand in planes of ninety-four rows and cells. EUC sets the high bit of both
bytes of a code and reaches a second plane through a byte in front; Shift JIS folds two rows into
one. Half-width kana have bytes of their own in both.
-/

namespace EntityForge.Encoding

open Charset

/-- The revision of JIS X 0213. -/
inductive Revision
  | first
  | second
  deriving DecidableEq, Repr

/-- The half-width kana of a byte. -/
def halfKana? (b : Nat) : Option Nat :=
  if 0xA1 ≤ b ∧ b ≤ 0xDF then some (0xFF61 + (b - 0xA1)) else none

/-- Is it a code of the first plane that the first revision leaves out? -/
def isLate : Revision → Nat → Bool
  | .first, code => jis0213Late.any (· == code)
  | .second, _ => false

/-- The code points of a code of the first plane of JIS X 0213. -/
def jis0213First? (revision : Revision) (code : Nat) : Option (List Nat) :=
  if isLate revision code then none
  else
    match (jis0208.code? code).or (jis0213First.code? code) with
    | some found => some [found]
    | none =>
        (jis0213Pairs.find? fun pair => pair.1 == code).map fun pair =>
          pair.2.toList.map Char.toNat

/-- The code point of a code of the second plane of JIS X 0213. One kanji had another form in the
first revision. -/
def jis0213Second? (revision : Revision) (code : Nat) : Option Nat :=
  if revision = .first ∧ code = 0x7D3B then some 0x9B1D else jis0213Second.code? code

/-- The sequence that a code of the first plane stands for. -/
def jis0213Sequence (revision : Revision) (code : Nat) : ByteSequence :=
  if isLate revision code then .bad 1 else .ofPair (jis0213First? revision code)

/-- The code of two bytes of EUC. -/
def eucCode (b c : Nat) : Nat := (b ^^^ 0x80) * 0x100 + (c ^^^ 0x80)

/-- Reads EUC-JP. -/
def readEucJp : SequenceReader
  | 0x8E, c :: _ => .ofPair ((halfKana? c.toNat).map ([·]))
  | 0x8F, c :: d :: _ =>
      match jis0212.code? (eucCode c.toNat d.toNat) with
      | some found => .codes [found] 2
      | none => .bad 0
  | 0x8F, rest => .bad rest.length
  | b, rest =>
      ByteSequence.ofBytes ByteSequence.ascii?
        (fun b c => .ofPair ((jis0208.code? (eucCode b c)).map ([·]))) b rest

/-- Reads EUC with the planes of JIS X 0213. -/
def readEucJis0213 (revision : Revision) : SequenceReader
  | 0x8E, c :: _ => .ofPair ((halfKana? c.toNat).map ([·]))
  | 0x8F, c :: d :: _ =>
      let code := eucCode c.toNat d.toNat
      match (jis0213Second? revision code).or (jis0212.code? code) with
      | some found => .codes [found] 2
      | none => .bad 0
  | 0x8F, rest => .bad rest.length
  | b, rest =>
      ByteSequence.ofBytes ByteSequence.ascii?
        (fun b c => jis0213Sequence revision (eucCode b c)) b rest

/-- The row, counted from zero, and the cell of two bytes of Shift JIS. -/
def shiftPlace? (b c : Nat) : Option (Nat × Nat) :=
  if ((0x81 ≤ b ∧ b ≤ 0x9F) ∨ (0xE0 ≤ b ∧ b ≤ 0xFC)) ∧ 0x40 ≤ c ∧ c ≤ 0xFC ∧ c ≠ 0x7F then
    let pair := if b < 0xE0 then b - 0x81 else b - 0xC1
    let cell := if c < 0x80 then c - 0x40 else c - 0x41
    some (2 * pair + cell / 94, cell % 94)
  else none

/-- The code of a row and a cell, both counted from zero. -/
def planeCode (row cell : Nat) : Nat := (row + 0x21) * 0x100 + (cell + 0x21)

/-- Reads Shift JIS. -/
def readShiftJis : SequenceReader :=
  ByteSequence.ofBytes (fun b => (ByteSequence.ascii? b).or (halfKana? b)) fun b c =>
    .ofPair do
      let (row, cell) ← shiftPlace? b c
      return [← jis0208.code? (planeCode row cell)]

/-- The code point of a byte that stands alone in code page 932. -/
def windows932Byte? (b : Nat) : Option Nat :=
  if b ≤ 0x80 then some b
  else if b = 0xA0 then some 0xF8F0
  else if 0xFD ≤ b then some (0xF8F1 + (b - 0xFD))
  else halfKana? b

/-- The code point of two bytes of code page 932. Ten of its rows are for private use. -/
def windows932Pair? (b c : Nat) : Option Nat :=
  match windows932.code? (b * 0x100 + c), shiftPlace? b c with
  | some found, _ => some found
  | none, none => none
  | none, some (row, cell) =>
      if 0xF0 ≤ b ∧ b ≤ 0xF9 then some (0xE000 + (row - 94) * 94 + cell)
      else jis0208.code? (planeCode row cell)

/-- Reads code page 932. -/
def readWindows932 : SequenceReader :=
  ByteSequence.ofBytes windows932Byte? fun b c => .ofPair ((windows932Pair? b c).map ([·]))

/-- The rows of the second plane, counted from zero, in the order in which Shift JIS reaches
them. -/
def secondPlaneRows : List Nat :=
  [0, 7, 2, 3, 4, 11, 12, 13, 14] ++ List.range' 77 17

/-- The code point of a byte that stands alone in Shift JIS with JIS X 0213. -/
def shiftJis0213Byte? (b : Nat) : Option Nat :=
  if b = 0x5C then some 0xA5
  else if b = 0x7E then some 0x203E
  else (ByteSequence.ascii? b).or (halfKana? b)

/-- The sequence that a code of the first plane stands for in Shift JIS, where the full-width
backslash and tilde are those of ASCII. -/
def shiftJis0213Sequence (revision : Revision) (code : Nat) : ByteSequence :=
  if code = 0x2140 then .codes [0x5C] 1
  else if code = 0x2232 then .codes [0x7E] 1
  else jis0213Sequence revision code

/-- Reads Shift JIS with the planes of JIS X 0213. -/
def readShiftJis0213 (revision : Revision) : SequenceReader :=
  ByteSequence.ofBytes shiftJis0213Byte? fun b c =>
    match shiftPlace? b c with
    | none => .bad 0
    | some (row, cell) =>
        if row < 94 then shiftJis0213Sequence revision (planeCode row cell)
        else
          .ofPair do
            let row ← secondPlaneRows[row - 94]?
            return [← jis0213Second? revision (planeCode row cell)]

end EntityForge.Encoding
