import EntityForge.Charset.Ksx1001
import EntityForge.Source.Encoding.Sequence

/-! # Korean encodings

KS X 1001 has 2350 of the 11172 syllables of Hangul. EUC-KR spells the others out letter by letter,
the unified code of Hangul puts them in the order of their code points where EUC-KR leaves room,
and Johab makes every syllable from the numbers of its letters.
-/

namespace EntityForge.Encoding

open Charset

/-- The first of the syllables of Hangul. -/
def firstSyllable : Nat := 0xAC00

/-- The code point of the syllable with the letters of those numbers; the third may be zero. -/
def syllable (leading vowel trailing : Nat) : Nat :=
  firstSyllable + (leading * 21 + vowel) * 28 + trailing

/-- The leading letters of syllables, as letters that stand alone. -/
def leadingLetters : List Nat := [
  0x3131, 0x3132, 0x3134, 0x3137, 0x3138, 0x3139, 0x3141, 0x3142, 0x3143, 0x3145, 0x3146, 0x3147,
  0x3148, 0x3149, 0x314A, 0x314B, 0x314C, 0x314D, 0x314E]

/-- The trailing letters of syllables, as letters that stand alone. -/
def trailingLetters : List Nat := [
  0x3131, 0x3132, 0x3133, 0x3134, 0x3135, 0x3136, 0x3137, 0x3139, 0x313A, 0x313B, 0x313C, 0x313D,
  0x313E, 0x313F, 0x3140, 0x3141, 0x3142, 0x3144, 0x3145, 0x3146, 0x3147, 0x3148, 0x314A, 0x314B,
  0x314C, 0x314D, 0x314E]

/-- The first of the vowels that stand alone. -/
def firstVowel : Nat := 0x314F

/-- The code point of two bytes of EUC-KR. -/
def ksx1001Pair? (b c : Nat) : Option Nat := ksx1001.code? ((b ^^^ 0x80) * 0x100 + (c ^^^ 0x80))

/-- The letter that a byte of EUC-KR stands for in the row of letters. -/
def rowLetter (b : UInt8) : Nat := 0x3131 + b.toNat - 0xA1

/-- The syllable that three letters of the row of letters spell. -/
def spelledSyllable? (leading vowel trailing : UInt8) : Option Nat := do
  let l ← leadingLetters.idxOf? (rowLetter leading)
  let v ← if 0xBF ≤ vowel ∧ vowel ≤ 0xD3 then some (vowel.toNat - 0xBF) else none
  let t ← if trailing = 0xD4 then some 0
    else (trailingLetters.idxOf? (rowLetter trailing)).map (· + 1)
  return syllable l v t

/-- Reads EUC-KR. The filler of the row of letters opens a syllable that is spelled out in eight
bytes. -/
def readEucKr : SequenceReader
  | 0xA4, 0xD4 :: rest =>
      match rest with
      | mark :: leading :: mark' :: vowel :: mark'' :: trailing :: _ =>
          if mark = 0xA4 ∧ mark' = 0xA4 ∧ mark'' = 0xA4 then
            match spelledSyllable? leading vowel trailing with
            | some code => .codes [code] 7
            | none => .bad 0
          else .bad 0
      | _ => .bad (rest.length + 1)
  | b, rest =>
      ByteSequence.ofBytes ByteSequence.ascii?
        (fun b c => .ofPair ((ksx1001Pair? b c).map ([·]))) b rest

/-- The syllables that KS X 1001 lacks. -/
def furtherSyllables : Array Nat := ksx1001.lacking firstSyllable 11172

/-- The place of two bytes among the codes that the unified code of Hangul adds. -/
def unifiedPlace? (b c : Nat) : Option Nat := do
  let cell ←
    if 0x41 ≤ c ∧ c ≤ 0x5A then some (c - 0x41)
    else if 0x61 ≤ c ∧ c ≤ 0x7A then some (c - 0x47)
    else if 0x81 ≤ c ∧ c ≤ 0xFE then some (c - 0x4D)
    else none
  if 0x81 ≤ b ∧ b ≤ 0xA0 then some ((b - 0x81) * 178 + cell)
  else if 0xA1 ≤ b ∧ b ≤ 0xC6 ∧ c ≤ 0xA0 then some (32 * 178 + (b - 0xA1) * 84 + cell)
  else none

/-- Reads the unified code of Hangul, which is code page 949. -/
def readUnifiedHangul : SequenceReader :=
  ByteSequence.ofBytes ByteSequence.ascii? fun b c =>
    .ofPair <|
      match ksx1001Pair? b c with
      | some code => some [code]
      | none => ((unifiedPlace? b c).bind fun place => furtherSyllables[place]?).map ([·])

/-- A letter of a syllable in Johab: none at all, the filler, or a number. -/
inductive JohabLetter
  | filler
  | letter (number : Nat)
  deriving DecidableEq, Repr

/-- The leading letter of five bits. -/
def johabLeading? (n : Nat) : Option JohabLetter :=
  if n = 1 then some .filler
  else if 2 ≤ n ∧ n ≤ 20 then some (.letter (n - 2))
  else none

/-- The vowel of five bits; the numbers stand in groups of six. -/
def johabVowel? (n : Nat) : Option JohabLetter :=
  if n = 2 then some .filler
  else if 3 ≤ n ∧ n ≤ 29 ∧ 2 ≤ n % 8 then some (.letter (n - 3 - n / 8 * 2))
  else none

/-- The trailing letter of five bits. -/
def johabTrailing? (n : Nat) : Option JohabLetter :=
  if n = 1 then some .filler
  else if 2 ≤ n ∧ n ≤ 17 then some (.letter (n - 1))
  else if 19 ≤ n ∧ n ≤ 29 then some (.letter (n - 2))
  else none

/-- The code point of the letters of a syllable in Johab. A letter may stand alone. -/
def johabSyllable? : JohabLetter → JohabLetter → JohabLetter → Option Nat
  | .filler, .filler, .filler => some 0x3000
  | .filler, .filler, .letter t => trailingLetters[t - 1]?
  | .filler, .letter v, .filler => some (firstVowel + v)
  | .filler, .letter _, .letter _ => none
  | .letter l, .filler, .filler => leadingLetters[l]?
  | .letter _, .filler, .letter _ => none
  | .letter l, .letter v, .filler => some (syllable l v 0)
  | .letter l, .letter v, .letter t => some (syllable l v t)

/-- The code of KS X 1001 of two bytes of Johab that are no syllable. -/
def johabSign? (b c : Nat) : Option Nat :=
  if b < 0xD9 ∨ b = 0xDF ∨ 0xF9 < b ∨ c < 0x31 ∨ (0x80 ≤ c ∧ c < 0x91) ∨ c % 0x80 = 0x7F ∨
      (b = 0xDA ∧ 0xA1 ≤ c ∧ c ≤ 0xD3) then none
  else
    let row := if b < 0xE0 then 2 * (b - 0xD9) else 2 * b - 0x197
    let cell := if c < 0x91 then c - 0x31 else c - 0x43
    ksx1001.code? ((row + cell / 94 + 0x21) * 0x100 + (cell % 94 + 0x21))

/-- The code point of two bytes of Johab. -/
def johabPair? (b c : Nat) : Option Nat := do
  if b < 0xD8 then
    let leading ← johabLeading? (b / 4 % 32)
    let vowel ← johabVowel? (b % 4 * 8 + c / 32)
    let trailing ← johabTrailing? (c % 32)
    johabSyllable? leading vowel trailing
  else johabSign? b c

/-- Reads Johab. -/
def readJohab : SequenceReader :=
  ByteSequence.ofBytes ByteSequence.ascii? fun b c => .ofPair ((johabPair? b c).map ([·]))

end EntityForge.Encoding
