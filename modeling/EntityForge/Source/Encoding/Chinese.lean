import EntityForge.Charset.Gb2312
import EntityForge.Charset.Big5
import EntityForge.Source.Encoding.Sequence

/-! # Chinese encodings

GBK holds GB 2312 and has room for all hanzi of the first block; those that GB 2312 lacks come in
the order of their code points. GB 18030 gives a code of two bytes to every place of GBK and a code
of four bytes to every other code point. Big5 has a set of its own, to which code page 950 and
Hong Kong made additions.
-/

namespace EntityForge.Encoding

open Charset

/-- The code of two bytes. -/
def pairCode (b c : Nat) : Nat := b * 0x100 + c

/-- The code point of a code of GB 2312 whose bytes have the high bit. -/
def gb2312Code? (code : Nat) : Option Nat := gb2312.code? (code ^^^ 0x8080)

/-- Reads GB 2312. -/
def readGb2312 : SequenceReader :=
  ByteSequence.ofBytes ByteSequence.ascii? fun b c =>
    .ofPair ((gb2312Code? (pairCode b c)).map ([·]))

/-- The hanzi of the first block that GB 2312 lacks. -/
def furtherHanzi : Array Nat := gb2312.lacking 0x4E00 20902

/-- The place of a second byte in a row of GBK. -/
def gbkCell? (c : Nat) : Option Nat :=
  if 0x40 ≤ c ∧ c ≤ 0x7E then some (c - 0x40)
  else if 0x80 ≤ c ∧ c ≤ 0xFE then some (c - 0x41)
  else none

/-- The further hanzi of two bytes of GBK: the rows before GB 2312 are full of them, and so is the
left part of the rows from 0xAA on. -/
def furtherHanzi? (b c : Nat) : Option Nat := do
  let cell ← gbkCell? c
  if 0x81 ≤ b ∧ b ≤ 0xA0 then furtherHanzi[(b - 0x81) * 190 + cell]?
  else if 0xAA ≤ b ∧ b ≤ 0xFE ∧ cell < 96 then
    furtherHanzi[32 * 190 + (b - 0xAA) * 96 + cell]?
  else none

/-- The code point of two bytes of GBK. -/
def gbkPair? (b c : Nat) : Option Nat :=
  ((gbkSigns.code? (pairCode b c)).or (gb2312Code? (pairCode b c))).or (furtherHanzi? b c)

/-- Reads GBK. -/
def readGbk : SequenceReader :=
  ByteSequence.ofBytes ByteSequence.ascii? fun b c => .ofPair ((gbkPair? b c).map ([·]))

/-- The runs of codes that GBK leaves free, each with its length. -/
def freeCodes : List (Nat × Nat) := [
  (0xA2AB, 6), (0xA2E3, 2), (0xA2EF, 2), (0xA2FD, 2), (0xA4F4, 11), (0xA5F7, 8), (0xA6B9, 8),
  (0xA6D9, 7), (0xA6EC, 2), (0xA6F3, 1), (0xA6F6, 9), (0xA7C2, 15), (0xA7F2, 13), (0xA896, 11),
  (0xA8BC, 1), (0xA8BF, 1), (0xA8C1, 4), (0xA8EA, 21), (0xA958, 1), (0xA95B, 1), (0xA95D, 3),
  (0xA989, 13), (0xA997, 13), (0xA9F0, 15), (0xD7FA, 5), (0xFE50, 47), (0xFE80, 33)]

/-- The place of a code among the free ones, given how many came before. -/
def freePlace? (before code : Nat) : List (Nat × Nat) → Option Nat
  | [] => none
  | (first, count) :: runs =>
      if first ≤ code ∧ code < first + count then some (before + (code - first))
      else freePlace? (before + count) code runs

/-- The private code point of two bytes of GB 18030: three areas of rows are for private use, and
each free code has a private code point unless a sign took its place. -/
def privatePair? (b c : Nat) : Option Nat := do
  let cell ← gbkCell? c
  if 0xAA ≤ b ∧ b ≤ 0xAF ∧ 96 ≤ cell then return 0xE000 + (b - 0xAA) * 94 + (cell - 96)
  else if 0xF8 ≤ b ∧ b ≤ 0xFE ∧ 96 ≤ cell then return 0xE234 + (b - 0xF8) * 94 + (cell - 96)
  else if 0xA1 ≤ b ∧ b ≤ 0xA7 ∧ cell < 96 then return 0xE4C6 + (b - 0xA1) * 96 + cell
  else return 0xE766 + (← freePlace? 0 (pairCode b c) freeCodes)

/-- The code point of two bytes of GB 18030. -/
def gb18030Pair? (b c : Nat) : Option Nat :=
  ((gbkPair? b c).or (gb18030Signs.code? (pairCode b c))).or (privatePair? b c)

/-- The code points below 0x10000 that have no code of two bytes. -/
def fourByteCodes : CodeRanges := [
  (0x0080, 0x00A3), (0x00A5, 0x00A6), (0x00A9, 0x00AF), (0x00B2, 0x00B6), (0x00B8, 0x00D6),
  (0x00D8, 0x00DF), (0x00E2, 0x00E7), (0x00EB, 0x00EB), (0x00EE, 0x00F1), (0x00F4, 0x00F6),
  (0x00F8, 0x00F8), (0x00FB, 0x00FB), (0x00FD, 0x0100), (0x0102, 0x0112), (0x0114, 0x011A),
  (0x011C, 0x012A), (0x012C, 0x0143), (0x0145, 0x0147), (0x0149, 0x014C), (0x014E, 0x016A),
  (0x016C, 0x01CD), (0x01CF, 0x01CF), (0x01D1, 0x01D1), (0x01D3, 0x01D3), (0x01D5, 0x01D5),
  (0x01D7, 0x01D7), (0x01D9, 0x01D9), (0x01DB, 0x01DB), (0x01DD, 0x01F8), (0x01FA, 0x0250),
  (0x0252, 0x0260), (0x0262, 0x02C6), (0x02C8, 0x02C8), (0x02CC, 0x02D8), (0x02DA, 0x0390),
  (0x03A2, 0x03A2), (0x03AA, 0x03B0), (0x03C2, 0x03C2), (0x03CA, 0x0400), (0x0402, 0x040F),
  (0x0450, 0x0450), (0x0452, 0x200F), (0x2011, 0x2012), (0x2017, 0x2017), (0x201A, 0x201B),
  (0x201E, 0x2024), (0x2027, 0x202F), (0x2031, 0x2031), (0x2034, 0x2034), (0x2036, 0x203A),
  (0x203C, 0x20AB), (0x20AD, 0x2102), (0x2104, 0x2104), (0x2106, 0x2108), (0x210A, 0x2115),
  (0x2117, 0x2120), (0x2122, 0x215F), (0x216C, 0x216F), (0x217A, 0x218F), (0x2194, 0x2195),
  (0x219A, 0x2207), (0x2209, 0x220E), (0x2210, 0x2210), (0x2212, 0x2214), (0x2216, 0x2219),
  (0x221B, 0x221C), (0x2221, 0x2222), (0x2224, 0x2224), (0x2226, 0x2226), (0x222C, 0x222D),
  (0x222F, 0x2233), (0x2238, 0x223C), (0x223E, 0x2247), (0x2249, 0x224B), (0x224D, 0x2251),
  (0x2253, 0x225F), (0x2262, 0x2263), (0x2268, 0x226D), (0x2270, 0x2294), (0x2296, 0x2298),
  (0x229A, 0x22A4), (0x22A6, 0x22BE), (0x22C0, 0x2311), (0x2313, 0x245F), (0x246A, 0x2473),
  (0x249C, 0x24FF), (0x254C, 0x254F), (0x2574, 0x2580), (0x2590, 0x2592), (0x2596, 0x259F),
  (0x25A2, 0x25B1), (0x25B4, 0x25BB), (0x25BE, 0x25C5), (0x25C8, 0x25CA), (0x25CC, 0x25CD),
  (0x25D0, 0x25E1), (0x25E6, 0x2604), (0x2607, 0x2608), (0x260A, 0x263F), (0x2641, 0x2641),
  (0x2643, 0x2E80), (0x2E82, 0x2E83), (0x2E85, 0x2E87), (0x2E89, 0x2E8A), (0x2E8D, 0x2E96),
  (0x2E98, 0x2EA6), (0x2EA8, 0x2EA9), (0x2EAB, 0x2EAD), (0x2EAF, 0x2EB2), (0x2EB4, 0x2EB5),
  (0x2EB8, 0x2EBA), (0x2EBC, 0x2EC9), (0x2ECB, 0x2FEF), (0x2FFC, 0x2FFF), (0x3004, 0x3004),
  (0x3018, 0x301C), (0x301F, 0x3020), (0x302A, 0x303D), (0x303F, 0x3040), (0x3094, 0x309A),
  (0x309F, 0x30A0), (0x30F7, 0x30FB), (0x30FF, 0x3104), (0x312A, 0x321F), (0x322A, 0x3230),
  (0x3232, 0x32A2), (0x32A4, 0x338D), (0x3390, 0x339B), (0x339F, 0x33A0), (0x33A2, 0x33C3),
  (0x33C5, 0x33CD), (0x33CF, 0x33D0), (0x33D3, 0x33D4), (0x33D6, 0x3446), (0x3448, 0x3472),
  (0x3474, 0x359D), (0x359F, 0x360D), (0x360F, 0x3619), (0x361B, 0x3917), (0x3919, 0x396D),
  (0x396F, 0x39CE), (0x39D1, 0x39DE), (0x39E0, 0x3A72), (0x3A74, 0x3B4D), (0x3B4F, 0x3C6D),
  (0x3C6F, 0x3CDF), (0x3CE1, 0x4055), (0x4057, 0x415E), (0x4160, 0x4336), (0x4338, 0x43AB),
  (0x43AD, 0x43B0), (0x43B2, 0x43DC), (0x43DE, 0x44D5), (0x44D7, 0x464B), (0x464D, 0x4660),
  (0x4662, 0x4722), (0x4724, 0x4728), (0x472A, 0x477B), (0x477D, 0x478C), (0x478E, 0x4946),
  (0x4948, 0x4979), (0x497B, 0x497C), (0x497E, 0x4981), (0x4984, 0x4984), (0x4987, 0x499A),
  (0x499C, 0x499E), (0x49A0, 0x49B5), (0x49B8, 0x4C76), (0x4C78, 0x4C9E), (0x4CA4, 0x4D12),
  (0x4D1A, 0x4DAD), (0x4DAF, 0x4DFF), (0x9FA6, 0xD7FF), (0xE76C, 0xE76C), (0xE7C8, 0xE7C8),
  (0xE7E7, 0xE7F3), (0xE815, 0xE815), (0xE819, 0xE81D), (0xE81F, 0xE825), (0xE827, 0xE82A),
  (0xE82D, 0xE830), (0xE833, 0xE83A), (0xE83C, 0xE842), (0xE844, 0xE853), (0xE856, 0xE863),
  (0xE865, 0xF92B), (0xF92D, 0xF978), (0xF97A, 0xF994), (0xF996, 0xF9E6), (0xF9E8, 0xF9F0),
  (0xF9F2, 0xFA0B), (0xFA10, 0xFA10), (0xFA12, 0xFA12), (0xFA15, 0xFA17), (0xFA19, 0xFA1E),
  (0xFA22, 0xFA22), (0xFA25, 0xFA26), (0xFA2A, 0xFE2F), (0xFE32, 0xFE32), (0xFE45, 0xFE48),
  (0xFE53, 0xFE53), (0xFE58, 0xFE58), (0xFE67, 0xFE67), (0xFE6C, 0xFF00), (0xFF5F, 0xFFDF),
  (0xFFE6, 0xFFFF)]

/-- The number at a place of some ranges. -/
def numberAt? : CodeRanges → Nat → Option Nat
  | [], _ => none
  | (first, last) :: ranges, place =>
      if place ≤ last - first then some (first + place)
      else numberAt? ranges (place - (last - first) - 1)

/-- Is it a digit that may stand in second or fourth place? -/
def isMiddleDigit (b : UInt8) : Bool := 0x30 ≤ b && b ≤ 0x39

/-- The code point of four bytes of GB 18030: they count through the code points below 0x10000
that have no shorter code, and from 0x90 on through all the others. -/
def fourBytes? (b c d e : UInt8) : Option Nat :=
  if b < 0x81 || b = 0xFF || !isMiddleDigit c || d < 0x81 || d = 0xFF || !isMiddleDigit e then none
  else
    let place (b : Nat) :=
      ((b * 10 + (c.toNat - 0x30)) * 126 + (d.toNat - 0x81)) * 10 + (e.toNat - 0x30)
    if b < 0x85 then numberAt? fourByteCodes (place (b.toNat - 0x81))
    else if 0x90 ≤ b ∧ place (b.toNat - 0x90) < 0x100000 then
      some (0x10000 + place (b.toNat - 0x90))
    else none

/-- Reads GB 18030. -/
def readGb18030 : SequenceReader
  | b, c :: rest =>
      if b < 0x80 then .codes [b.toNat] 0
      else if isMiddleDigit c then
        match rest with
        | d :: e :: _ =>
            match fourBytes? b c d e with
            | some code => .codes [code] 3
            | none => .bad 0
        | _ => .bad (rest.length + 1)
      else .ofPair ((gb18030Pair? b.toNat c.toNat).map ([·]))
  | b, [] => ByteSequence.ofBytes ByteSequence.ascii? (fun _ _ => .bad 0) b []

/-- Reads Big5. -/
def readBig5 : SequenceReader :=
  ByteSequence.ofBytes ByteSequence.ascii? fun b c =>
    .ofPair ((big5.code? (pairCode b c)).map ([·]))

/-- Reads code page 950. -/
def readBig5Windows : SequenceReader :=
  ByteSequence.ofBytes ByteSequence.ascii? fun b c =>
    .ofPair (((big5Windows.code? (pairCode b c)).or (big5.code? (pairCode b c))).map ([·]))

/-- Is it a code of Big5 that the set of Hong Kong takes over? Six codes are given up. -/
def isReplaced (code : Nat) : Bool :=
  [0xC6CF, 0xC6D3, 0xC6D5, 0xC6D7, 0xC6DE, 0xC6DF].any (· == code)

/-- The code points of a code of Big5 with the set of Hong Kong. -/
def hkscsCode? (code : Nat) : Option (List Nat) :=
  match hkscsPairs.find? fun pair => pair.1 == code with
  | some pair => some (pair.2.toList.map Char.toNat)
  | none =>
      if isReplaced code then none
      else ((hkscs.code? code).or (big5.code? code)).map ([·])

/-- Reads Big5 with the set of Hong Kong. -/
def readHkscs : SequenceReader :=
  ByteSequence.ofBytes ByteSequence.ascii? fun b c => .ofPair (hkscsCode? (pairCode b c))

end EntityForge.Encoding
