import EntityForge.Charset.CodePage
import EntityForge.Source.Encoding.Chinese
import EntityForge.Source.Encoding.Japanese
import EntityForge.Source.Encoding.Korean

/-! # Encodings with shifts

In these encodings all bytes are ASCII, and sequences of their own say which character set the
bytes after them belong to: an escape sequence calls a set up in one of three places, and a control
character shifts between the first two. HZ marks the hanzi of GB 2312 with tildes and braces.
-/

namespace EntityForge.Encoding

open Charset

/-- A character set that an escape sequence calls up. -/
inductive CalledSet
  | ascii
  | jisRoman
  | jisKana
  | jis0208
  | jis0212
  | jis0213First (revision : Revision)
  | jis0213Second
  | ksx1001
  | gb2312
  | latin1
  | greek
  deriving DecidableEq, Repr

namespace CalledSet

/-- How many bytes does a character of the set take? -/
def width : CalledSet → Nat
  | .ascii | .jisRoman | .jisKana | .latin1 | .greek => 1
  | .jis0208 | .jis0212 | .jis0213First _ | .jis0213Second | .ksx1001 | .gb2312 => 2

/-- The code points of a code of the set in the first or the second place. The tilde of
JIS X 0213 is that of ASCII. -/
def codes? : CalledSet → Nat → Option (List Nat)
  | .ascii, n => some [n]
  | .jisRoman, n => some [if n = 0x5C then 0xA5 else if n = 0x7E then 0x203E else n]
  | .jisKana, n => (halfKana? (n + 0x80)).map ([·])
  | .jis0208, n => (Charset.jis0208.code? n).map ([·])
  | .jis0212, n => (Charset.jis0212.code? n).map ([·])
  | .jis0213First revision, n => if n = 0x2232 then some [0x7E] else jis0213First? revision n
  | .jis0213Second, n => (Charset.jis0213Second.code? n).map ([·])
  | .ksx1001, n => (Charset.ksx1001.code? n).map ([·])
  | .gb2312, n => (Charset.gb2312.code? n).map ([·])
  | .latin1, _ => none
  | .greek, _ => none

end CalledSet

/-- What an encoding with escape sequences knows of: the sets by the last byte of the sequence that
calls them up, apart for sets of one and of two bytes, whether control characters shift, whether
there is a third place, and whether a sequence may announce the revised form of JIS X 0208. -/
structure Repertoire where
  single : List (Char × CalledSet)
  double : List (Char × CalledSet)
  shifts : Bool
  third : Bool
  announces : Bool
  deriving DecidableEq, Repr

/-- The sets in the three places, whether the second is shifted to, and whether an escape sequence
that is none of these is being passed through. -/
structure Places where
  first : CalledSet
  second : CalledSet
  third : CalledSet
  shifted : Bool
  passing : Bool
  deriving DecidableEq, Repr

/-- ASCII in every place. -/
def Places.initial : Places := ⟨.ascii, .ascii, .ascii, false, false⟩

/-- A place for a set. -/
inductive Place
  | first
  | second
  | third
  deriving DecidableEq, Repr

/-- Puts a set in a place. -/
def Places.call (places : Places) (set : CalledSet) : Place → Places
  | .first => { places with first := set }
  | .second => { places with second := set }
  | .third => { places with third := set }

/-- Does the byte end an escape sequence? -/
def endsEscape (b : UInt8) : Bool := 0x40 ≤ b && b ≤ 0x5A

/-- May the byte after an escape begin the call of a set? -/
def beginsCall (b : UInt8) : Bool := b = 0x28 || b = 0x29 || b = 0x24 || b = 0x2E || b = 0x26

/-- How an escape sequence ends: after some bytes, nowhere within sixteen, or after the end of the
text. -/
inductive EscapeEnd
  | after (more : Nat)
  | nowhere
  | cut
  deriving DecidableEq, Repr

/-- Where the escape sequence ends of which `before` bytes after the escape are known; an
announcement is passed over with the escape after it. -/
def escapeEnd (announces : Bool) (before : Nat) : Bytes → EscapeEnd
  | [] => if 15 ≤ before then .nowhere else .cut
  | b :: rest =>
      if 15 ≤ before then .nowhere
      else if endsEscape b then .after (before + 1)
      else if announces && b = 0x26 && rest.head? = some 0x40 then
        escapeEnd announces (before + 3) (rest.drop 2)
      else escapeEnd announces (before + 1) rest
termination_by bytes => bytes.length
decreasing_by
  all_goals simp only [List.length_drop, List.length_cons]
  all_goals omega

/-- The set that a last byte names. -/
def named? (sets : List (Char × CalledSet)) (b : UInt8) : Option CalledSet :=
  (sets.find? fun entry => entry.1.toNat == b.toNat).map Prod.snd

/-- The set that the bytes after an escape call up, and its place. Whatever stands in the place of
an announcement before the call of JIS X 0208 counts as one. -/
def call? (known : Repertoire) : Bytes → Option (CalledSet × Place)
  | [0x24, b] => (named? known.double b).map (·, .first)
  | [0x28, b] => (named? known.single b).map (·, .first)
  | [0x29, b] => (named? known.single b).map (·, .second)
  | [0x2E, b] => if known.third then (named? known.single b).map (·, .third) else none
  | [0x24, 0x28, b] => (named? known.double b).map (·, .first)
  | [0x24, 0x29, b] => (named? known.double b).map (·, .second)
  | [_, _, 0x1B, 0x24, 0x42] =>
      if known.announces then (named? known.double 0x42).map (·, .first) else none
  | _ => none

/-- Has the upper half of the Greek page no character there, as it first was? -/
def isGreekGap (b : Nat) : Bool := b = 0xA4 || b = 0xA5 || b = 0xAA

/-- The code point of a byte that is read from the third place. -/
def thirdCode? (set : CalledSet) (b : UInt8) : Option Nat :=
  match set with
  | .latin1 => if b < 0x80 then some (b.toNat + 0x80) else none
  | .greek =>
      let upper := b ^^^ 0x80
      let code := CodePage.code CodePage.greek upper
      if isGreekGap upper.toNat || code = 0xFFFD then none else some code
  | _ => if b < 0x80 then some b.toNat else none

/-- Reads the sequence that begins with an escape. -/
def readEscape (known : Repertoire) (places : Places) : Bytes → ByteSequence × Places
  | [] => (.bad 0, places)
  | b :: rest =>
      if beginsCall b then
        match escapeEnd known.announces 0 (b :: rest) with
        | .cut => (.bad (rest.length + 1), places)
        | .nowhere => (.bad 0, places)
        | .after more =>
            match call? known ((b :: rest).take more) with
            | none => (.bad more, places)
            | some (set, place) => (.codes [] more, places.call set place)
      else if known.third && b = 0x4E then
        match rest with
        | [] => (.bad 1, places)
        | c :: _ =>
            match thirdCode? places.third c with
            | none => (.bad 2, places)
            | some code => (.codes [code] 2, places)
      else (.codes [0x1B] 0, { places with passing := true })

/-- Reads a character of the set that is in use. -/
def readCalled (set : CalledSet) (b : UInt8) (rest : Bytes) : ByteSequence :=
  if set.width = 1 then
    match set.codes? b.toNat with
    | none => .bad 0
    | some found => .codes found 0
  else
    match rest with
    | [] => .bad 0
    | c :: _ =>
        match set.codes? (b.toNat * 0x100 + c.toNat) with
        | none => .bad 1
        | some found => .codes found 1

/-- Reads a text with escape sequences. The end of a line ends a shift. -/
def readCalls (known : Repertoire) (places : Places) (b : UInt8) (rest : Bytes) :
    ByteSequence × Places :=
  let plain : ByteSequence := .codes [b.toNat] 0
  if places.passing then (plain, { places with passing := !endsEscape b })
  else if b = 0x1B then readEscape known places rest
  else if known.shifts && b = 0x0F then (.codes [] 0, { places with shifted := false })
  else if known.shifts && b = 0x0E then (.codes [] 0, { places with shifted := true })
  else if b = 0x0A then (plain, { places with shifted := false })
  else if b < 0x20 then (plain, places)
  else if 0x80 ≤ b then (.bad 0, places)
  else (readCalled (if places.shifted then places.second else places.first) b rest, places)

/-- Decodes a text with escape sequences. -/
def decodeCalls (known : Repertoire) (bytes : Bytes) : Text :=
  ByteSequence.decodeFrom (readCalls known) Places.initial bytes

/-- Reads HZ; the state says whether hanzi of GB 2312 are being read. -/
def readHz (hanzi : Bool) : UInt8 → Bytes → ByteSequence × Bool
  | 0x7E, [] => (.bad 0, hanzi)
  | 0x7E, c :: _ =>
      if hanzi then if c = 0x7D then (.codes [] 1, false) else (.bad 0, hanzi)
      else if c = 0x7E then (.codes [0x7E] 1, hanzi)
      else if c = 0x7B then (.codes [] 1, true)
      else if c = 0x0A then (.codes [] 1, hanzi)
      else (.bad 0, hanzi)
  | b, rest =>
      if 0x80 ≤ b then (.bad 0, hanzi)
      else if hanzi then
        match rest with
        | [] => (.bad 0, hanzi)
        | c :: _ => (.ofPair ((gb2312.code? (pairCode b.toNat c.toNat)).map ([·])), hanzi)
      else (.codes [b.toNat] 0, hanzi)

/-- The sets of the first Japanese encoding with escape sequences. -/
def iso2022Jp : Repertoire where
  single := [('B', .ascii), ('J', .jisRoman)]
  double := [('@', .jis0208), ('B', .jis0208)]
  shifts := false
  third := false
  announces := true

/-- The same with the supplementary kanji. -/
def iso2022Jp1 : Repertoire :=
  { iso2022Jp with double := iso2022Jp.double ++ [('D', .jis0212)] }

/-- The same with Chinese, Korean and European sets. -/
def iso2022Jp2 : Repertoire :=
  { iso2022Jp1 with
    single := iso2022Jp1.single ++ [('A', .latin1), ('F', .greek)]
    double := iso2022Jp1.double ++ [('A', .gb2312), ('C', .ksx1001)]
    third := true }

/-- The same as the first with the supplementary kanji and half-width kana. -/
def iso2022JpExtended : Repertoire :=
  { iso2022Jp1 with single := iso2022Jp1.single ++ [('I', .jisKana)] }

/-- The sets of the Japanese encodings with JIS X 0213; its first plane has a sequence for each
revision. -/
def iso2022Jis0213 (revision : Revision) : Repertoire where
  single := [('B', .ascii)]
  double := [('B', .jis0208), (match revision with | .first => 'O' | .second => 'Q',
    .jis0213First revision), ('P', .jis0213Second)]
  shifts := false
  third := false
  announces := true

/-- The sets of the Korean encoding with escape sequences, which shifts to KS X 1001. -/
def iso2022Kr : Repertoire where
  single := [('B', .ascii)]
  double := [('C', .ksx1001)]
  shifts := true
  third := false
  announces := false

end EntityForge.Encoding
