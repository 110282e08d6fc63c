import EntityForge.Text.CharacterName.Aliases
import EntityForge.Text.CharacterName.Ancient
import EntityForge.Text.CharacterName.Asian
import EntityForge.Text.CharacterName.Brahmic
import EntityForge.Text.CharacterName.Forms
import EntityForge.Text.CharacterName.Hieroglyphic
import EntityForge.Text.CharacterName.Ideographic
import EntityForge.Text.CharacterName.Letters
import EntityForge.Text.CharacterName.Notational
import EntityForge.Text.CharacterName.Pictographs
import EntityForge.Text.CharacterName.Playing
import EntityForge.Text.CharacterName.Positional
import EntityForge.Text.CharacterName.Signs
import EntityForge.Text.CharacterName.Syllabic

/-! # Names of characters

A character is found by its name, in whichever case the name is written. The names of the syllables
of Hangul and of the unified ideographs follow a rule and are written in capitals. Further names end
with a number: that of their code point, or their place in a count.
-/

namespace EntityForge.CharacterName

/-- The names of the leading letters of syllables of Hangul. -/
def leadings : List String :=
  ["G", "GG", "N", "D", "DD", "R", "M", "B", "BB", "S", "SS", "", "J", "JJ", "C", "K", "T", "P",
    "H"]

/-- The names of the vowels of syllables of Hangul. -/
def vowels : List String :=
  ["A", "AE", "YA", "YAE", "EO", "E", "YEO", "YE", "O", "WA", "WAE", "OE", "YO", "U", "WEO", "WE",
    "WI", "YU", "EU", "YI", "I"]

/-- The names of the trailing letters of syllables of Hangul; the first is none. -/
def trailings : List String :=
  ["", "G", "GG", "GS", "N", "NJ", "NH", "D", "L", "LG", "LM", "LB", "LS", "LT", "LP", "LH", "M",
    "B", "BS", "S", "SS", "NG", "J", "C", "K", "T", "P", "H"]

/-- The longest name of a list that a text begins with, with its place in the list. -/
def longest? (names : List String) (t : Text) : Option (Nat × String) :=
  names.zipIdx.foldl (fun found (name, place) =>
    if (text name).isPrefixOf t && found.all (fun known => known.2.length < name.length) then
      some (place, name)
    else found) none

/-- The code point of the syllable of Hangul that a text spells. -/
def syllable? (t : Text) : Option Nat := do
  let (leading, name) ← longest? leadings t
  let t := t.drop name.length
  let (vowel, name) ← longest? vowels t
  let t := t.drop name.length
  let (trailing, name) ← longest? trailings t
  if t.length = name.length then return 0xAC00 + (leading * 21 + vowel) * 28 + trailing else none

/-- The unified ideographs. -/
def ideographs : List (Nat × Nat) := [
  (0x3400, 0x4DBF), (0x4E00, 0x9FFF), (0x20000, 0x2A6DF), (0x2A700, 0x2B738), (0x2B740, 0x2B81D),
  (0x2B820, 0x2CEA1), (0x2CEB0, 0x2EBE0), (0x30000, 0x3134A)]

/-- The value of a hexadecimal digit in capitals. -/
def digit? (p : CodePoint) : Option Nat :=
  let n := p.toNat
  if 0x30 ≤ n ∧ n ≤ 0x39 then some (n - 0x30)
  else if 0x41 ≤ n ∧ n ≤ 0x46 then some (n - 0x37)
  else none

/-- The code point of some ranges that a number of four or five digits is. -/
def numbered? (ranges : List (Nat × Nat)) (t : Text) : Option Nat := do
  if t.length ≠ 4 ∧ t.length ≠ 5 then none
  let digits ← t.mapM digit?
  let n := digits.foldl (fun n digit => n * 16 + digit) 0
  if ranges.any fun range => range.1 ≤ n && n ≤ range.2 then return n else none

/-- The openings of names that end with the number of their code point, and the code points. -/
def numberedNames : List (String × List (Nat × Nat)) := [
  ("CJK COMPATIBILITY IDEOGRAPH-", [(0xF900, 0xFA6D), (0xFA70, 0xFAD9), (0x2F800, 0x2FA1D)]),
  ("KHITAN SMALL SCRIPT CHARACTER-", [(0x18B00, 0x18CD5)]),
  ("NUSHU CHARACTER-", [(0x1B170, 0x1B2FB)])]

/-- The openings of names that are counted: the number of the first one, how many digits a number
has at least, the code point of the first one, and how many there are. -/
def countedNames : List (String × Nat × Nat × Nat × Nat) := [
  ("TANGUT COMPONENT-", 1, 3, 0x18800, 768), ("VARIATION SELECTOR-", 17, 2, 0xE0100, 240)]

/-- The code point of a counted name. -/
def counted? (name : Text) : Option Nat :=
  countedNames.findSome? fun (opening, start, width, first, count) =>
    if (text opening).isPrefixOf name then
      let digits := name.drop opening.length
      let n := Text.digitsValue digits
      let numeral := Text.ofNat n
      if digits = List.replicate (width - numeral.length) (.char '0') ++ numeral ∧
          start ≤ n ∧ n < start + count then
        some (first + (n - start))
      else none
    else none

/-- A letter of ASCII as a capital. -/
def capital (p : CodePoint) : CodePoint :=
  if 0x61 ≤ p.toNat ∧ p.toNat ≤ 0x7A then .ofNat (p.toNat - 0x20) else p

/-- The code point of a name in capitals that stands in a table. -/
def listed? (name : Text) : Option Nat :=
  let inRuns (runs : List NameRun) := runs.findSome? fun run => run.code? name
  [NameRun.letters, NameRun.signs, NameRun.forms, NameRun.pictographs, NameRun.asian,
    NameRun.syllabic, NameRun.ideographic, NameRun.positional, NameRun.ancient, NameRun.brahmic,
    NameRun.hieroglyphic, NameRun.notational, NameRun.playing].findSome? inRuns

/-- The code point of a name in capitals that is a further name. -/
def alias? (name : Text) : Option Nat :=
  (NameRun.aliases.find? fun entry => text entry.2 = name).map Prod.fst

/-- The code point of a name in capitals that ends with the number of its code point, which has no
zero in front. -/
def ending? (name : Text) : Option Nat :=
  numberedNames.findSome? fun (opening, ranges) =>
    let digits := name.drop opening.length
    if (text opening).isPrefixOf name ∧ digits.head? ≠ some (.char '0') then
      numbered? ranges digits
    else none

/-- The code point of a name. -/
def code? (name : Text) : Option Nat :=
  if (text "HANGUL SYLLABLE ").isPrefixOf name then syllable? (name.drop 16)
  else if (text "CJK UNIFIED IDEOGRAPH-").isPrefixOf name then
    numbered? ideographs (name.drop 22)
  else
    let name := name.map capital
    ((ending? name).or (counted? name)).or ((listed? name).or (alias? name))

end EntityForge.CharacterName
