import EntityForge.Source.Encoding.Sequence
import EntityForge.Text.CharacterName

/-! # Escape sequences

In these encodings a byte is its own code point, and a backslash begins a sequence that stands for
another: a control character, a number in octal or hexadecimal digits, or the name of a character
in braces. A sequence that is cut short or out of range is bad.
-/

namespace EntityForge.Encoding

/-- The value of a hexadecimal digit. -/
def hexDigit? (b : UInt8) : Option Nat :=
  if 0x30 ≤ b ∧ b ≤ 0x39 then some (b.toNat - 0x30)
  else if 0x41 ≤ b ∧ b ≤ 0x46 then some (b.toNat - 0x37)
  else if 0x61 ≤ b ∧ b ≤ 0x66 then some (b.toNat - 0x57)
  else none

/-- The values of the hexadecimal digits at the head of some bytes, no more than `count`. -/
def hexDigits (count : Nat) (bytes : Bytes) : List Nat :=
  (bytes.take count).map hexDigit? |>.takeWhile Option.isSome |>.filterMap id

/-- The number that some digits write. -/
def ofDigits (base : Nat) (digits : List Nat) : Nat :=
  digits.foldl (fun n digit => n * base + digit) 0

/-- A number of exactly `count` digits after a backslash and a letter. -/
def readHex (count : Nat) (bytes : Bytes) : ByteSequence :=
  let digits := hexDigits count bytes
  let code := ofDigits 16 digits
  if digits.length < count ∨ 0x110000 ≤ code then .bad (digits.length + 1)
  else .codes [code] (count + 1)

/-- Is it an octal digit? -/
def isOctal (b : UInt8) : Bool := 0x30 ≤ b && b ≤ 0x37

/-- A number of one to three octal digits after a backslash. -/
def readOctal (bytes : Bytes) : ByteSequence :=
  let digits := (bytes.take 3).takeWhile isOctal
  .codes [ofDigits 8 (digits.map fun b => b.toNat - 0x30)] digits.length

/-- The name of a character in braces after a backslash and a letter. -/
def readName : Bytes → ByteSequence
  | 0x7B :: bytes =>
      let name := bytes.takeWhile (· ≠ 0x7D)
      if name.length = bytes.length then .bad (bytes.length + 2)
      else if name.isEmpty then .bad 2
      else
        match CharacterName.code? (name.map fun b => .ofNat b.toNat) with
        | some code => .codes [code] (name.length + 3)
        | none => .bad (name.length + 3)
  | _ => .bad 1

/-- What a letter after a backslash stands for. -/
def escaped? (b : UInt8) : Option Nat :=
  [(0x5C, 0x5C), (0x27, 0x27), (0x22, 0x22), (0x61, 0x07), (0x62, 0x08), (0x66, 0x0C),
    (0x6E, 0x0A), (0x72, 0x0D), (0x74, 0x09), (0x76, 0x0B)].lookup b.toNat

/-- The sequence of a backslash that stands before some bytes. -/
def readEscaped : Bytes → ByteSequence
  | [] => .bad 0
  | 0x0A :: _ => .codes [] 1
  | 0x78 :: rest => readHex 2 rest
  | 0x75 :: rest => readHex 4 rest
  | 0x55 :: rest => readHex 8 rest
  | 0x4E :: rest => readName rest
  | b :: rest =>
      match escaped? b with
      | some code => .codes [code] 1
      | none => if isOctal b then readOctal (b :: rest) else .codes [0x5C, b.toNat] 1

/-- Reads all escape sequences. -/
def readEscapes : SequenceReader
  | 0x5C, rest => readEscaped rest
  | b, _ => .codes [b.toNat] 0

/-- Reads only the escape sequences of code points. -/
def readRawEscapes : SequenceReader
  | 0x5C, 0x75 :: rest => readHex 4 rest
  | 0x5C, 0x55 :: rest => readHex 8 rest
  | 0x5C, b :: _ => .codes [0x5C, b.toNat] 1
  | b, _ => .codes [b.toNat] 0

end EntityForge.Encoding
