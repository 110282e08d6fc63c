import EntityForge.Source.Encoding.Sequence

/-! # Units of sixteen and thirty-two bits

A text in UTF-16 or UTF-32 is a run of units of two or four bytes, with the high byte first or
last. A mark at the head of the text may say which. What is cut short at the end is one bad
sequence.
-/

namespace EntityForge.Encoding

/-- The order of the bytes of a unit. -/
inductive ByteOrder
  | littleEndian
  | bigEndian
  deriving DecidableEq, Repr

/-- The number of a unit of two bytes. -/
def ByteOrder.unit : ByteOrder → UInt8 → UInt8 → Nat
  | .littleEndian, a, b => b.toNat * 0x100 + a.toNat
  | .bigEndian, a, b => a.toNat * 0x100 + b.toNat

/-- The number of a unit of four bytes. -/
def ByteOrder.longUnit : ByteOrder → UInt8 → UInt8 → UInt8 → UInt8 → Nat
  | .littleEndian, a, b, c, d =>
      ByteOrder.unit .littleEndian c d * 0x10000 + ByteOrder.unit .littleEndian a b
  | .bigEndian, a, b, c, d =>
      ByteOrder.unit .bigEndian a b * 0x10000 + ByteOrder.unit .bigEndian c d

/-- Is it the first half of a surrogate pair? -/
def isHighHalf (unit : Nat) : Bool := 0xD800 ≤ unit && unit < 0xDC00

/-- Is it the second half of a surrogate pair? -/
def isLowHalf (unit : Nat) : Bool := 0xDC00 ≤ unit && unit < 0xE000

/-- The code point of a surrogate pair. -/
def joinHalves (high low : Nat) : Nat := 0x10000 + (high - 0xD800) * 0x400 + (low - 0xDC00)

/-- Reads UTF-16. -/
def readUnits (order : ByteOrder) : SequenceReader
  | _, [] => .bad 0
  | a, b :: rest =>
      let first := order.unit a b
      if isLowHalf first then .bad 1
      else if isHighHalf first then
        match rest with
        | c :: d :: _ =>
            let second := order.unit c d
            if isLowHalf second then .codes [joinHalves first second] 3 else .bad 1
        | _ => .bad (rest.length + 1)
      else .codes [first] 1

/-- Reads UTF-32. -/
def readLongUnits (order : ByteOrder) : SequenceReader
  | a, b :: c :: d :: _ =>
      let code := order.longUnit a b c d
      if isHighHalf code || isLowHalf code || 0x110000 ≤ code then .bad 3 else .codes [code] 3
  | _, rest => .bad rest.length

/-- Decodes UTF-16 after its mark; without one the low byte is first. -/
def decodeUnits : Bytes → Text
  | 0xFE :: 0xFF :: bytes => ByteSequence.decodeWith (readUnits .bigEndian) bytes
  | 0xFF :: 0xFE :: bytes => ByteSequence.decodeWith (readUnits .littleEndian) bytes
  | bytes => ByteSequence.decodeWith (readUnits .littleEndian) bytes

/-- Decodes UTF-32 after its mark; without one the low byte is first. -/
def decodeLongUnits : Bytes → Text
  | 0x00 :: 0x00 :: 0xFE :: 0xFF :: bytes =>
      ByteSequence.decodeWith (readLongUnits .bigEndian) bytes
  | 0xFF :: 0xFE :: 0x00 :: 0x00 :: bytes =>
      ByteSequence.decodeWith (readLongUnits .littleEndian) bytes
  | bytes => ByteSequence.decodeWith (readLongUnits .littleEndian) bytes

end EntityForge.Encoding
