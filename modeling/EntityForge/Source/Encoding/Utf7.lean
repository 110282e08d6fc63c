import EntityForge.Source.Encoding.Units

/-! # UTF-7

All bytes of UTF-7 are ASCII. A plus sign opens a run of base 64 whose bits are units of UTF-16;
the run ends before the first byte that is no digit of base 64, and a minus sign there is dropped.
-/

namespace EntityForge.Encoding

/-- The value of a digit of base 64. -/
def base64Digit? (b : UInt8) : Option Nat :=
  if 0x41 ≤ b ∧ b ≤ 0x5A then some (b.toNat - 0x41)
  else if 0x61 ≤ b ∧ b ≤ 0x7A then some (b.toNat - 0x47)
  else if 0x30 ≤ b ∧ b ≤ 0x39 then some (b.toNat + 4)
  else if b = 0x2B then some 62
  else if b = 0x2F then some 63
  else none

/-- A run of base 64 that is being read: the bits that make no unit yet, their number, and the
first half of a surrogate pair. -/
structure Base64Run where
  bits : Nat
  count : Nat
  high : Option Nat
  deriving DecidableEq, Repr

namespace Base64Run

/-- A run of which nothing is read yet. -/
def empty : Base64Run := ⟨0, 0, none⟩

/-- Adds a unit: the code points that are complete with it, and the first half of a pair. -/
def addUnit (high : Option Nat) (unit : Nat) : List Nat × Option Nat :=
  match high with
  | some first =>
      if isLowHalf unit then ([joinHalves first unit], none)
      else if isHighHalf unit then ([first], some unit)
      else ([first, unit], none)
  | none => if isHighHalf unit then ([], some unit) else ([unit], none)

/-- Adds a digit: the code points that are complete with it, and the run after it. -/
def add (run : Base64Run) (digit : Nat) : List Nat × Base64Run :=
  let bits := run.bits * 64 + digit
  let count := run.count + 6
  if count < 16 then ([], ⟨bits, count, run.high⟩)
  else
    let power := Nat.pow 2 (count - 16)
    let (codes, high) := addUnit run.high (bits / power)
    (codes, ⟨bits % power, count - 16, high⟩)

/-- Has a run more bits left than the padding of a unit, or padding that is not zero? -/
def hasRemainder (run : Base64Run) : Bool := 6 ≤ run.count || run.bits ≠ 0

end Base64Run

/-- Decodes UTF-7 from inside a run of base 64, or from outside one. -/
def decodeUtf7From : Option Base64Run → Bytes → Text
  | none, [] => []
  | some run, [] => if run.high.isSome || run.hasRemainder then [.char '\uFFFD'] else []
  | none, b :: rest =>
      if b = 0x2B then
        match rest with
        | 0x2D :: after => .char '+' :: decodeUtf7From none after
        | c :: after =>
            if (base64Digit? c).isSome then decodeUtf7From (some .empty) (c :: after)
            else .char '\uFFFD' :: decodeUtf7From none after
        | [] => decodeUtf7From (some .empty) []
      else (if b < 0x80 then .ofNat b.toNat else .char '\uFFFD') :: decodeUtf7From none rest
  | some run, b :: rest =>
      match base64Digit? b with
      | some digit =>
          let (codes, run) := run.add digit
          codes.map .ofNat ++ decodeUtf7From (some run) rest
      | none =>
          if run.hasRemainder then .char '\uFFFD' :: decodeUtf7From none rest
          else
            (if b < 0x80 then run.high.toList.map .ofNat else []) ++
              (if b = 0x2D then decodeUtf7From none rest else decodeUtf7From none (b :: rest))
termination_by run bytes => (bytes.length, if run.isSome then 1 else 0)

/-- Decodes UTF-7. -/
def decodeUtf7 (bytes : Bytes) : Text := decodeUtf7From none bytes

end EntityForge.Encoding
