import EntityForge.Text.Utf8

/-! # Punycode

Punycode writes the characters of ASCII first and, after a hyphen, where the others stand among
them: each number says how far to go on through the code points and places. Reading stops where
the numbers are no longer well formed.
-/

namespace EntityForge.Encoding.Punycode

/-- The value of a digit; letters count from zero, digits follow them. -/
def digit? (b : UInt8) : Option Nat :=
  if 0x41 ≤ b ∧ b ≤ 0x5A then some (b.toNat - 0x41)
  else if 0x61 ≤ b ∧ b ≤ 0x7A then some (b.toNat - 0x61)
  else if 0x30 ≤ b ∧ b ≤ 0x39 then some (b.toNat - 22)
  else none

/-- The threshold of the digit at a place: a digit below it is the last of its number. -/
def threshold (place bias : Nat) : Nat := max 1 (min 26 (36 * (place + 1) - bias))

/-- Reads a number: its value and the bytes after it. -/
def number? (bias place weight value : Nat) : Bytes → Option (Nat × Bytes)
  | [] => none
  | b :: rest =>
      match digit? b with
      | none => none
      | some digit =>
          let t := threshold place bias
          let value := value + digit * weight
          if digit < t then some (value, rest)
          else number? bias (place + 1) (weight * (36 - t)) value rest

theorem length_of_number? {bias place weight value n : Nat} {bytes rest : Bytes}
    (h : number? bias place weight value bytes = some (n, rest)) : rest.length < bytes.length := by
  induction bytes generalizing place weight value with
  | nil => simp [number?] at h
  | cons b bytes ih =>
      simp only [number?] at h
      split at h
      · simp at h
      · split at h
        · simp_all
        · have := ih h
          simp only [List.length_cons]
          omega

/-- The steps by which the bias grows with a delta. -/
def biasSteps (delta : Nat) : Nat × Nat :=
  if 455 < delta then
    let (steps, delta) := biasSteps (delta / 35)
    (steps + 36, delta)
  else (0, delta)
termination_by delta
decreasing_by omega

/-- The bias after a number, given the length of the text so far. -/
def adapt (delta : Nat) (isFirst : Bool) (length : Nat) : Nat :=
  let delta := if isFirst then delta / 700 else delta / 2
  let (steps, delta) := biasSteps (delta + delta / length)
  steps + 36 * delta / (delta + 38)

/-- Puts the code points that the bytes tell of among those of a text, from a code point, a place
and a bias on. A code point past the last one becomes a question mark. -/
def insertFrom (code place bias : Nat) (isFirst : Bool) (known : List Nat) (bytes : Bytes) :
    List Nat :=
  match h : number? bias 0 1 0 bytes with
  | none => known
  | some (delta, rest) =>
      have := length_of_number? h
      let length := known.length + 1
      let place := place + delta
      let code := code + place / length
      let code := if 0x110000 ≤ code then 0x3F else code
      let place := place % length
      insertFrom code (place + 1) (adapt delta isFirst length) false
        (known.take place ++ code :: known.drop place) rest
termination_by bytes.length

/-- The bytes before the last hyphen and the bytes after it. -/
def halves (bytes : Bytes) : Bytes × Bytes :=
  let reversed := bytes.reverse
  let after := (reversed.takeWhile (· ≠ 0x2D)).reverse
  ((reversed.drop (after.length + 1)).reverse, after)

/-- The first byte after the last hyphen that is not ASCII, with its offset from there. -/
def stray? (bytes : Bytes) : Option (UInt8 × Nat) :=
  let after := (halves bytes).2
  let before := after.takeWhile (· < 0x80)
  (after.drop before.length).head?.map fun b => (b, before.length)

/-- Decodes Punycode, or says which byte is not ASCII. -/
def decode (bytes : Bytes) : Except (UInt8 × Nat) Text :=
  match stray? bytes with
  | some stray => .error stray
  | none =>
      let (before, after) := halves bytes
      let known := before.map fun b => if b < 0x80 then b.toNat else 0xFFFD
      .ok ((insertFrom 0x80 0 72 true known after).map .ofNat)

end EntityForge.Encoding.Punycode
