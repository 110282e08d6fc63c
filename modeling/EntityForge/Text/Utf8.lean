import EntityForge.Text.Basic

/-! # UTF-8

Files and responses are bytes. Decoding reads one sequence at a time; a fault says at which byte
the bad sequence begins, how many bytes belong to it and what is wrong with it. A lenient reading
puts U+FFFD in the place of each bad sequence.
-/

namespace EntityForge

/-- A run of bytes. -/
abbrev Bytes := List UInt8

namespace Utf8

/-- What is wrong with a byte sequence. -/
inductive Reason
  | invalidStart
  | invalidContinuation
  | unexpectedEnd
  deriving DecidableEq, Repr

/-- A bad sequence: its first byte, the offset of that byte, its length and its fault. -/
structure Fault where
  byte : UInt8
  start : Nat
  length : Nat
  reason : Reason
  deriving DecidableEq, Repr

/-- One step of decoding: a code point, the length of its sequence and the bytes after it, or a bad
sequence and its length. -/
inductive Step
  | code (p : CodePoint) (length : Nat) (rest : Bytes)
  | bad (length : Nat) (reason : Reason)

/-- A continuation byte. -/
def isContinuation (b : UInt8) : Bool := 0x80 ≤ b && b ≤ 0xBF

/-- The six bits that a continuation byte carries. -/
def payload (b : UInt8) : Nat := b.toNat % 0x40

/-- May `second` follow the first byte of a longer sequence? Overlong forms, surrogates and
numbers past the last code point are ruled out here. -/
def mayFollow (first second : UInt8) : Bool :=
  isContinuation second &&
    (if first = 0xE0 then 0xA0 ≤ second
     else if first = 0xED then second < 0xA0
     else if first = 0xF0 then 0x90 ≤ second
     else if first = 0xF4 then second < 0x90
     else true)

/-- Reads the sequence at the head of the bytes `b :: rest`. -/
def step (b : UInt8) (rest : Bytes) : Step :=
  if b < 0x80 then .code (.ofNat b.toNat) 1 rest
  else if b < 0xC2 || 0xF4 < b then .bad 1 .invalidStart
  else
    match rest with
    | [] => .bad 1 .unexpectedEnd
    | b2 :: rest2 =>
        if !mayFollow b b2 then .bad 1 .invalidContinuation
        else if b < 0xE0 then .code (.ofNat (b.toNat % 0x20 * 0x40 + payload b2)) 2 rest2
        else
          match rest2 with
          | [] => .bad 2 .unexpectedEnd
          | b3 :: rest3 =>
              if !isContinuation b3 then .bad 2 .invalidContinuation
              else if b < 0xF0 then
                .code (.ofNat ((b.toNat % 0x10 * 0x40 + payload b2) * 0x40 + payload b3)) 3 rest3
              else
                match rest3 with
                | [] => .bad 3 .unexpectedEnd
                | b4 :: rest4 =>
                    if !isContinuation b4 then .bad 3 .invalidContinuation
                    else
                      .code (.ofNat (((b.toNat % 0x08 * 0x40 + payload b2) * 0x40 + payload b3)
                        * 0x40 + payload b4)) 4 rest4

/-- A sequence and the bytes after it are all the bytes. -/
theorem length_of_step {b : UInt8} {bytes rest : Bytes} {p : CodePoint} {length : Nat}
    (h : step b bytes = .code p length rest) : length + rest.length = bytes.length + 1 := by
  unfold step at h
  repeat' split at h
  all_goals cases h
  all_goals simp +arith

theorem length_rest_le {b : UInt8} {bytes rest : Bytes} {p : CodePoint} {length : Nat}
    (h : step b bytes = .code p length rest) : rest.length ≤ bytes.length := by
  have hPositive : 0 < length := by
    unfold step at h
    repeat' split at h
    all_goals cases h
    all_goals decide
  have hTotal := length_of_step h
  omega

/-- Decodes bytes of which `offset` came before. -/
def decodeFrom (offset : Nat) : Bytes → Except Fault Text
  | [] => .ok []
  | b :: bytes =>
      match h : step b bytes with
      | .bad length reason => .error ⟨b, offset, length, reason⟩
      | .code p length rest =>
          have := length_rest_le h
          (decodeFrom (offset + length) rest).map (p :: ·)
termination_by bytes => bytes.length

/-- Decodes bytes, or says where the first bad sequence is. -/
def decode (bytes : Bytes) : Except Fault Text := decodeFrom 0 bytes

/-- Decodes bytes with U+FFFD in the place of each bad sequence. -/
def decodeLenient : Bytes → Text
  | [] => []
  | b :: bytes =>
      match h : step b bytes with
      | .bad length _ => .char '\uFFFD' :: decodeLenient (bytes.drop (length - 1))
      | .code p _ rest =>
          have := length_rest_le h
          p :: decodeLenient rest
termination_by bytes => bytes.length
decreasing_by
  all_goals simp only [List.length_drop, List.length_cons]
  all_goals omega

/-- The bytes of a character. -/
def encodeChar (c : Char) : Bytes := String.utf8EncodeChar c

/-- A run of lone surrogates, which have no bytes: the first of them, its offset and the number of
code points in the run. -/
structure SurrogateRun where
  first : CodePoint
  start : Nat
  length : Nat
  deriving DecidableEq, Repr

/-- The first run of lone surrogates of a text, if there is one. -/
def surrogateRun? (t : Text) : Option SurrogateRun :=
  let before := t.takeWhile fun p => p.toChar?.isSome
  match t.drop before.length with
  | [] => none
  | p :: rest =>
      some ⟨p, before.length, (rest.takeWhile fun p => p.toChar?.isNone).length + 1⟩

/-- Is it a lone surrogate that stands for a byte in the name of a file? -/
def standsForByte (p : CodePoint) : Bool := 0xDC80 ≤ p.toNat && p.toNat ≤ 0xDCFF

/-- The first run of lone surrogates that no name of a file can hold, if there is one. A run begins
after those of its surrogates that stand for bytes. -/
def unnameable? (t : Text) : Option SurrogateRun :=
  let before := t.takeWhile fun p => p.toChar?.isSome || standsForByte p
  match t.drop before.length with
  | [] => none
  | p :: rest =>
      some ⟨p, before.length, (rest.takeWhile fun p => p.toChar?.isNone).length + 1⟩

/-- The bytes of a text, or the first run of code points that have none. -/
def encode (t : Text) : Except SurrogateRun Bytes :=
  match surrogateRun? t with
  | some run => .error run
  | none => .ok (t.flatMap fun p => (p.toChar?.map encodeChar).getD [])

/-- The bytes of a byte order mark. -/
def byteOrderMark : Bytes := [0xEF, 0xBB, 0xBF]

/-- The bytes without a byte order mark at their head; a mark cut short by the end goes too. -/
def dropByteOrderMark (bytes : Bytes) : Bytes :=
  if bytes.length < 3 then (if bytes.isPrefixOf byteOrderMark then [] else bytes)
  else if byteOrderMark.isPrefixOf bytes then bytes.drop 3 else bytes

/-- The reason in the words of a message. -/
def Reason.message : Reason → Text
  | .invalidStart => text "invalid start byte"
  | .invalidContinuation => text "invalid continuation byte"
  | .unexpectedEnd => text "unexpected end of data"

/-- The fault in the words of a message. -/
def Fault.message (fault : Fault) : Text :=
  text "'utf-8' codec can't decode " ++
    (if fault.length = 1 then
      text "byte 0x" ++ Text.ofNatHex 2 fault.byte.toNat ++ text " in position " ++
        Text.ofNat fault.start
    else
      text "bytes in position " ++ Text.ofNat fault.start ++ text "-" ++
        Text.ofNat (fault.start + fault.length - 1)) ++
    text ": " ++ fault.reason.message

/-- The run in the words of a message. -/
def SurrogateRun.message (run : SurrogateRun) : Text :=
  text "'utf-8' codec can't encode " ++
    (if run.length = 1 then
      text "character '\\u" ++ Text.ofNatHex 4 run.first.toNat ++ text "' in position " ++
        Text.ofNat run.start
    else
      text "characters in position " ++ Text.ofNat run.start ++ text "-" ++
        Text.ofNat (run.start + run.length - 1)) ++
    text ": surrogates not allowed"

end Utf8

end EntityForge
