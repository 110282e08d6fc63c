import EntityForge.Json.Fault
import EntityForge.Value.Basic

/-! # Reading JSON

A document is one value between blanks. Beside the standard grammar the names `NaN`, `Infinity`
and `-Infinity` are read as numbers, and a `\u` escape may stand for half a surrogate pair; two
that make up a pair are read as the one character. Of members with one name the last value counts,
at the place of the first.

Each reader returns what it read and the rest of the document, which is shorter, so that reading
ends; a fault carries the length of the rest at its place.
-/

namespace EntityForge.Json

/-- What a reader found at the head of `input`, and the shorter rest. -/
structure Found (α : Type) (input : Text) where
  value : α
  rest : Text
  shorter : rest.length < input.length

/-- The result of a reader; a fault holds how much of the document was left at its place. -/
abbrev Result (α : Type) (input : Text) := Except Fault (Found α input)

/-- A fault at the head of `rest`. -/
def fail {α : Type} (reason : Reason) (rest : Text) : Except Fault α :=
  .error (.malformed reason rest.length)

/-- The blanks between the tokens of a document. -/
def isSpace (p : CodePoint) : Bool :=
  p = .char ' ' || p = .char '\t' || p = .char '\n' || p = .char '\r'

/-- A text without the blanks at its head. -/
def skipSpace (t : Text) : Text := t.dropWhile isSpace

theorem length_drop_lt {input : Text} {n : Nat} (h : 0 < n ∧ input ≠ []) :
    (input.drop n).length < input.length := by
  have hInput := List.length_pos_iff.2 h.2
  simp only [List.length_drop]
  omega

theorem length_skipSpace_le (t : Text) : (skipSpace t).length ≤ t.length :=
  (List.dropWhile_suffix _).length_le

theorem length_of_skipSpace {t rest : Text} (h : skipSpace t = rest) : rest.length ≤ t.length :=
  h ▸ length_skipSpace_le t

/-- The number that four hexadecimal digits at the head of a text denote. -/
def hexUnit? : Text → Option Nat
  | a :: b :: c :: d :: _ => do
      let a ← a.hexValue?
      let b ← b.hexValue?
      let c ← c.hexValue?
      let d ← d.hexValue?
      return ((a * 16 + b) * 16 + c) * 16 + d
  | _ => none

/-- The number of a `\u` escape at the head of a text, if there is one. -/
def unitEscape? : Text → Option Nat
  | .char '\\' :: .char 'u' :: rest => hexUnit? rest
  | _ => none

/-- The character of a one-letter escape. -/
def simpleEscape? (p : CodePoint) : Option CodePoint :=
  if p = .char '"' || p = .char '\\' || p = .char '/' then some p
  else if p = .char 'b' then some (.char '\x08')
  else if p = .char 'f' then some (.char '\x0C')
  else if p = .char 'n' then some (.char '\n')
  else if p = .char 'r' then some (.char '\r')
  else if p = .char 't' then some (.char '\t')
  else none

/-- The code point of a surrogate pair. -/
def joinPair (high low : Nat) : CodePoint :=
  .ofNat (0x10000 + (high - 0xD800) * 0x400 + (low - 0xDC00))

/-- The first half of a surrogate pair. -/
def isHigh (unit : Nat) : Bool := 0xD800 ≤ unit && unit < 0xDC00

/-- The second half of a surrogate pair. -/
def isLow (unit : Nat) : Bool := 0xDC00 ≤ unit && unit < 0xE000

/-- Reads the code point of a `\u` escape, `rest` being what follows the `u`: four digits, after
which the document goes on, and if they are the first half of a pair whose second half follows,
that one too. The text returned is what follows. -/
def unicodeEscape? (rest : Text) : Option (CodePoint × Text) :=
  match hexUnit? rest with
  | none => none
  | some unit =>
      let after := rest.drop 4
      if after.isEmpty then none
      else
        match unitEscape? after with
        | some low =>
            if isHigh unit && isLow low && !(after.drop 6).isEmpty then
              some (joinPair unit low, after.drop 6)
            else some (.ofNat unit, after)
        | none => some (.ofNat unit, after)

theorem length_of_unicodeEscape? {rest after : Text} {p : CodePoint}
    (h : unicodeEscape? rest = some (p, after)) : after.length ≤ rest.length := by
  simp only [unicodeEscape?] at h
  repeat' split at h
  all_goals simp only [Option.some.injEq, Prod.mk.injEq, reduceCtorEq] at h
  all_goals
    obtain ⟨-, rfl⟩ := h
    simp

/-- Reads the inside of a string up to its closing quote. `opening` is the document from the opening
quote on. -/
def readString (opening read input : Text) : Result Text input :=
  match input with
  | [] => fail .unterminatedString opening
  | .char '"' :: rest => .ok ⟨read.reverse, rest, by simp⟩
  | [.char '\\'] => fail .unterminatedString opening
  | .char '\\' :: .char 'u' :: rest =>
      match h : unicodeEscape? rest with
      | none => fail .unicodeEscape (.char 'u' :: rest)
      | some (p, after) =>
          have hAfter := length_of_unicodeEscape? h
          match readString opening (p :: read) after with
          | .error fault => .error fault
          | .ok ⟨value, rest, shorter⟩ => .ok ⟨value, rest, by simp only [List.length_cons]; omega⟩
  | .char '\\' :: p :: rest =>
      match simpleEscape? p with
      | none => fail .escape (.char '\\' :: p :: rest)
      | some image =>
          match readString opening (image :: read) rest with
          | .error fault => .error fault
          | .ok ⟨value, rest, shorter⟩ => .ok ⟨value, rest, by simp only [List.length_cons]; omega⟩
  | p :: rest =>
      if p.toNat ≤ 0x1F then fail .controlCharacter (p :: rest)
      else
        match readString opening (p :: read) rest with
        | .error fault => .error fault
        | .ok ⟨value, rest, shorter⟩ => .ok ⟨value, rest, by simp only [List.length_cons]; omega⟩
termination_by input.length
decreasing_by
  all_goals simp only [List.length_cons]
  all_goals omega

/-- The ASCII digits at the head of a text. -/
def digitsOf (t : Text) : Text := t.takeWhile CodePoint.isDigit

/-- The parts of a numeral, as texts: the digits of the whole part, those of the fraction and the
exponent with its sign; the last two are missing in an integer. -/
structure Numeral where
  negative : Bool
  whole : Text
  fraction : Option Text
  exponent : Option (Bool × Text)

/-- The whole part of a numeral: a zero by itself, or digits that do not begin with one. -/
def wholePart (t : Text) : Text :=
  match t with
  | .char '0' :: _ => text "0"
  | _ => digitsOf t

/-- The digits of a fraction after its point, if there are any. -/
def fractionPart? : Text → Option Text
  | .char '.' :: rest => if (digitsOf rest).isEmpty then none else some (digitsOf rest)
  | _ => none

/-- The sign, the digits and the whole length of an exponent, if there are digits. -/
def exponentPart? : Text → Option (Bool × Text × Nat)
  | p :: rest =>
      if p = .char 'e' || p = .char 'E' then
        let (negative, signs, rest) : Bool × Nat × Text :=
          match rest with
          | .char '-' :: rest => (true, 1, rest)
          | .char '+' :: rest => (false, 1, rest)
          | rest => (false, 0, rest)
        let digits := digitsOf rest
        if digits.isEmpty then none else some (negative, digits, 1 + signs + digits.length)
      else none
  | [] => none

/-- Reads the longest numeral at the head of a text and says how long it is. -/
def numeral? (t : Text) : Option (Numeral × Nat) :=
  let (negative, body) : Bool × Text :=
    match t with
    | .char '-' :: rest => (true, rest)
    | t => (false, t)
  let whole := wholePart body
  if whole.isEmpty then none
  else
    let afterWhole := body.drop whole.length
    let fraction := fractionPart? afterWhole
    let fractionLength := (fraction.map fun digits => digits.length + 1).getD 0
    let exponent := exponentPart? (afterWhole.drop fractionLength)
    let exponentLength := (exponent.map fun e => e.2.2).getD 0
    some (⟨negative, whole, fraction, exponent.map fun e => (e.1, e.2.1)⟩,
      (if negative then 1 else 0) + whole.length + fractionLength + exponentLength)

/-- The value of a numeral: an integer if there is neither a fraction nor an exponent. -/
def Numeral.value (n : Numeral) : Except Fault Value :=
  match n.fraction, n.exponent with
  | none, none =>
      if maxIntegerDigits < n.whole.length then .error (.longInteger n.whole.length)
      else
        let magnitude : Int := Text.digitsValue n.whole
        .ok (.int (if n.negative then -magnitude else magnitude))
  | _, _ =>
      let fraction := n.fraction.getD []
      let exponent : Int :=
        match n.exponent with
        | none => 0
        | some (negative, digits) =>
            let magnitude : Int := Text.digitsValue digits
            if negative then -magnitude else magnitude
      .ok (.float (Binary64.ofDecimal n.negative (Text.digitsValue (n.whole ++ fraction))
        (exponent - fraction.length)))

/-- The values that are spelled as words. -/
def words : List (Text × Value) := [
  (text "null", .null), (text "true", .bool true), (text "false", .bool false),
  (text "NaN", .float .nan), (text "Infinity", .float (.infinite false)),
  (text "-Infinity", .float (.infinite true))]

/-- Reads a word or a numeral. -/
def readScalar (input : Text) : Result Value input :=
  match words.find? fun word => word.1.isPrefixOf input with
  | some (word, value) =>
      if h : 0 < word.length ∧ input ≠ [] then
        .ok ⟨value, input.drop word.length, length_drop_lt h⟩
      else fail .value input
  | none =>
      match numeral? input with
      | none => fail .value input
      | some (numeral, length) =>
          match numeral.value with
          | .error fault => .error fault
          | .ok value =>
              if h : 0 < length ∧ input ≠ [] then
                .ok ⟨value, input.drop length, length_drop_lt h⟩
              else fail .value input

mutual

/-- Reads a value at the head of `input`. -/
def readValue (input : Text) : Result Value input :=
  match input with
  | .char '"' :: rest =>
      match readString (.char '"' :: rest) [] rest with
      | .error fault => .error fault
      | .ok ⟨value, rest, shorter⟩ =>
          .ok ⟨.string value, rest, by simp only [List.length_cons]; omega⟩
  | .char '[' :: rest =>
      match h : skipSpace rest with
      | .char ']' :: rest' =>
          have hSkip := length_of_skipSpace h
          .ok ⟨.list [], rest', by simp only [List.length_cons] at hSkip ⊢; omega⟩
      | items =>
          have hSkip := length_of_skipSpace h
          match readItems [] items with
          | .error fault => .error fault
          | .ok ⟨value, rest, shorter⟩ =>
              .ok ⟨.list value, rest, by simp only [List.length_cons]; omega⟩
  | .char '\x7b' :: rest =>
      match h : skipSpace rest with
      | .char '\x7d' :: rest' =>
          have hSkip := length_of_skipSpace h
          .ok ⟨.object [], rest', by simp only [List.length_cons] at hSkip ⊢; omega⟩
      | members =>
          have hSkip := length_of_skipSpace h
          match readMembers [] members with
          | .error fault => .error fault
          | .ok ⟨value, rest, shorter⟩ =>
              .ok ⟨.object value, rest, by simp only [List.length_cons]; omega⟩
  | input => readScalar input
termination_by (input.length, 0)
decreasing_by
  all_goals simp only [List.length_cons]
  all_goals apply Prod.Lex.left
  all_goals omega

/-- Reads the items of a list up to its closing bracket, `read` being those read before. -/
def readItems (read : List Value) (input : Text) : Result (List Value) input :=
  match readValue input with
  | .error fault => .error fault
  | .ok ⟨value, rest, shorter⟩ =>
      match h : skipSpace rest with
      | .char ']' :: rest' =>
          have hSkip := length_of_skipSpace h
          .ok ⟨(value :: read).reverse, rest', by simp only [List.length_cons] at hSkip; omega⟩
      | .char ',' :: rest' =>
          have hSkip := length_of_skipSpace h
          have hNext := length_skipSpace_le rest'
          match readItems (value :: read) (skipSpace rest') with
          | .error fault => .error fault
          | .ok ⟨value, rest, shorter⟩ =>
              .ok ⟨value, rest, by simp only [List.length_cons] at hSkip; omega⟩
      | rest' => fail .comma rest'
termination_by (input.length, 1)
decreasing_by
  · apply Prod.Lex.right
    omega
  · apply Prod.Lex.left
    simp only [List.length_cons] at hSkip
    omega

/-- Reads the members of an object up to its closing brace, `read` being those read before. -/
def readMembers (read : Entries Value) (input : Text) : Result (Entries Value) input :=
  match input with
  | .char '"' :: rest =>
      match readString (.char '"' :: rest) [] rest with
      | .error fault => .error fault
      | .ok ⟨name, rest, shorter⟩ =>
          match h : skipSpace rest with
          | .char ':' :: rest' =>
              have hSkip := length_of_skipSpace h
              have hValue := length_skipSpace_le rest'
              match readValue (skipSpace rest') with
              | .error fault => .error fault
              | .ok ⟨value, rest, shorterValue⟩ =>
                  match hAfter : skipSpace rest with
                  | .char '\x7d' :: rest'' =>
                      have hEnd := length_of_skipSpace hAfter
                      .ok ⟨Entries.put read name value, rest'', by
                        simp only [List.length_cons] at hSkip hEnd ⊢
                        omega⟩
                  | .char ',' :: rest'' =>
                      have hEnd := length_of_skipSpace hAfter
                      have hNext := length_skipSpace_le rest''
                      match readMembers (Entries.put read name value) (skipSpace rest'') with
                      | .error fault => .error fault
                      | .ok ⟨value, rest, shorterNext⟩ =>
                          .ok ⟨value, rest, by
                            simp only [List.length_cons] at hSkip hEnd ⊢
                            omega⟩
                  | rest'' => fail .comma rest''
          | rest' => fail .colon rest'
  | input => fail .name input
termination_by (input.length, 1)
decreasing_by
  · apply Prod.Lex.left
    simp only [List.length_cons] at hSkip ⊢
    omega
  · apply Prod.Lex.left
    simp only [List.length_cons] at hSkip hEnd ⊢
    omega

end

/-- A fault whose offset counts from the beginning of a document of that length. -/
def Fault.fromStart (length : Nat) : Fault → Fault
  | .malformed reason left => .malformed reason (length - left)
  | fault => fault

/-- Reads a whole document. -/
def read (document : Text) : Except Fault Value :=
  match document with
  | .char '\uFEFF' :: _ => .error (.malformed .byteOrderMark 0)
  | _ =>
      match readValue (skipSpace document) with
      | .error fault => .error (fault.fromStart document.length)
      | .ok ⟨value, rest, _⟩ =>
          match skipSpace rest with
          | [] => .ok value
          | extra => .error (.malformed .extraData (document.length - extra.length))

end EntityForge.Json
