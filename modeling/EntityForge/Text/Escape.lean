import EntityForge.Text.CharacterName

/-! # Escapes

In a literal, a backslash and what follows it stand for a code point that is not spelled as itself:
a control code, a number in octal or hexadecimal digits, or a name in braces. A backslash before a
line feed vanishes with it, and a backslash before anything that is no escape stands for itself.
-/

namespace EntityForge.Escape

/-- Why an escape stands for nothing. -/
inductive Reason
  | trailing
  | truncated (letter : Char) (digits : Nat)
  | illegal
  | malformedName
  | unknownName
  deriving DecidableEq, Repr

/-- A bad escape: its reason, its place and its length. -/
structure Fault where
  reason : Reason
  start : Nat
  length : Nat
  deriving DecidableEq, Repr

/-- The reason in the words of a message. -/
def Reason.message : Reason → Text
  | .trailing => text "\\ at end of string"
  | .truncated letter digits =>
      text "truncated \\" ++ .char letter :: List.replicate digits (.char 'X') ++ text " escape"
  | .illegal => text "illegal Unicode character"
  | .malformedName => text "malformed \\N character escape"
  | .unknownName => text "unknown Unicode character name"

/-- The fault in the words of a message. -/
def Fault.message (fault : Fault) : Text :=
  text "'unicodeescape' codec can't decode " ++
    (if fault.length = 1 then text "byte 0x5c in position " ++ Text.ofNat fault.start
    else
      text "bytes in position " ++ Text.ofNat fault.start ++ text "-" ++
        Text.ofNat (fault.start + fault.length - 1)) ++
    text ": " ++ fault.reason.message

/-- What reading behind a backslash gives: the code points that the escape stands for and the
number of those that spell it, or a reason and the number of those that were read. -/
abbrev Reading := Except (Reason × Nat) (Text × Nat)

/-- A numeric escape of a letter and that many hexadecimal digits. -/
def numeric (letter : Char) (digits : Nat) (rest : Text) : Reading :=
  let values := (rest.take digits).map CodePoint.hexValue?
  let known := values.takeWhile Option.isSome
  if known.length < digits then .error (.truncated letter digits, known.length + 1)
  else
    let n := known.foldl (fun n d => 16 * n + d.getD 0) 0
    if n < 0x110000 then .ok ([.ofNat n], digits + 1) else .error (.illegal, digits + 1)

/-- An escape by a name in braces. -/
def named : Text → Reading
  | .char '\x7b' :: rest =>
      let name := rest.takeWhile (· ≠ .char '\x7d')
      if name.length = rest.length ∨ name.isEmpty then .error (.malformedName, name.length + 2)
      else
        match CharacterName.code? name with
        | none => .error (.unknownName, name.length + 3)
        | some n => .ok ([.ofNat n], name.length + 3)
  | _ => .error (.malformedName, 1)

/-- An octal digit. -/
def isOctal (p : CodePoint) : Bool := 0x30 ≤ p.toNat && p.toNat ≤ 0x37

/-- The code point of an escape of one letter. -/
def letter? (p : CodePoint) : Option CodePoint :=
  if p = .char '\\' || p = .char '\'' || p = .char '"' then some p
  else if p = .char 'a' then some (.char '\x07')
  else if p = .char 'b' then some (.char '\x08')
  else if p = .char 'f' then some (.char '\x0C')
  else if p = .char 'n' then some (.char '\n')
  else if p = .char 'r' then some (.char '\r')
  else if p = .char 't' then some (.char '\t')
  else if p = .char 'v' then some (.char '\x0B')
  else none

/-- Reads what stands behind a backslash. -/
def read : Text → Reading
  | [] => .error (.trailing, 0)
  | p :: rest =>
      if p = .char '\n' then .ok ([], 1)
      else if p = .char 'x' then numeric 'x' 2 rest
      else if p = .char 'u' then numeric 'u' 4 rest
      else if p = .char 'U' then numeric 'U' 8 rest
      else if p = .char 'N' then named rest
      else if isOctal p then
        let digits := p :: (rest.take 2).takeWhile isOctal
        .ok ([.ofNat (digits.foldl (fun n d => 8 * n + (d.toNat - 0x30)) 0)], digits.length)
      else
        match letter? p with
        | some q => .ok ([q], 1)
        | none => .ok ([.char '\\', p], 1)

/-- The text that the rest of a literal stands for, which begins at that place. -/
def decodeFrom (offset : Nat) : Text → Except Fault Text
  | [] => .ok []
  | p :: rest =>
      if p = .char '\\' then
        match read rest with
        | .error (reason, length) => .error ⟨reason, offset, length + 1⟩
        | .ok (t, length) => do
            return t ++ (← decodeFrom (offset + length + 1) (rest.drop length))
      else do return p :: (← decodeFrom (offset + 1) rest)
termination_by spelling => spelling.length
decreasing_by
  all_goals simp only [List.length_cons, List.length_drop]
  all_goals omega

/-- The text that the spelling of a literal stands for. -/
def decode (spelling : Text) : Except Fault Text := decodeFrom 0 spelling

end EntityForge.Escape
