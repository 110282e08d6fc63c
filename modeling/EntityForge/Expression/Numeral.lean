import EntityForge.Expression.Token

/-! # Numerals of expressions

A numeral is whole, with a base given by a letter behind a zero, or decimal with a fraction and an
exponent; a letter makes it imaginary. Digits may be set apart by single low lines. No word may
follow at once, except for a few that can only be meant as words.
-/

namespace EntityForge.Expression

/-- Digits and what follows them. -/
abbrev Digits := Except TokenFault (Text × Text)

/-- The digits at the head of a text, each but the first of which may stand behind a low line. -/
def decimalDigits : Text → Digits
  | [] => .ok ([], [])
  | p :: rest =>
      if p.isDigit then do
        let (digits, after) ← decimalDigits rest
        return (p :: digits, after)
      else if p = .char '_' then
        match rest with
        | [] => .error (.numeral .decimal)
        | q :: after =>
            if q.isDigit then do
              let (digits, after) ← decimalDigits after
              return (q :: digits, after)
            else .error (.numeral .decimal)
      else .ok ([], p :: rest)

/-- Words that can follow a numeral at once. -/
def followingWords : List Text :=
  [text "and", text "else", text "for", text "or", text "not"]

/-- Does one of those words follow? -/
def hasFollowingWord (rest : Text) : Bool :=
  let word := rest.takeWhile continuesWord
  followingWords.contains word ||
    [text "if", text "in", text "is"].any fun front => front.isPrefixOf word

/-- A numeral of that kind ends here. -/
def endNumeral (kind : NumeralKind) (n : Numeral) (rest : Text) :
    Except TokenFault (Numeral × Text) :=
  match rest with
  | [] => .ok (n, [])
  | p :: _ =>
      if continuesWord p && !hasFollowingWord rest then .error (.numeral kind) else .ok (n, rest)

/-- A decimal numeral ends here, or the letter follows that makes it imaginary. -/
def endDecimal (n : Numeral) (rest : Text) : Except TokenFault (Numeral × Text) :=
  match rest with
  | [] => .ok (n, [])
  | p :: after =>
      if p = .char 'j' ∨ p = .char 'J' then endNumeral .imaginary .imaginary after
      else endNumeral .decimal n rest

/-- Goes on behind the letter of an exponent. The letter belongs to a word if no number follows. -/
def afterExponent (n : Numeral) (letter : CodePoint) (rest : Text) :
    Except TokenFault (Numeral × Text) :=
  match rest with
  | [] => .error (.numeral .decimal)
  | p :: after =>
      if p = .char '+' ∨ p = .char '-' then
        match after with
        | [] => .error (.numeral .decimal)
        | q :: _ =>
            if q.isDigit then do
              let (_, after) ← decimalDigits after
              endDecimal .floating after
            else .error (.numeral .decimal)
      else if p.isDigit then do
        let (_, after) ← decimalDigits rest
        endDecimal .floating after
      else endNumeral .decimal n (letter :: rest)

/-- Goes on where an exponent may follow. -/
def maybeExponent (n : Numeral) (rest : Text) : Except TokenFault (Numeral × Text) :=
  match rest with
  | [] => .ok (n, [])
  | p :: after =>
      if p = .char 'e' ∨ p = .char 'E' then afterExponent n p after else endDecimal n rest

/-- Goes on behind a decimal point. -/
def afterPoint (rest : Text) : Except TokenFault (Numeral × Text) :=
  match rest with
  | [] => .ok (.floating, [])
  | p :: _ =>
      if p.isDigit then do
        let (_, after) ← decimalDigits rest
        maybeExponent .floating after
      else maybeExponent .floating rest

/-- The number that decimal digits stand for. -/
def wholeOf (digits : Text) : Numeral :=
  if Json.maxIntegerDigits < digits.length then .tooLong digits.length
  else .whole (Text.digitsValue digits)

/-- Goes on behind decimal digits of which the first is no zero. -/
def afterDigits (digits rest : Text) : Except TokenFault (Numeral × Text) :=
  match rest with
  | .char '.' :: after => afterPoint after
  | _ => maybeExponent (wholeOf digits) rest

/-- Goes on behind decimal digits of which the first is a zero: all of them have to be. -/
def afterZero (digits rest : Text) : Except TokenFault (Numeral × Text) :=
  match rest with
  | .char '.' :: after => afterPoint after
  | _ =>
      if digits.all fun p => p = .char '0' then maybeExponent (wholeOf digits) rest
      else
        match rest with
        | [] => .error .leadingZeros
        | p :: after =>
            if p = .char 'e' ∨ p = .char 'E' then afterExponent (wholeOf digits) p after
            else if p = .char 'j' ∨ p = .char 'J' then endNumeral .imaginary .imaginary after
            else .error .leadingZeros

/-- The digits of a base behind its letter, and what follows them. -/
def baseDigits (kind : NumeralKind) (isBaseDigit : CodePoint → Bool) : Text → Digits
  | [] => .ok ([], [])
  | p :: rest =>
      if isBaseDigit p then do
        let (digits, after) ← baseDigits kind isBaseDigit rest
        return (p :: digits, after)
      else if p = .char '_' then
        match rest with
        | [] => .error (.numeral kind)
        | q :: after =>
            if isBaseDigit q then do
              let (digits, after) ← baseDigits kind isBaseDigit after
              return (q :: digits, after)
            else if kind ≠ .hexadecimal ∧ q.isDigit then
              .error (.digit (q.toChar?.getD '0') kind)
            else .error (.numeral kind)
      else if kind ≠ .hexadecimal ∧ p.isDigit then .error (.digit (p.toChar?.getD '0') kind)
      else .ok ([], p :: rest)

/-- The numeral of a base behind its letter. -/
def baseNumeral (kind : NumeralKind) (base : Nat) (rest : Text) :
    Except TokenFault (Numeral × Text) := do
  let isBaseDigit (p : CodePoint) := p.hexValue?.any (· < base)
  let (digits, after) ← baseDigits kind isBaseDigit rest
  if digits.isEmpty then .error (.numeral kind)
  else
    let n := digits.foldl (fun n p => base * n + p.hexValue?.getD 0) 0
    endNumeral kind (.whole n) after

/-- The numeral at the head of a text that begins with a digit. -/
def readNumeral (t : Text) : Except TokenFault (Numeral × Text) := do
  match t with
  | .char '0' :: p :: rest =>
      if p = .char 'x' ∨ p = .char 'X' then baseNumeral .hexadecimal 16 rest
      else if p = .char 'o' ∨ p = .char 'O' then baseNumeral .octal 8 rest
      else if p = .char 'b' ∨ p = .char 'B' then baseNumeral .binary 2 rest
      else
        let (digits, after) ← decimalDigits t
        afterZero digits after
  | _ =>
      let (digits, after) ← decimalDigits t
      afterDigits digits after

end EntityForge.Expression
