import EntityForge.Expression.Numeral
import EntityForge.Naming.Name

/-! # Scanning expressions

The tokens of a source are read from left to right. Between brackets line breaks mean nothing;
elsewhere the blanks that a line begins with are compared with those of the lines before. What
cannot be a token stops the scan.
-/

namespace EntityForge.Expression

/-- Where a scan is: the line, the open brackets with their lines, innermost first, the widths of
the indentations around, innermost first, once with wide tab stops and once with narrow ones, and
whether a token has just ended because of what comes next. -/
structure Cursor where
  line : Nat := 1
  brackets : List (Char × Nat) := []
  indents : List (Nat × Nat) := []
  isTight : Bool := false
  deriving DecidableEq, Repr

namespace Cursor

/-- A token at this place. -/
def place (cursor : Cursor) (token : Token) : Placed :=
  ⟨token, cursor.line, cursor.brackets.length⟩

/-- The place behind a text. -/
def past (cursor : Cursor) (t : Text) : Cursor :=
  { cursor with line := cursor.line + t.count (.char '\n'), isTight := false }

/-- The place behind a token that ends because of what comes next. -/
def tight (cursor : Cursor) : Cursor := { cursor with isTight := true }

/-- The fault of a source that ends here, unless it may. -/
def endFault (cursor : Cursor) : Option TokenFault :=
  cursor.brackets.head?.map fun bracket => .unclosed bracket.1

/-- A fault, or that a bracket is open if the source has ended too early. -/
def orUnclosed (cursor : Cursor) (fault : TokenFault) : TokenFault :=
  if fault = .unexpectedEnd then cursor.endFault.getD fault else fault

end Cursor

/-- The most brackets that may be open at once. -/
def maxBrackets : Nat := 200

/-- The most indentations that may be around a line. -/
def maxIndents : Nat := 100

/-- No more tokens: something is wrong here. -/
def stopped (cursor : Cursor) (fault : TokenFault) (isLoud : Bool) : Tokens :=
  ⟨[], some ⟨fault, isLoud, cursor.isTight⟩, cursor.brackets⟩

/-- Tokens in front of others. -/
def Tokens.after (tokens : Tokens) (front : List Placed) : Tokens :=
  { tokens with placed := front ++ tokens.placed }

/-- Signs of more than one code point, longer ones first. -/
def longSigns : List String := [
  "...", "**=", "//=", "<<=", ">>=", "!=", "%=", "&=", "**", "*=", "+=", "-=", "->", "//", "/=",
  ":=", "<<", "<=", "<>", "==", ">=", ">>", "@=", "^=", "|="]

/-- The sign at the head of a text that begins with a code point, and its length. -/
def signAt (p : CodePoint) (rest : Text) : String × Nat :=
  match longSigns.find? fun sign => (text sign).isPrefixOf (p :: rest) with
  | some sign => (sign, sign.length)
  | none => (Text.toString [p], 1)

/-- The beginning of a text literal: its letters, in lower case, and what stands behind them, which
begins with a quote. -/
def quotedFront? (t : Text) : Option (Text × Text) :=
  let letters := (t.takeWhile beginsWord).map fun p =>
    if 0x41 ≤ p.toNat ∧ p.toNat ≤ 0x5A then .ofNat (p.toNat + 0x20) else p
  let rest := t.drop letters.length
  match rest with
  | p :: _ =>
      if (p = .char '\'' ∨ p = .char '"') ∧
          ["", "b", "r", "u", "f", "br", "rb", "fr", "rf"].any (fun front => letters = text front)
      then some (letters, rest)
      else none
  | [] => none

/-- What stands before the closing quotes, and what follows them. A backslash takes the next code
point with it. Without closing quotes, the text up to where they are missed. -/
def untilQuotes (quotes : Text) (long : Bool) : Text → Except Text (Text × Text)
  | [] => .error []
  | .char '\\' :: p :: rest =>
      match untilQuotes quotes long rest with
      | .ok (body, after) => .ok (.char '\\' :: p :: body, after)
      | .error body => .error (.char '\\' :: p :: body)
  | p :: rest =>
      if quotes.isPrefixOf (p :: rest) then .ok ([], (p :: rest).drop quotes.length)
      else if p = .char '\n' ∧ !long then .error []
      else
        match untilQuotes quotes long rest with
        | .ok (body, after) => .ok (p :: body, after)
        | .error body => .error (p :: body)

/-- The text literal behind its letters, its spelling and what follows it. -/
def readQuoted (cursor : Cursor) (letters rest : Text) :
    Except TokenFault (Quoted × Text × Text) :=
  let quote := rest.take 1
  let quotes := quote ++ quote ++ quote
  let long := quotes.isPrefixOf rest
  let quotes := if long then quotes else quote
  match untilQuotes quotes long (rest.drop quotes.length) with
  | .ok (body, after) =>
      let has (p : Char) := letters.contains (.char p)
      .ok (⟨has 'b', has 'r', has 'f', body⟩, letters ++ quotes ++ body ++ quotes, after)
  | .error body =>
      let line := (cursor.past body).line
      .error (if long then .openLongText line else .openText line)

/-- What is wrong with a word, if anything is. -/
def wordFault? (t : Text) : Option TokenFault :=
  let isGood (p : CodePoint) (isFirst : Bool) := if isFirst then p.beginsName else p.continuesName
  let flagged := t.zipIdx.filter fun (p, place) => !isGood p (place == 0)
  flagged.head?.map fun (p, _) => if p.isPrintable then .letter p else .unprintable p

/-- The blanks that a line begins with: their widths with wide tab stops and with narrow ones, and
what follows them. A line may go on in the next one, and then its first blanks count. -/
structure Margin where
  line : Nat
  wide : Nat
  narrow : Nat
  kept : Nat
  rest : Text

/-- Reads the blanks that a line begins with. -/
def readMargin (margin : Margin) : Text → Except TokenFault Margin
  | [] => .ok { margin with rest := [] }
  | p :: rest =>
      if p = .char ' ' then
        readMargin { margin with wide := margin.wide + 1, narrow := margin.narrow + 1 } rest
      else if p = .char '\t' then
        readMargin { margin with
          wide := (margin.wide / 8 + 1) * 8
          narrow := margin.narrow + 1 } rest
      else if p = .char '\x0C' then readMargin { margin with wide := 0, narrow := 0 } rest
      else if p = .char '\\' then
        match rest with
        | [] => .error .continuation
        | [.char '\n'] => .error .unexpectedEnd
        | .char '\n' :: after =>
            readMargin { margin with
              line := margin.line + 1
              kept := if margin.kept = 0 then margin.wide else margin.kept } after
        | _ => .error .continuation
      else .ok { margin with rest := p :: rest }

/-- The brackets that belong together. -/
def closes (closing opening : Char) : Bool :=
  (opening == '(' && closing == ')') || (opening == '[' && closing == ']') ||
    (opening == '\x7b' && closing == '\x7d')

/-- The place behind a sign that may be a bracket. -/
def Cursor.pastSign (cursor : Cursor) (p : CodePoint) : Except TokenFault Cursor :=
  match p with
  | .char c =>
      if c = '(' ∨ c = '[' ∨ c = '\x7b' then
        if maxBrackets ≤ cursor.brackets.length then .error .tooManyBrackets
        else .ok { cursor with brackets := (c, cursor.line) :: cursor.brackets }
      else if c = ')' ∨ c = ']' ∨ c = '\x7d' then
        match cursor.brackets with
        | [] => .error (.unmatched c)
        | (opening, line) :: outer =>
            if closes c opening then .ok { cursor with brackets := outer }
            else
              .error (.mismatched c opening (if line = cursor.line then none else some line))
      else .ok cursor
  | .surrogate _ => .ok cursor

/-- The tokens that the margin of a line makes, and the indentations behind it. -/
def marginTokens (cursor : Cursor) (wide narrow : Nat) :
    Except TokenFault (List Placed × Cursor) :=
  let around := cursor.indents.headD (0, 0)
  if wide = around.1 then
    if narrow = around.2 then .ok ([], cursor) else .error .unevenIndent
  else if around.1 < wide then
    if maxIndents ≤ cursor.indents.length + 1 then .error .unevenIndent
    else if narrow ≤ around.2 then .error .unevenIndent
    else
      .ok ([cursor.place .indent], { cursor with indents := (wide, narrow) :: cursor.indents })
  else
    let left := cursor.indents.dropWhile fun indent => wide < indent.1
    let outdents := List.replicate (cursor.indents.length - left.length) (cursor.place .outdent)
    let around := left.headD (0, 0)
    if wide ≠ around.1 then .error .outdent
    else if narrow ≠ around.2 then .error .unevenIndent
    else .ok (outdents, { cursor with indents := left })

mutual

/-- The tokens of a source from the beginning of a line. -/
def scanLine (fuel : Nat) (cursor : Cursor) (t : Text) : Tokens :=
  match fuel with
  | 0 => ⟨[], none, []⟩
  | fuel + 1 =>
      match readMargin ⟨cursor.line, 0, 0, 0, []⟩ t with
      | .error fault => stopped cursor (cursor.orUnclosed fault) false
      | .ok margin =>
          let cursor := { cursor with line := margin.line }
          let isBlank := margin.rest.head?.any fun p => p = .char '#' ∨ p = .char '\n'
          if isBlank ∨ !cursor.brackets.isEmpty then scanRest fuel cursor isBlank margin.rest
          else
            let width := if margin.kept = 0 then margin.wide else margin.kept
            let narrow := if margin.kept = 0 then margin.narrow else margin.kept
            match marginTokens cursor width narrow with
            | .error fault => stopped cursor fault false
            | .ok (front, cursor) => (scanRest fuel cursor false margin.rest).after front

/-- The tokens of the rest of a line, which may be blank, and of the lines behind it. -/
def scanRest (fuel : Nat) (cursor : Cursor) (isBlank : Bool) (t : Text) : Tokens :=
  match fuel, t with
  | 0, _ => ⟨[], none, []⟩
  | _ + 1, [] =>
      match cursor.endFault with
      | some fault => stopped cursor fault false
      | none => ⟨[cursor.place .finish], none, []⟩
  | fuel + 1, p :: rest =>
      if p = .char ' ' ∨ p = .char '\t' ∨ p = .char '\x0C' then
        scanRest fuel (cursor.past [p]) isBlank rest
      else if p = .char '#' then
        scanRest fuel (cursor.past [p]) isBlank (rest.dropWhile (· ≠ .char '\n'))
      else if p = .char '\n' then
        let below := cursor.past [p]
        if isBlank ∨ !cursor.brackets.isEmpty then scanLine fuel below rest
        else (scanLine fuel below rest).after [cursor.place .lineEnd]
      else if p = .char '\\' then
        match rest with
        | [.char '\n'] => stopped cursor (cursor.orUnclosed .unexpectedEnd) false
        | .char '\n' :: after =>
            scanRest fuel (cursor.past (text "\n")) isBlank after
        | _ => stopped cursor .continuation false
      else
        match quotedFront? t with
        | some (letters, rest) =>
            match readQuoted cursor letters rest with
            | .error fault => stopped cursor fault true
            | .ok (literal, spelling, after) =>
                (scanRest fuel (cursor.past spelling) isBlank after).after
                  [cursor.place (.quoted literal)]
        | none =>
            if beginsWord p then
              let word := t.takeWhile continuesWord
              match wordFault? word with
              | some fault => stopped cursor fault true
              | none =>
                  (scanRest fuel cursor.tight isBlank (t.drop word.length)).after
                    [cursor.place (.word word)]
            else if p.isDigit ∨ (p = .char '.' ∧ (rest.head?.any CodePoint.isDigit)) then
              match if p.isDigit then readNumeral t else afterPoint rest with
              | .error fault => stopped cursor fault true
              | .ok (n, after) =>
                  (scanRest fuel cursor.tight isBlank after).after [cursor.place (.numeral n)]
            else
              let (sign, length) := signAt p rest
              match cursor.pastSign p with
              | .error fault => stopped cursor fault true
              | .ok cursor =>
                  if length = 1 ∧ !p.isPrintable then stopped cursor (.unprintable p) true
                  else
                    (scanRest fuel cursor.tight isBlank (t.drop length)).after
                      [cursor.place (.sign sign)]

end

/-- The tokens of a source. -/
def scan (source : Text) : Tokens :=
  let source := source.unifyNewlines
  scanLine (2 * source.length + 2) {} source

end EntityForge.Expression
