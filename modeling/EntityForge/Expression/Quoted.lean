import EntityForge.Expression.Token

/-! # Text literals of expressions

A text literal is plain unless its letters say otherwise. Literals for bytes hold ASCII only. In a
literal with replacement fields, expressions stand in braces, each with a conversion and a format,
which may have fields again; a doubled brace stands for itself.
-/

namespace EntityForge.Expression

/-- The spelling of a literal in ASCII: other code points are spelled as escapes, and so is a
backslash before one of them. -/
def asciiSpelling : Text → Text
  | [] => []
  | [.char '\\'] => text "\\u005c"
  | .char '\\' :: p :: rest =>
      if p.toNat < 0x80 then .char '\\' :: p :: asciiSpelling rest
      else text "\\u005c\\U" ++ Text.ofNatHex 8 p.toNat ++ asciiSpelling rest
  | p :: rest =>
      if p.toNat < 0x80 then p :: asciiSpelling rest
      else text "\\U" ++ Text.ofNatHex 8 p.toNat ++ asciiSpelling rest

/-- What is wrong with the escapes of a text. -/
def escapeFault? (isRaw : Bool) (body : Text) : Option TextFault :=
  if isRaw ∨ !body.contains (.char '\\') then none
  else
    match Escape.decode (asciiSpelling body) with
    | .error fault => some (.escape fault)
    | .ok _ => none

/-- The place of the first numeric escape for a byte that has too few digits, given the place of
the text. -/
def badByteEscape? (place : Nat) : Text → Option Nat
  | .char '\\' :: p :: rest =>
      let digits := (rest.take 2).filter fun q => q.hexValue?.isSome
      if p = .char 'x' ∧ digits.length < 2 then some place else badByteEscape? (place + 2) rest
  | _ :: rest => badByteEscape? (place + 1) rest
  | [] => none

/-- What is wrong with the bytes of a literal. -/
def bytesFault? (isRaw : Bool) (body : Text) : Option TextFault :=
  if body.any fun p => 0x80 ≤ p.toNat then some .nonAscii
  else if isRaw then none
  else (badByteEscape? 0 body).map .byteEscape

/-- The plain front of a literal with fields. -/
structure PlainFront where
  plain : Text
  isDoubled : Bool
  rest : Text

/-- The plain front with a text before it. -/
def PlainFront.after (front : PlainFront) (t : Text) : PlainFront :=
  { front with plain := t ++ front.plain }

/-- A brace ends a plain front. Outside formats it may be doubled, and then it belongs to it. -/
def endFront (inFormat : Bool) (brace : CodePoint) (rest : Text) : Except FieldFault PlainFront :=
  if inFormat then .ok ⟨[], false, brace :: rest⟩
  else if rest.head? = some brace then .ok ⟨[brace], true, rest.tail⟩
  else if brace = .char '\x7d' then .error .singleBrace
  else .ok ⟨[], false, brace :: rest⟩

/-- Is it a brace? -/
def isBrace (p : CodePoint) : Bool := p == .char '\x7b' || p == .char '\x7d'

/-- The plain front of the rest of a literal with fields. The braces of an escape by name are plain.
-/
def plainFront (isRaw inFormat : Bool) (body : Text) : Except FieldFault PlainFront :=
  match body with
  | [] => .ok ⟨[], false, []⟩
  | p :: rest =>
      if p = .char '\\' ∧ !isRaw then
        match rest with
        | [] => .ok ⟨[p], false, []⟩
        | q :: after =>
            if q = .char 'N' then
              let name :=
                if after.head? = some (.char '\x7b') then
                  (after.takeWhile (· ≠ .char '\x7d')).length + 1
                else 1
              (plainFront isRaw inFormat (after.drop name)).map
                (·.after (p :: q :: after.take name))
            else if isBrace q then (endFront inFormat q after).map (·.after [p])
            else (plainFront isRaw inFormat after).map (·.after [p, q])
      else if isBrace p then endFront inFormat p rest
      else (plainFront isRaw inFormat rest).map (·.after [p])
termination_by body.length
decreasing_by
  all_goals simp only [List.length_cons, List.length_drop]
  all_goals omega

/-- Where the expression of a field is: in a text with those quotes, or between those open brackets,
innermost first. -/
inductive FieldPlace
  | quoted (quotes : Text) (brackets : List Char)
  | open (brackets : List Char)

/-- The opening bracket of a closing one. -/
def openingOf (closing : Char) : Char :=
  if closing = ')' then '(' else if closing = ']' then '[' else '\x7b'

/-- The expression of a field and what follows it. -/
def fieldExpression (field : FieldPlace) (body : Text) : Except FieldFault (Text × Text) :=
  match field, body with
  | .quoted _ _, [] => .error .openText
  | .open (bracket :: _), [] => .error (.unmatched bracket)
  | .open [], [] => .error .unclosed
  | .quoted quotes brackets, p :: rest =>
      if p = .char '\\' then .error .backslash
      else if quotes.isPrefixOf (p :: rest) then
        let length := quotes.length - 1
        (fieldExpression (.open brackets) (rest.drop length)).map fun (front, after) =>
          (p :: rest.take length ++ front, after)
      else
        (fieldExpression field rest).map fun (front, after) => (p :: front, after)
  | .open brackets, p :: rest =>
      if p = .char '\\' then .error .backslash
      else if p = .char '\'' ∨ p = .char '"' then
        let quotes := if [p, p].isPrefixOf rest then [p, p, p] else [p]
        (fieldExpression (.quoted quotes brackets) (rest.drop (quotes.length - 1))).map
          fun (front, after) => (quotes ++ front, after)
      else if p = .char '[' ∨ p = .char '\x7b' ∨ p = .char '(' then
        if 200 ≤ brackets.length then .error .tooManyBrackets
        else
          (fieldExpression (.open ((p.toChar?.getD '(') :: brackets)) rest).map
            fun (front, after) => (p :: front, after)
      else if p = .char '#' then .error .comment
      else if brackets.isEmpty ∧
          ([.char '!', .char ':', .char '\x7d', .char '=', .char '>', .char '<'] : Text).contains
            p then
        if rest.head? = some (.char '=') ∧ p ≠ .char ':' ∧ p ≠ .char '\x7d' then
          (fieldExpression field (rest.drop 1)).map fun (front, after) =>
            (p :: .char '=' :: front, after)
        else if p = .char '>' ∨ p = .char '<' then
          (fieldExpression field rest).map fun (front, after) => (p :: front, after)
        else .ok ([], p :: rest)
      else if p = .char ']' ∨ p = .char '\x7d' ∨ p = .char ')' then
        let closing := p.toChar?.getD ')'
        match brackets with
        | [] => .error (.unmatched closing)
        | opening :: outer =>
            if opening = openingOf closing then
              (fieldExpression (.open outer) rest).map fun (front, after) => (p :: front, after)
            else .error (.mismatched closing opening)
      else (fieldExpression field rest).map fun (front, after) => (p :: front, after)
termination_by body.length
decreasing_by
  all_goals simp only [List.length_cons, List.length_drop]
  all_goals omega

/-- Is it a blank that means nothing in an expression? -/
def isSpace (p : CodePoint) : Bool :=
  p == .char ' ' || p == .char '\t' || p == .char '\n' || p == .char '\x0C'

/-- What is wrong with the expression of a field, given what follows it and a judgement of
expressions. -/
def fieldFault? (inField : Bool) (judge : Text → Option Fault) (front rest : Text) :
    Option Fault :=
  if front.all isSpace then
    match rest with
    | .char c :: _ =>
        if c = '!' ∨ c = ':' ∨ c = '=' then some (.field inField (.nothingBefore c))
        else some (.field inField .empty)
    | _ => some (.field inField .empty)
  else judge (.char '(' :: front ++ [.char ')'])

/-- Goes past the equals sign behind the expression of a field, and the blanks behind it. -/
def pastEquals (rest : Text) : Text :=
  match rest with
  | .char '=' :: rest => rest.dropWhile fun p => isSpace p || p = .char '\r' || p = .char '\x0B'
  | _ => rest

/-- Goes past the conversion behind the expression of a field. -/
def pastConversion (rest : Text) : Except FieldFault Text :=
  match rest with
  | .char '!' :: rest =>
      match rest with
      | [] => .error .unclosed
      | p :: rest =>
          if p = .char 's' ∨ p = .char 'r' ∨ p = .char 'a' then .ok rest
          else .error .conversion
  | _ => .ok rest

/-- Goes past the plain text and the fields of a literal, or of a format at that depth; `fuel` is
at least the length of the rest. -/
def pastFields (inField isRaw : Bool) (judge : Text → Option Fault) (fuel depth : Nat)
    (body : Text) : Except Fault Text :=
  match fuel with
  | 0 => .ok body
  | fuel + 1 => do
      let complain {α : Type} (found : Except FieldFault α) : Except Fault α :=
        found.mapError (.field inField)
      let front ← complain (plainFront isRaw (depth != 0) body)
      if let some fault := escapeFault? isRaw front.plain then .error (.text inField fault)
      if front.isDoubled then pastFields inField isRaw judge fuel depth front.rest
      else
        match front.rest with
        | .char '\x7b' :: rest =>
            if 2 ≤ depth then .error (.field inField .tooDeep)
            else
              let (expression, rest) ← complain (fieldExpression (.open []) rest)
              if let some fault := fieldFault? inField judge expression rest then .error fault
              let rest ← complain (pastConversion (pastEquals rest))
              let rest ← match rest with
                | .char ':' :: rest =>
                    if rest.isEmpty then .error (.field inField .unclosed)
                    else pastFields inField isRaw judge fuel (depth + 1) rest
                | _ => .ok rest
              match rest with
              | .char '\x7d' :: rest => pastFields inField isRaw judge fuel depth rest
              | _ => .error (.field inField .unclosed)
        | rest =>
            if depth ≠ 0 ∧ rest.head? ≠ some (.char '\x7d') then
              .error (.field inField .unclosed)
            else .ok rest

/-- What is wrong with a text literal, given a judgement of the expressions of its fields. -/
def Quoted.fault? (inField : Bool) (judge : Text → Option Fault) (literal : Quoted) :
    Option Fault :=
  if literal.isBytes then (bytesFault? literal.isRaw literal.body).map (.text inField)
  else if literal.hasFields then
    match pastFields inField literal.isRaw judge (literal.body.length + 1) 0 literal.body with
    | .error fault => some fault
    | .ok _ => none
  else (escapeFault? literal.isRaw literal.body).map (.text inField)

/-- What is wrong with adjacent text literals. All or none of them stand for bytes, which is seen
before the fields of a literal are read. -/
def quotedFault? (inField : Bool) (judge : Text → Option Fault) (literals : List Quoted) :
    Option Fault :=
  let isBytes := literals.head?.any (·.isBytes)
  literals.findSome? fun literal =>
    let fault := literal.fault? inField judge
    let mixed := if literal.isBytes = isBytes then none else some (.text inField .mixed)
    if literal.hasFields then mixed.or fault else fault.or mixed

end EntityForge.Expression
