import EntityForge.Expression.Call
import EntityForge.Expression.Parameters
import EntityForge.Expression.Quoted
import EntityForge.Expression.Scan

/-! # The grammar of expressions

Operators bind more or less tightly: from a choice by a condition down to powers, calls and
attributes. A source is read once, and if that fails, a second time in search of a mistake that
explains the failure better.
-/

namespace EntityForge.Expression

open Reader

section

variable (self : Rule → Reader Tree)

/-- Operands of a rule with words or signs between them. -/
def chained (rule : Rule) (operator : Reader Unit) : Reader Tree := do
  let first ← self rule
  let rest ← many do operator; self rule
  return if rest.isEmpty then first else .compound "expression"

/-- An expression, read without looking for mistakes. -/
def plainExpression : Reader Tree :=
  (do
    let _ ← self .disjunction
    word "if"
    let _ ← self .disjunction
    word "else"
    let _ ← self .expression
    return .compound "conditional expression") <|>
  self .disjunction <|>
  function self

/-- A text literal. -/
def quotedToken : Reader Quoted := do
  match ← next with
  | .quoted literal => do
      pass
      return literal
  | _ => refuse

/-- A front of a word that is a name, but begins a statement in places. -/
def softWord : Reader Unit := do
  match ← next with
  | .word t =>
      if ["_", "case", "match"].any fun word => t.isPrefixOf (text word) then pass else refuse
  | _ => refuse

/-- Two expressions with nothing between them, or a condition with nothing to choose otherwise. -/
def wrongExpression : Reader Tree := do
  let neighbours ← (do
    absent ((do let _ ← name; let _ ← quotedToken) <|> softWord)
    let first ← self .disjunction
    let _ ← trusting (plainExpression self)
    return (first, ← depth) : Reader (Tree × Nat)).optional
  match neighbours with
  | some (first, depth) =>
      if first.isStatement ∨ depth = 0 then refuse else complain .forgottenComma
  | none => do
      let _ ← self .disjunction
      word "if"
      let _ ← self .disjunction
      absent (word "else" <|> sign ":")
      complain .noAlternative

/-- A name that was once the beginning of a statement, with expressions behind it. -/
def wrongStatement : Reader Tree := do
  let first ← name
  absent (sign "(")
  let _ ← spreadables self
  match first with
  | .name t => if first.isStatement then complain (.statement t) else refuse
  | _ => refuse

/-- A comparison, of which the first sign decides whether it asks for a part. -/
def comparison : Reader Tree := do
  let first ← self .bitOr
  let asksForPart (operator : Reader Unit) (answer : Bool) : Reader Bool := do
    operator
    let _ ← self .bitOr
    return answer
  let signs := ["==", "!=", "<=", "<", ">=", ">"].map fun s => asksForPart (sign s) false
  let words := [
    asksForPart (do word "not"; word "in") false,
    asksForPart (word "in") true,
    asksForPart (do word "is"; word "not") false,
    asksForPart (word "is") false]
  let rest ← ((signs ++ words).foldr (fun reader others => reader <|> others) refuse).many
  match rest with
  | [] => return first
  | answer :: _ => return .comparison first answer

/-- Sums and differences. -/
def sums : Reader Tree := do
  let first ← self .term
  let rest ← many do sign "+" <|> sign "-"; self .term
  return rest.foldl .sum first

/-- An operand, maybe behind signs. -/
def factor : Reader Tree :=
  (do
    sign "+" <|> sign "-"
    return .signed (← self .factor)) <|>
  (do
    sign "~"
    let _ ← self .factor
    return .compound "expression") <|>
  (do
    let base ← self .awaited
    match ← (do sign "**"; self .factor : Reader Tree).optional with
    | some _ => return .compound "expression"
    | none => return base)

/-- Text literals next to each other. -/
def adjacentQuoted : Reader Tree := fun source progress =>
  match quotedToken.atLeastOnce source progress with
  | (.read literals, after) =>
      match source.judge literals with
      | some fault => (.broken fault, after)
      | none =>
          if literals.any (·.hasFields) then (.read (.compound "f-string expression"), after)
          else (.read (.constant .quoted), after)
  | (.refused, after) => (.refused, after)
  | (.broken fault, after) => (.broken fault, after)

/-- A numeral, which must not be too long. -/
def numeral : Reader Tree := fun source progress =>
  match next source progress with
  | (.read (.numeral (.tooLong digits)), after) =>
      (.broken (.text source.inField (.longNumeral digits)), after)
  | (.read (.numeral n), after) =>
      (.read (.constant (.numeral n)), { after with place := after.place + 1 })
  | (.broken fault, after) => (.broken fault, after)
  | (_, after) => (.refused, after)

/-- An operand without parts that are not bracketed. -/
def atom : Reader Tree := do
  match ← next with
  | .word t =>
      if t = text "True" then do pass; return .constant (.truth true)
      else if t = text "False" then do pass; return .constant (.truth false)
      else if t = text "None" then do pass; return .constant .nothing
      else name
  | .quoted _ => self .quoted
  | .numeral _ => numeral
  | .sign "..." => do pass; return .constant .ellipsis
  | _ => display self

/-- What may stand behind an operand: an attribute, or arguments. -/
def behindOperand (operand : Tree) : Reader Tree :=
  (do
    sign "."
    let _ ← name
    return .attribute) <|>
  (do
    let _ ← generator self
    return .call operand (.arguments 1 0 false)) <|>
  (do return .call operand (← callArguments self))

/-- An operand with all that stands behind it, given how often that can be. -/
def withBehind (ending : Reader Unit) (operand : Tree) : Nat → Reader Tree
  | 0 => return operand
  | count + 1 => do
      match ← (do
        let t ← behindOperand self operand
        ending
        return t : Reader Tree).optional with
      | none => return operand
      | some t => withBehind ending t count

/-- The number of tokens, which bounds how often something is read. -/
def bound : Reader Nat := fun source progress => (.read (source.tokens.size + 1), progress)

/-- An operand with attributes and calls. -/
def primary : Reader Tree := do
  withBehind self (pure ()) (← atom self) (← bound)

/-- More of a target follows. -/
def targetGoesOn : Reader Unit := ahead (sign "(" <|> sign "[" <|> sign ".")

/-- The front of a target that is an attribute. -/
def targetPrimary : Reader Tree := do
  let first ← atom self
  targetGoesOn
  withBehind self targetGoesOn first (← bound)

/-- A target between parentheses, a name or an attribute. -/
def targetAtom : Reader Tree :=
  (do
    let _ ← self .targetPrimary
    sign "."
    let _ ← name
    absent targetGoesOn
    return .attribute) <|>
  name <|>
  (do
    sign "("
    let t ← self .targetAtom
    sign ")"
    return t) <|>
  (do
    sign "("
    let _ ← (
      (do
        let _ ← self .target
        let _ ← (do sign ","; let _ ← self .target : Reader Unit).atLeastOnce
        let _ ← (sign ",").optional) <|>
      (do
        let _ ← self .target
        sign ",") : Reader Unit).optional
    sign ")"
    return .tuple [])

/-- A target of a loop. -/
def target : Reader Tree :=
  (do
    sign "*"
    absent (sign "*")
    return .starred (← self .target)) <|>
  self .targetAtom

/-- What each rule reads. -/
def ruleReader : Rule → Reader Tree
  | .expression =>
      seeking (wrongExpression self) <|> seeking (wrongStatement self) <|> plainExpression self
  | .disjunction => chained self .conjunction (word "or")
  | .conjunction => chained self .inversion (word "and")
  | .inversion =>
      (do
        word "not"
        let _ ← self .inversion
        return .compound "expression") <|>
      comparison self
  | .bitOr => chained self .bitXor (sign "|")
  | .bitXor => chained self .bitAnd (sign "^")
  | .bitAnd => chained self .shift (sign "&")
  | .shift => chained self .sum (sign "<<" <|> sign ">>")
  | .sum => sums self
  | .term =>
      chained self .factor (sign "*" <|> sign "/" <|> sign "//" <|> sign "%" <|> sign "@")
  | .factor => factor self
  | .awaited =>
      (do
        word "await"
        let _ ← self .primary
        return .compound "await expression") <|>
      self .primary
  | .primary => primary self
  | .quoted => adjacentQuoted
  | .arguments => arguments self
  | .spreadable =>
      (do
        sign "*"
        return .starred (← self .bitOr)) <|>
      self .expression
  | .target => target self
  | .targetAtom => targetAtom self
  | .targetPrimary => targetPrimary self
  | .misnamed => misnamed self

end

/-- Reads by a rule; `fuel` bounds the depth of rules. -/
def readRule : Nat → Rule → Reader Tree
  | 0, _ => refuse
  | fuel + 1, rule => kept rule (ruleReader (readRule fuel) rule)

/-- Expressions with commas between them, up to the end of a source. -/
def readSource (self : Rule → Reader Tree) : Reader Tree := do
  let first ← self .expression
  let rest ← many do sign ","; self .expression
  let comma ← (sign ",").optional
  let _ ← (token .lineEnd).many
  token .finish
  return if rest.isEmpty && comma.isNone then first else .tuple (first :: rest)

/-- The fault of a source that is found in its tokens, though its reader got no further than a
number of tokens. -/
def tailFault? (tokens : Tokens) (reached : Nat) : Option TokenFault := do
  let stop ← tokens.stop
  if stop.isLoud then some stop.fault
  else
    let bracket ← tokens.brackets.head?
    let last ← tokens.placed[reached - 1]?
    if bracket.2 < last.line then some (.unclosed bracket.1) else none

/-- A fault that a reader has found, or one of the tokens that it did not get to. A bracket that is
still open is not complained of if the reader has seen the end of the source. -/
def finalFault (tokens : Tokens) (reached : Nat) (fault : Fault) : Fault :=
  let isFinal := tokens.stop.any fun stop =>
    fault = .token stop.fault ∨ !stop.isLoud ∧ stop.isSeen ∧ reached = tokens.placed.length
  if isFinal then fault else ((tailFault? tokens reached).map Fault.token).getD fault

/-- Reads the tokens of a source twice if need be. -/
def readTokens (inField : Bool) (judge : List Quoted → Option Fault) (tokens : Tokens) :
    Except Fault Tree :=
  let stop := (tokens.stop.map Stop.fault).getD .unexpectedEnd
  let source : Source := ⟨tokens.placed.toArray, stop, inField, judge⟩
  let self := readRule (40 * (tokens.placed.length + 2))
  let reader := if inField then spreadables self else readSource self
  match reader source {} with
  | (.read tree, _) => .ok tree
  | (.broken fault, after) => .error (finalFault tokens after.reached fault)
  | (.refused, first) =>
      match reader source { reached := first.reached, seeks := true } with
      | (.broken fault, after) => .error (finalFault tokens after.reached fault)
      | (_, after) =>
          match (tokens.placed[first.reached - 1]?).map Placed.token with
          | some .indent => .error (.order inField .indent)
          | some .outdent => .error (.order inField .outdent)
          | _ =>
              .error (((tailFault? tokens after.reached).map Fault.token).getD
                (.order inField .unreadable))

/-- Reads the text of an expression; `fuel` bounds the depth of expressions in fields. -/
def readText (inField : Bool) : Nat → Text → Except Fault Tree
  | 0, _ => .error (.field inField .tooDeep)
  | fuel + 1, t =>
      let judge (field : Text) : Option Fault :=
        match readText true fuel field with
        | .error fault => some fault
        | .ok _ => none
      readTokens inField (quotedFault? inField judge) (scan t)

end EntityForge.Expression
