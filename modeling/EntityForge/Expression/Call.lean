import EntityForge.Expression.Display

/-! # Calls

The arguments of a call are given by place first and by name after that; all items of an expression
may be given by place, and all entries of a mapping by name.
-/

namespace EntityForge.Expression

open Reader

/-- An argument. -/
inductive Argument
  | placed
  | named
  | mapping
  deriving DecidableEq, Repr

/-- Arguments, counted. -/
def countArguments (arguments : List Argument) : Tree :=
  .arguments (arguments.count .placed) (arguments.length - arguments.count .placed)
    (arguments.contains .mapping)

/-- Are more arguments than one given by place? -/
def givesSeveral : Tree → Bool
  | .arguments placed _ _ => 1 < placed
  | _ => false

/-- The fault of an argument given by place behind others. -/
def lateArgument : Tree → OrderFault
  | .arguments _ _ true => .positionalAfterMapping
  | _ => .positionalAfterNamed

variable (self : Rule → Reader Tree)

/-- All items of an expression, given by place. -/
def spreadArgument : Reader Argument := do
  spread self
  return .placed

/-- A mistake in an argument given by name. -/
def wrongNamed : Reader Argument :=
  (do
    let what ← (do word "True"; return "True") <|> (do word "False"; return "False") <|>
      (do word "None"; return "None")
    sign "="
    complain (.assigned (text what))) <|>
  (do
    let _ ← name
    sign "="
    let _ ← self .expression
    loops self
    complain .comparisonMeant) <|>
  (do
    absent (do let _ ← name; sign "=")
    let _ ← self .expression
    sign "="
    complain .assignedArgument)

/-- An argument given by name. -/
def namedArgument : Reader Argument := do
  let _ ← name
  sign "="
  let _ ← self .expression
  return .named

/-- An argument given by name, or all items of an expression. -/
def namedOrSpread : Reader Argument :=
  seeking (wrongNamed self) <|> namedArgument self <|> spreadArgument self

/-- An argument given by name, or all entries of a mapping. -/
def namedOrMapping : Reader Argument :=
  seeking (wrongNamed self) <|> namedArgument self <|>
    (do
      sign "**"
      let _ ← self .expression
      return .mapping)

/-- Arguments from the first one that is given by name. -/
def lateArguments : Reader (List Argument) :=
  (do
    let front ← (namedOrSpread self).between (sign ",")
    sign ","
    let back ← (namedOrMapping self).between (sign ",")
    return front ++ back) <|>
  (namedOrSpread self).between (sign ",") <|>
  (namedOrMapping self).between (sign ",")

/-- An argument given by place. -/
def placedArgument : Reader Argument :=
  spreadArgument self <|>
  (do
    let _ ← assignment self <|> unassigned self
    absent (sign "=")
    return .placed)

/-- Arguments, at least one. -/
def someArguments : Reader Tree :=
  (do
    let front ← (placedArgument self).between (sign ",")
    let back ← (do sign ","; lateArguments self : Reader (List Argument)).optional
    return countArguments (front ++ back.getD [])) <|>
  (do return countArguments (← lateArguments self))

/-- A mistake in the arguments of a call. -/
def wrongArguments : Reader Tree := do
  let mistake ← (
    (do
      let _ ← someArguments self
      sign ","
      sign "*"
      complain .spreadAfterMapping) <|>
    (do
      let _ ← self .expression
      loops self
      sign ","
      let _ ← ((do let _ ← someArguments self) <|>
        (do let _ ← self .expression; loops self)).optional
      complain .bareGenerator) <|>
    (do
      let _ ← name
      sign "="
      let _ ← self .expression
      loops self
      complain .comparisonMeant) <|>
    (do
      let arguments ← someArguments self
      loops self
      return arguments) : Reader Tree).optional
  match mistake with
  | some arguments => if givesSeveral arguments then complain .bareGenerator else refuse
  | none =>
      (do
        let _ ← someArguments self
        sign ","
        let _ ← self .expression
        loops self
        complain .bareGenerator) <|>
      (do
        let arguments ← someArguments self
        sign ","
        let _ ← someArguments self
        complain (lateArgument arguments))

/-- The arguments of a call up to the closing parenthesis. -/
def arguments : Reader Tree :=
  (do
    let arguments ← someArguments self
    let _ ← (sign ",").optional
    ahead (sign ")")
    return arguments) <|>
  seeking (wrongArguments self)

/-- The arguments of a call between parentheses. -/
def callArguments : Reader Tree := do
  sign "("
  let arguments ← (self .arguments).optional
  sign ")"
  return arguments.getD (.arguments 0 0 false)

end EntityForge.Expression
