import EntityForge.Expression.Reader

/-! # Parameters of functions

The parameters of a function without a name stand before a colon. Those with a default value come
after those without; a slash ends the ones that are given by place only, and a star begins the ones
that are given by name only.
-/

namespace EntityForge.Expression

open Reader

variable (self : Rule → Reader Tree)

/-- A parameter ends: at a comma, or before the colon. -/
def endParameter : Reader Unit := sign "," <|> ahead (sign ":")

/-- A default value. -/
def defaultValue : Reader Unit :=
  (do
    sign "="
    let _ ← self .expression) <|>
  seeking (do
    sign "="
    ahead (sign ")" <|> sign ",")
    complain .noDefault)

/-- A parameter without a default value. -/
def plainParameter : Reader Unit := do
  let _ ← name
  endParameter

/-- A parameter with a default value. -/
def optionalParameter : Reader Unit := do
  let _ ← name
  defaultValue self
  endParameter

/-- A parameter. -/
def parameter : Reader Unit := do
  let _ ← name
  let _ ← (defaultValue self).optional
  endParameter

/-- Parameters without default values that are given by place only. -/
def plainSlash : Reader Unit := do
  let _ ← plainParameter.atLeastOnce
  sign "/"
  endParameter

/-- Parameters that are given by place only, of which some have default values. -/
def optionalSlash : Reader Unit := do
  let _ ← plainParameter.many
  let _ ← (optionalParameter self).atLeastOnce
  sign "/"
  endParameter

/-- A mistake behind a star. -/
def wrongStar : Reader Unit :=
  (do
    sign "*"
    sign ":" <|> (do sign ","; sign ":" <|> sign "**")
    complain .bareStar) <|>
  (do
    sign "*"
    let _ ← name
    sign "="
    complain .starDefault) <|>
  (do
    sign "*"
    plainParameter <|> sign ","
    let _ ← (parameter self).many
    sign "*"
    plainParameter <|> sign ","
    complain .starTwice)

/-- A mistake behind two stars. -/
def wrongMapping : Reader Unit :=
  (do
    sign "**"
    let _ ← name
    sign "="
    complain .mappingDefault) <|>
  (do
    sign "**"
    let _ ← name
    sign ","
    let _ ← name
    complain .afterMapping) <|>
  (do
    sign "**"
    let _ ← name
    sign ","
    sign "*" <|> sign "**" <|> sign "/"
    complain .afterMapping)

/-- The parameter that takes all other arguments given by name. -/
def mappingParameter : Reader Unit :=
  seeking wrongMapping <|>
  (do
    sign "**"
    plainParameter)

/-- Parameters from the star on. -/
def starParameters : Reader Unit :=
  seeking (wrongStar self) <|>
  (do
    sign "*"
    plainParameter
    let _ ← (parameter self).many
    let _ ← mappingParameter.optional) <|>
  (do
    sign "*"
    sign ","
    let _ ← (parameter self).atLeastOnce
    let _ ← mappingParameter.optional) <|>
  mappingParameter

/-- A mistake in the parameters. -/
def wrongParameters : Reader Unit :=
  (do
    let _ ← plainParameter.many
    optionalSlash self <|> (do let _ ← (optionalParameter self).atLeastOnce)
    plainParameter
    complain .parameterOrder) <|>
  (do
    let _ ← plainParameter.many
    sign "("
    let _ ← name.between (sign ",")
    let _ ← (sign ",").optional
    sign ")"
    complain .bracketedParameters) <|>
  (do
    sign "/"
    sign ","
    complain .slashFirst) <|>
  (do
    plainSlash <|> optionalSlash self
    let _ ← (parameter self).many
    sign "/"
    complain .slashTwice) <|>
  (do
    let _ ← (plainSlash <|> optionalSlash self).optional
    let _ ← (parameter self).many
    sign "*"
    sign "," <|> plainParameter
    let _ ← (parameter self).many
    sign "/"
    complain .slashAfterStar) <|>
  (do
    let _ ← (parameter self).atLeastOnce
    sign "/"
    sign "*"
    complain .noCommaBeforeStar)

/-- The parameters of a function. -/
def parameters : Reader Unit :=
  seeking (wrongParameters self) <|>
  (do
    plainSlash
    let _ ← plainParameter.many
    let _ ← (optionalParameter self).many
    let _ ← (starParameters self).optional) <|>
  (do
    optionalSlash self
    let _ ← (optionalParameter self).many
    let _ ← (starParameters self).optional) <|>
  (do
    let _ ← plainParameter.atLeastOnce
    let _ ← (optionalParameter self).many
    let _ ← (starParameters self).optional) <|>
  (do
    let _ ← (optionalParameter self).atLeastOnce
    let _ ← (starParameters self).optional) <|>
  starParameters self

/-- A function without a name. -/
def function : Reader Tree := do
  word "lambda"
  let _ ← (parameters self).optional
  sign ":"
  let _ ← self .expression
  return .compound "lambda"

end EntityForge.Expression
