import EntityForge.Expression.Reader

/-! # Displays

Tuples, sets, mappings and groups are displayed between brackets, and so are comprehensions, which
run loops. The readers here are given the rules of the grammar.
-/

namespace EntityForge.Expression

open Reader

variable (self : Rule → Reader Tree)

/-- A name that is given to an expression. -/
def assignment : Reader Tree := do
  let _ ← name
  sign ":="
  let _ ← self .expression
  return .compound "named expression"

/-- An expression that may be given a name, but is not. -/
def unassigned : Reader Tree := do
  let t ← self .expression
  absent (sign ":=")
  return t

/-- An expression that may be given a name. -/
def maybeAssigned : Reader Tree :=
  assignment self <|> seeking (self .misnamed) <|> unassigned self

/-- An item of a display: an expression, or all items of one. -/
def displayItem : Reader Tree :=
  (do sign "*"; return .starred (← self .bitOr)) <|> maybeAssigned self

/-- The items of a display. -/
def displayItems : Reader (List Tree) := do
  let items ← (displayItem self).between (sign ",")
  let _ ← (sign ",").optional
  return items

/-- All items of an expression. -/
def spread : Reader Unit := do
  sign "*"
  let _ ← self .expression

/-- Expressions, or all items of some, with commas between them. -/
def spreadables : Reader Tree := do
  let first ← self .spreadable
  let rest ← many do sign ","; self .spreadable
  let comma ← (sign ",").optional
  return if rest.isEmpty && comma.isNone then first else .tuple (first :: rest)

/-- An expression that hands out a value. -/
def yielded : Reader Tree := do
  word "yield"
  let source ← (do word "from"; self .expression : Reader Tree).optional
  if source.isNone then
    let _ ← (spreadables self).optional
  return .compound "yield expression"

/-- The targets of a loop. -/
def targets : Reader Unit :=
  (do let _ ← self .target; absent (sign ",")) <|>
    (do
      let _ ← (self .target).between (sign ",")
      let _ ← (sign ",").optional)

/-- The target of a loop that nothing can be assigned to. -/
def wrongTargets : Reader Unit := do
  let _ ← (word "async").optional
  word "for"
  let t ← spreadables self
  match t.untargetable? with
  | some part => complain (.assigned part.what)
  | none => refuse

/-- A loop of a comprehension, with its conditions. -/
def loop : Reader Unit := do
  let front ← (do
    let _ ← (word "async").optional
    word "for"
    targets self
    word "in" : Reader Unit).optional
  match front with
  | none => seeking (wrongTargets self)
  | some _ =>
      let _ ← self .disjunction
      let _ ← many do word "if"; self .disjunction

/-- The loops of a comprehension. -/
def loops : Reader Unit := do
  let _ ← (loop self).atLeastOnce

/-- A mistake in a comprehension. -/
def wrongComprehension : Reader Tree :=
  (do
    sign "(" <|> sign "\x7b"
    spread self
    loops self
    complain .spreadInComprehension) <|>
  (do
    sign "\x7b"
    let _ ← displayItem self
    sign ","
    let _ ← displayItems self
    loops self
    complain .bareTargets) <|>
  (do
    sign "\x7b"
    let _ ← displayItem self
    sign ","
    loops self
    complain .bareTargets)

/-- A comprehension between parentheses. -/
def generator : Reader Tree :=
  (do
    sign "("
    let _ ← assignment self <|> unassigned self
    loops self
    sign ")"
    return .compound "generator expression") <|>
  seeking (wrongComprehension self)

/-- A tuple. -/
def tuple : Reader Tree := do
  sign "("
  let items ← (do
    let first ← displayItem self
    sign ","
    let rest ← (displayItems self).optional
    return first :: rest.getD [] : Reader (List Tree)).optional
  sign ")"
  return .tuple (items.getD [])

/-- An expression between parentheses. -/
def group : Reader Tree :=
  (do
    sign "("
    let t ← yielded self <|> maybeAssigned self
    sign ")"
    return t) <|>
  seeking (do
    sign "("
    spread self
    sign ")"
    complain .spreadHere) <|>
  seeking (do
    sign "("
    sign "**"
    let _ ← self .expression
    sign ")"
    complain .mappingHere)

/-- A key and its value. -/
def keyed : Reader (Option Tree × Tree) := do
  let key ← self .expression
  sign ":"
  return (some key, ← self .expression)

/-- An entry of a mapping: a key and its value, or all entries of another mapping. -/
def entry : Reader (Option Tree × Tree) :=
  (do sign "**"; return (none, ← self .bitOr)) <|> keyed self

/-- A key whose value is missing or wrong. -/
def wrongValue : Reader Tree :=
  (do
    let _ ← self .expression
    sign ":"
    sign "*"
    let _ ← self .bitOr
    complain .spreadValue) <|>
  (do
    let _ ← self .expression
    sign ":"
    ahead (sign "\x7d" <|> sign ",")
    complain .noValue)

/-- A wrong entry behind right ones, or a wrong first entry. -/
def wrongEntries : Reader Tree :=
  (do
    let _ ← (entry self).between (sign ",")
    sign ","
    (do
      let _ ← self .expression
      absent (sign ":")
      complain .noColon) <|> wrongValue self) <|>
  wrongValue self

/-- A mapping. -/
def mapping : Reader Tree :=
  (do
    sign "\x7b"
    let entries ← (do
      let entries ← (entry self).between (sign ",")
      let _ ← (sign ",").optional
      return entries : Reader (List (Option Tree × Tree))).optional
    sign "\x7d"
    return .entries (entries.getD [])) <|>
  (do
    sign "\x7b"
    let _ ← wrongEntries self
    sign "\x7d"
    refuse)

/-- A set. -/
def set : Reader Tree := do
  sign "\x7b"
  let items ← displayItems self
  sign "\x7d"
  return .set items

/-- A comprehension that makes a mapping. -/
def mappingComprehension : Reader Tree :=
  (do
    sign "\x7b"
    let _ ← keyed self
    loops self
    sign "\x7d"
    return .compound "dict comprehension") <|>
  seeking (do
    sign "\x7b"
    sign "**"
    let _ ← self .bitOr
    loops self
    sign "\x7d"
    complain .mappingInComprehension)

/-- A comprehension that makes a set. -/
def setComprehension : Reader Tree :=
  (do
    sign "\x7b"
    let _ ← maybeAssigned self
    loops self
    sign "\x7d"
    return .compound "set comprehension") <|>
  seeking (wrongComprehension self)

/-- What is displayed between brackets. -/
def display : Reader Tree := do
  match ← next with
  | .sign "(" => tuple self <|> group self <|> generator self
  | .sign "\x7b" =>
      mapping self <|> set self <|> mappingComprehension self <|> setComprehension self
  | _ => refuse

/-- An expression that is given a name though it has none, or with the wrong sign. -/
def misnamed : Reader Tree :=
  (do
    let t ← self .expression
    sign ":="
    let _ ← self .expression
    complain (.namedBy t.what)) <|>
  (do
    let _ ← name
    sign "="
    let _ ← self .bitOr
    absent (sign "=" <|> sign ":=")
    complain .comparisonMeant) <|>
  (do
    absent (tuple self <|> generator self)
    absent (word "True" <|> word "None" <|> word "False")
    let t ← self .bitOr
    sign "="
    let _ ← self .bitOr
    absent (sign "=" <|> sign ":=")
    complain (.assignedHere t.what))

end EntityForge.Expression
