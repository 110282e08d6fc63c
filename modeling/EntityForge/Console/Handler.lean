import EntityForge.Expression.Literal
import EntityForge.Failure
import EntityForge.Naming.Identifier
import EntityForge.Text.Blank

/-! # Handlers of events

A tag whose name begins with an at sign names an event, and what follows its equals sign says how
the event is handled: by the name of a handler, by arguments in parentheses, or by both. Without a
handler's name, anything that is a literal will do for arguments.
-/

namespace EntityForge.Handler

/-- Is it the name of an event? -/
def isEvent (name : Text) : Bool := name.head? = some (.char '@')

/-- Are these arguments in parentheses? -/
def isArguments (t : Text) : Bool :=
  2 ≤ t.length && t.head? = some (.char '(') && t.getLast? = some (.char ')') &&
    !t.contains (.char '\n')

/-- The arguments of a handler; there are none behind a name alone. -/
def argumentsOf (handler : Text) : Text :=
  let handler := handler.strip
  let rest := handler.dropWhile fun p => p.isWord || p = .char '.'
  if rest.isEmpty then text "()" else if isArguments rest then rest else handler

/-- What is wrong with a handler, if anything is. -/
def fault? (handler : Text) : Option Breakdown :=
  if handler.isEmpty then none
  else
    let arguments := argumentsOf handler
    (Expression.literalFault? arguments).map (.handler handler arguments)

end EntityForge.Handler
