import EntityForge.Expression.Token

/-! # Trees of expressions

What has been read of an expression is kept as far as it decides whether the expression is a
literal, and what is said of it in messages.
-/

namespace EntityForge.Expression

/-- Values that are written as they are. -/
inductive Constant
  | nothing
  | truth (b : Bool)
  | ellipsis
  | numeral (n : Numeral)
  | quoted
  deriving DecidableEq, Repr

/-- An expression, with its parts as far as they matter.

* `entries`: the entries of a mapping, of which one that spreads another mapping has no key;
* `arguments`: the arguments of a call: how many are given by place and how many by name, and
  whether a mapping is spread among these;
* `signed`: a number behind a plus or minus sign;
* `sum`: a sum or difference;
* `comparison`: a comparison with what stands first, and whether it begins by asking for a part;
* `compound`: any other expression, by what it is called in messages. -/
inductive Tree
  | name (t : Text)
  | constant (c : Constant)
  | tuple (items : List Tree)
  | set (items : List Tree)
  | entries (entries : List (Option Tree × Tree))
  | call (callee arguments : Tree)
  | arguments (placed named : Nat) (spreads : Bool)
  | signed (operand : Tree)
  | sum (left right : Tree)
  | comparison (first : Tree) (asksForPart : Bool)
  | starred (operand : Tree)
  | attribute
  | compound (what : String)
  deriving Repr

namespace Tree

/-- What an expression is called in messages. -/
def what : Tree → Text
  | .name _ => text "name"
  | .constant .nothing => text "None"
  | .constant (.truth true) => text "True"
  | .constant (.truth false) => text "False"
  | .constant .ellipsis => text "ellipsis"
  | .constant _ => text "literal"
  | .tuple _ => text "tuple"
  | .set _ => text "set display"
  | .entries _ => text "dict literal"
  | .call _ _ => text "function call"
  | .arguments _ _ _ => text "function call"
  | .signed _ => text "expression"
  | .sum _ _ => text "expression"
  | .comparison _ _ => text "comparison"
  | .starred _ => text "starred"
  | .attribute => text "attribute"
  | .compound what => text what

mutual

/-- The part of a target of a loop that nothing can be assigned to. -/
def untargetable? : Tree → Option Tree
  | .tuple items => untargetableItem? items
  | .starred operand => operand.untargetable?
  | .comparison first asksForPart => if asksForPart then first.untargetable? else none
  | .name _ => none
  | .attribute => none
  | t => some t

/-- The first such part of several targets. -/
def untargetableItem? : List Tree → Option Tree
  | [] => none
  | t :: rest => t.untargetable?.or (untargetableItem? rest)

end

/-- Is it a name that was once the beginning of a statement? -/
def isStatement : Tree → Bool
  | .name t => t = text "print" || t = text "exec"
  | _ => false

end Tree

end EntityForge.Expression
