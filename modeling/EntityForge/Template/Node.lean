import EntityForge.Template.Piece
import EntityForge.Text.Compatible
import EntityForge.Value.Basic

/-! # Templates

A template is a sequence of nodes: text, printed expressions, loops and branches. It is put
together from the pieces of a source with a stack of the statements that are still open. Outside all
statements a list can also be turned round.
-/

namespace EntityForge.Template

/-- An expression of a template. A name may be settled to be the template itself, or what the
template is given under another name. -/
inductive Expr
  | name (n : Text)
  | itself
  | given (n source : Text)
  | constant (v : Value)
  | attribute (e : Expr) (n : Text)
  | item (e : Expr) (place : Nat)
  | comment (e : Expr) (style : Text)
  | unknownFilter (e : Expr) (filter : Text)
  deriving Repr

/-- A node of a template. A reversal turns round the list that an expression stands for. -/
inductive Node
  | data (t : Text)
  | print (e : Expr)
  | reversal (e : Expr)
  | loop (target : Text) (items : Expr) (body : List Node)
  | branch (condition : Expr) (yes no : List Node)
  deriving Repr

/-- Why a source is no template: it is not well-formed, it uses a filter that is not there, or a
loop names its variable as the state of loops is named. -/
inductive Malformed
  | badSource
  | badFilter
  | badTarget
  deriving DecidableEq, Repr

/-- The words that stand for values of their own. -/
def constants : List (Text × Value) := [
  (text "true", .bool true), (text "True", .bool true), (text "false", .bool false),
  (text "False", .bool false), (text "none", .null), (text "None", .null)]

/-- Can a word be the variable of a loop? -/
def isTarget (w : Text) : Bool := w.isName && (constants.lookup w).isNone && w ≠ text "in"

/-- The expression of a word at the head of an expression. -/
def wordExpr? (w : Text) : Option Expr :=
  match constants.lookup w with
  | some value => some (.constant value)
  | none => if w.isName && w ≠ text "not" then some (.name w) else none

/-- The literals at the head of a token list joined to one, and the other tokens. -/
def joinLiterals (read : Text) : List Token → Text × List Token
  | .literal t :: rest => joinLiterals (read ++ t) rest
  | rest => (read, rest)

/-- The number that a word of digits is: one that begins with a zero is zero, and single low lines
may stand between digits. -/
def place? (w : Text) : Option Nat :=
  let parts := w.splitOn '_'
  let digits := parts.flatten
  if parts.any List.isEmpty || !digits.all CodePoint.isDigit then none
  else if w.head? = some (.char '0') ∧ digits.any (· ≠ .char '0') then none
  else some (Text.digitsValue digits)

/-- Reads the attributes and places after the head of an expression. -/
def readAttributes (e : Expr) : List Token → Option (Expr × List Token)
  | .mark (.char '.') :: .word w :: rest =>
      match place? w with
      | some place => readAttributes (.item e place) rest
      | none => if w.isName then readAttributes (.attribute e w) rest else none
  | .mark (.char '.') :: _ => none
  | rest => some (e, rest)

/-- The style of comments when none is given. -/
def defaultCommentStyle : Text := text "//"

/-- The expression of a filter, which may be given the style of comments as a literal. -/
def filterExpr (e : Expr) (filter : Text) (style : Option Text) : Expr :=
  if filter = text "comment" then .comment e (style.getD defaultCommentStyle)
  else .unknownFilter e filter

/-- Reads the name of a filter, whose parts stand behind full stops. -/
def filterName? (front : Text) : List Token → Option (Text × List Token)
  | .mark (.char '.') :: .word w :: rest =>
      if w.isName then filterName? (front ++ .char '.' :: w) rest else none
  | .mark (.char '.') :: _ => none
  | rest => some (front, rest)

/-- Reads what a filter is given between parentheses: nothing, or the style of comments. -/
def filterStyle? : List Token → Option (Option Text × List Token)
  | .mark (.char '(') :: .mark (.char ')') :: rest => some (none, rest)
  | .mark (.char '(') :: .literal t :: rest =>
      match joinLiterals t rest with
      | (t, .mark (.char ')') :: rest) => some (some t, rest)
      | _ => none
  | .mark (.char '(') :: .word w :: .mark (.char '=') :: .literal t :: rest =>
      match joinLiterals t rest with
      | (t, .mark (.char ')') :: rest) =>
          if w.isCompatible (text "style") then some (some t, rest) else none
      | _ => none
  | .mark (.char '(') :: _ => none
  | rest => some (none, rest)

/-- Reads the filters after an expression, up to the end of the tag; `fuel` is at least their
number. -/
def readFilters (fuel : Nat) (e : Expr) (tokens : List Token) : Option Expr :=
  match fuel, tokens with
  | _, [] => some e
  | fuel + 1, .mark (.char '|') :: .word w :: rest =>
      if w.isName then do
        let (filter, rest) ← filterName? w rest
        let (style, rest) ← filterStyle? rest
        readFilters fuel (filterExpr e filter style) rest
      else none
  | _, _ => none

/-- The expression that the tokens of a tag make. -/
def expr? : List Token → Option Expr
  | .word w :: rest => do
      let head ← wordExpr? w
      let (e, rest) ← readAttributes head rest
      readFilters rest.length e rest
  | .literal t :: rest => do
      let (t, rest) := joinLiterals t rest
      let (e, rest) ← readAttributes (.constant (.string t)) rest
      readFilters rest.length e rest
  | _ => none

/-- A statement that is still open, with the nodes that it holds so far, last first. -/
inductive Opening
  | loop (target : Text) (items : Expr) (outer : List Node)
  | yes (condition : Expr) (outer : List Node)
  | no (condition : Expr) (yes : List Node) (outer : List Node)

/-- The state of putting a template together: the nodes of the innermost open statement, last
first, and the open statements, innermost first. -/
structure Assembly where
  nodes : List Node := []
  openings : List Opening := []

/-- What a statement does to an assembly. -/
def Assembly.statement? (a : Assembly) : List Token → Option Assembly
  | .word w :: rest =>
      if w = text "for" then
        match rest with
        | .word target :: .word keyword :: items => do
            if isTarget target && keyword = text "in" &&
                items.head? ≠ some (.word (text "recursive")) then
              let items ← expr? items
              return ⟨[], .loop target items a.nodes :: a.openings⟩
            else none
        | _ => none
      else if w = text "if" then do
        let condition ← expr? rest
        return ⟨[], .yes condition a.nodes :: a.openings⟩
      else
        match rest, a.openings with
        | [], .yes condition outer :: openings =>
            if w = text "else" then some ⟨[], .no condition a.nodes.reverse outer :: openings⟩
            else if w = text "endif" then
              some ⟨.branch condition a.nodes.reverse [] :: outer, openings⟩
            else none
        | [], .no condition yes outer :: openings =>
            if w = text "endif" then
              some ⟨.branch condition yes a.nodes.reverse :: outer, openings⟩
            else none
        | [], .loop target items outer :: openings =>
            if w = text "endfor" then
              some ⟨.loop target items a.nodes.reverse :: outer, openings⟩
            else none
        | _, _ => none
  | _ => none

/-- What stands for the list that a tag turns round, if the tag does so. -/
def reversed? : List Token → Option Expr
  | [.word w, .mark (.char '.'), .word action, .mark (.char '('), .mark (.char ')')] =>
      match wordExpr? w with
      | some (.name n) => if action = text "reverse" then some (.name n) else none
      | _ => none
  | _ => none

/-- The node of a tag that prints. A list can be turned round only outside all statements. -/
def Assembly.printed? (a : Assembly) (tokens : List Token) : Option Node :=
  match reversed? tokens with
  | some e => if a.openings.isEmpty then some (.reversal e) else none
  | none => (expr? tokens).map .print

/-- Adds a piece to an assembly. -/
def Assembly.add? (a : Assembly) : Piece → Option Assembly
  | .data [] => some a
  | .data t => some { a with nodes := .data t :: a.nodes }
  | .print tokens => do
      let node ← a.printed? tokens
      return { a with nodes := node :: a.nodes }
  | .statement tokens => a.statement? tokens

/-- The nodes that a list of pieces makes. -/
def nodes? (pieces : List Piece) : Option (List Node) :=
  match pieces.foldlM Assembly.add? {} with
  | some ⟨nodes, []⟩ => some nodes.reverse
  | _ => none

/-- Does an expression use a filter that is not there? -/
def Expr.hasUnknownFilter : Expr → Bool
  | .unknownFilter _ _ => true
  | .attribute e _ => e.hasUnknownFilter
  | .item e _ => e.hasUnknownFilter
  | .comment e _ => e.hasUnknownFilter
  | _ => false

mutual

/-- Does a node use an unknown filter where that is known beforehand? In a condition and right
inside a branch (`inBranch`) it shows only when the expression is reached. -/
def Node.hasUnknownFilter (inBranch : Bool) : Node → Bool
  | .data _ => false
  | .print e => !inBranch && e.hasUnknownFilter
  | .reversal _ => false
  | .loop _ items body => (!inBranch && items.hasUnknownFilter) || anyUnknownFilter false body
  | .branch _ yes no => anyUnknownFilter true yes || anyUnknownFilter true no

/-- Does one of the nodes use an unknown filter where that is known beforehand? -/
def anyUnknownFilter (inBranch : Bool) : List Node → Bool
  | [] => false
  | node :: rest => node.hasUnknownFilter inBranch || anyUnknownFilter inBranch rest

end

/-- The name of the state of a loop. -/
def loopName : Text := text "loop"

/-- The name by which a template refers to itself. -/
def selfName : Text := text "self"

mutual

/-- Has a node a loop whose variable is named as the state of loops is? -/
def Node.hasBadTarget : Node → Bool
  | .data _ => false
  | .print _ => false
  | .reversal _ => false
  | .loop target _ body => target = loopName || anyBadTarget body
  | .branch _ yes no => anyBadTarget yes || anyBadTarget no

/-- Has one of the nodes such a loop? -/
def anyBadTarget : List Node → Bool
  | [] => false
  | node :: rest => node.hasBadTarget || anyBadTarget rest

end

end EntityForge.Template
