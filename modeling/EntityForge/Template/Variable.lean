import EntityForge.Template.Node

/-! # Variables of a template

A name stands for a variable of a loop around it, for the template itself, or for what the template
is given. The template as a whole and the body of each loop hold a place for every name that they
use first; compatible names share a place, and the value put there last is the one that all of them
stand for. Names that no other is compatible with stand for themselves.
-/

namespace EntityForge.Template

/-- The name at the head of an expression. -/
def Expr.head? : Expr → Option Text
  | .name n => some n
  | .attribute e _ => e.head?
  | .item e _ => e.head?
  | .comment e _ => e.head?
  | .unknownFilter e _ => e.head?
  | _ => none

mutual

/-- The names that a node uses outside the bodies of its loops, in order. -/
def Node.names : Node → List Text
  | .data _ => []
  | .print e => e.head?.toList
  | .reversal e => e.head?.toList
  | .loop _ items _ => items.head?.toList
  | .branch condition yes no => condition.head?.toList ++ allNames yes ++ allNames no

/-- The names that nodes use outside the bodies of their loops, in order. -/
def allNames : List Node → List Text
  | [] => []
  | node :: rest => node.names ++ allNames rest

end

mutual

/-- Whether a node first uses a name as a variable that is there (`true`) or as that of a loop of
its own (`false`), if it has the name anywhere. -/
def Node.firstUse? (name : Text) : Node → Option Bool
  | .data _ => none
  | .print e => if e.head? = some name then some true else none
  | .reversal e => if e.head? = some name then some true else none
  | .loop target items body =>
      if target = name then some false
      else if items.head? = some name then some true
      else firstUse? name body
  | .branch condition yes no =>
      if condition.head? = some name then some true
      else (firstUse? name yes).or (firstUse? name no)

/-- The same of a sequence of nodes. -/
def firstUse? (name : Text) : List Node → Option Bool
  | [] => none
  | node :: rest => (node.firstUse? name).or (firstUse? name rest)

end

/-- The names that have their places in one frame: first those that the frame brings along with
what they stand for, then those that it looks up in what the template is given, both in the order in
which their values are put there. -/
structure Frame where
  own : Entries Expr
  loaded : List Text
  deriving Repr

namespace Frame

/-- Has the name its place in the frame? -/
def holds (f : Frame) (name : Text) : Bool :=
  (f.own.lookup? name).isSome || f.loaded.contains name

/-- The frame inside others that brings names along for nodes. -/
def make (outer : List Frame) (own : Entries Expr) (nodes : List Node) : Frame where
  own := own
  loaded := (allNames nodes).eraseDups.filter fun name =>
    (own.lookup? name).isNone && !outer.any (·.holds name)

/-- The frame of a template as a whole. -/
def ofTemplate (nodes : List Node) : Frame :=
  make [] (if firstUse? selfName nodes = some true then [(selfName, .itself)] else []) nodes

/-- The frame of the body of a loop. -/
def ofLoop (outer : List Frame) (target : Text) (body : List Node) : Frame :=
  let state := if firstUse? loopName body = some true then [(loopName, .name loopName)] else []
  make outer ((target, .name target) :: state) body

/-- What a name stands for that has its place in the frame. -/
def settle (f : Frame) (name : Text) : Expr :=
  match f.loaded.reverse.find? (Text.isCompatible name) with
  | some source => if source = name ∧ name ≠ selfName then .name name else .given name source
  | none =>
      match f.own.reverse.find? fun entry => Text.isCompatible name entry.1 with
      | some (_, e) => e
      | none => .name name

end Frame

/-- An expression with its name settled. -/
def Expr.settle (frames : List Frame) : Expr → Expr
  | .name n => ((frames.find? (·.holds n)).map (·.settle n)).getD (.name n)
  | .attribute e n => .attribute (e.settle frames) n
  | .item e place => .item (e.settle frames) place
  | .comment e style => .comment (e.settle frames) style
  | .unknownFilter e filter => .unknownFilter (e.settle frames) filter
  | e => e

mutual

/-- A node with its names settled. -/
def Node.settle (frames : List Frame) : Node → Node
  | .data t => .data t
  | .print e => .print (e.settle frames)
  | .reversal e => .reversal (e.settle frames)
  | .loop target items body =>
      .loop target (items.settle frames) (settleAll (.ofLoop frames target body :: frames) body)
  | .branch condition yes no =>
      .branch (condition.settle frames) (settleAll frames yes) (settleAll frames no)

/-- Nodes with their names settled. -/
def settleAll (frames : List Frame) : List Node → List Node
  | [] => []
  | node :: rest => node.settle frames :: settleAll frames rest

end

/-- The template of a source. -/
def parse (source : Text) : Except Malformed (List Node) :=
  match (pieces? source).bind nodes? with
  | none => .error .badSource
  | some nodes =>
      if anyBadTarget nodes then .error .badTarget
      else if anyUnknownFilter false nodes then .error .badFilter
      else .ok (settleAll [.ofTemplate nodes] nodes)

end EntityForge.Template
