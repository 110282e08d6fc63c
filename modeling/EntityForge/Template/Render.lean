import EntityForge.Template.Attribute
import EntityForge.Template.Variable

/-! # Rendering

A template is rendered with what it is given for its variables. Every variable and attribute that
is reached must be there. A loop puts its variable and its state in front of the others for its
body; behind all others stand the names that every template knows.

A list that a template is given and turns round stays so, for the rest of the template and for all
who share the list.
-/

namespace EntityForge.Template

/-- What a template is given for its variables. -/
abbrev Variables := Entries Datum

/-- What is in scope: the template of that name, what it is given, and the variables of the loops
around, the innermost first. -/
structure Scope where
  template : Text
  given : Variables
  loops : Variables := []

/-- A text as comment lines: each line behind the style, a blank line as the style alone. -/
def commentLines (style t : Text) : Text :=
  Text.join (text "\n") (t.lines.map fun line =>
    if line.strip.isEmpty then style else style ++ text " " ++ line)

/-- The value of an expression. An unknown filter is complained of before a missing variable or
attribute that it is to be applied to. -/
def Expr.eval (scope : Scope) : Expr → Except RenderFault Datum
  | .name n =>
      match (scope.loops.lookup? n).or (scope.given.lookup? n) with
      | some d => .ok d
      | none => .error (.undefinedName n)
  | .itself => .ok (.reference scope.template)
  | .given n source =>
      match scope.given.lookup? source with
      | some d => .ok d
      | none => .error (.undefinedName n)
  | .constant v => .ok (.value v)
  | .attribute e n => do
      let d ← e.eval scope
      d.getAttribute n
  | .item e place => do
      let d ← e.eval scope
      d.getItem place
  | .comment e style => do
      let d ← e.eval scope
      let t ← d.spell
      return .value (.string (commentLines style t))
  | .unknownFilter (.name _) filter => .error (.unknownFilter filter)
  | .unknownFilter (.given _ _) filter => .error (.unknownFilter filter)
  | .unknownFilter (.attribute e _) filter => do
      let _ ← e.eval scope
      .error (.unknownFilter filter)
  | .unknownFilter e filter => do
      let _ ← e.eval scope
      .error (.unknownFilter filter)

/-- A code point in a markup document. -/
def markupCode (p : CodePoint) : Text :=
  if p = .char '&' then text "&amp;"
  else if p = .char '<' then text "&lt;"
  else if p = .char '>' then text "&gt;"
  else if p = .char '\'' then text "&#39;"
  else if p = .char '"' then text "&#34;"
  else [p]

/-- A printed text, escaped in a markup document. -/
def printed (markup : Bool) (t : Text) : Text := if markup then t.flatMap markupCode else t

/-- The name of the routine of lists that turns them round. -/
def reverseName : Text := text "reverse"

mutual

/-- The text of a node. What it changes is up to `renderTop`. -/
def Node.render (markup : Bool) (scope : Scope) : Node → Except RenderFault Text
  | .data t => .ok t
  | .print e => do
      let d ← e.eval scope
      let t ← d.spell
      return printed markup t
  | .reversal e => do
      let d ← e.eval scope
      let _ ← d.getAttribute reverseName
      return printed markup (Value.plain .null)
  | .loop target items body => do
      let d ← items.eval scope
      match d.items? with
      | none => .error (.notIterable d.kindName)
      | some items => do
          let texts ← items.zipIdx.mapM fun (item, index) =>
            renderAll markup { scope with
              loops := (target, item) :: (loopName, .loop items index) :: scope.loops } body
          return texts.flatten
  | .branch condition yes no => do
      let d ← condition.eval scope
      if d.isTruthy then renderAll markup scope yes else renderAll markup scope no

/-- The text of a sequence of nodes. -/
def renderAll (markup : Bool) (scope : Scope) : List Node → Except RenderFault Text
  | [] => .ok []
  | node :: rest => do
      let front ← node.render markup scope
      let back ← renderAll markup scope rest
      return front ++ back

end

/-- The names that every template knows. -/
def knownNames : Variables :=
  (text "lipsum", .routine .function (.kind .function) (text "generate_lorem_ipsum")) ::
    Kind.wellKnown.map fun entry => (text entry.1, .kind entry.2)

/-- A list turned round. -/
def Datum.turned : Datum → Datum
  | .value (.list items) => .value (.list items.reverse)
  | .list items => .list items.reverse
  | d => d

/-- The name under which a template was given what an expression stands for. -/
def Expr.source? : Expr → Option Text
  | .name n => some n
  | .given _ source => some source
  | _ => none

/-- The name of the list that a node turns round, if it does so. -/
def Node.reversed? : Node → Option Text
  | .reversal e => e.source?
  | _ => none

/-- What a template is given, with the list of that name turned round. -/
def turnIn (given : Variables) (name : Text) : Variables :=
  given.map fun (n, d) => (n, if n = name then d.turned else d)

/-- The text of a template as a whole, and which of the lists that it is given it has turned round
an odd number of times, also if its rendering fails. -/
def renderTop (markup : Bool) (scope : Scope) : List Node → Except RenderFault Text × (Text → Bool)
  | [] => (.ok [], fun _ => false)
  | node :: rest =>
      match node.render markup scope with
      | .error fault => (.error fault, fun _ => false)
      | .ok front =>
          match node.reversed? with
          | none =>
              let (back, turned) := renderTop markup scope rest
              (back.map (front ++ ·), turned)
          | some source =>
              let (back, turned) := renderTop markup
                { scope with given := turnIn scope.given source } rest
              (back.map (front ++ ·), fun name => turned name != (name = source))

/-- The text of the template of that name, and which lists it has turned round. -/
def renderTemplate (markup : Bool) (name : Text) (given : Variables) (nodes : List Node) :
    Except RenderFault Text × (Text → Bool) :=
  renderTop markup ⟨name, given ++ knownNames, []⟩ nodes

end EntityForge.Template
