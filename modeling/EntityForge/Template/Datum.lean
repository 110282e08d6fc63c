import EntityForge.Template.Kind
import EntityForge.Value.Shown

/-! # Template data

The variables of a template hold values, records whose fields are read by name, and lists of these.
From there a template reaches the kinds of things and their routines, and inside a loop the state
of the loop.
-/

namespace EntityForge.Template

/-- What a template variable holds.

* `value`: a value;
* `record`: a thing of a kind with fields;
* `mapping`: an object whose members are any data;
* `thing`: a thing of a kind, spelled out;
* `list`: a list of things;
* `tuple`: a list of things that stays as it is;
* `kind`: a kind;
* `routine`: a routine of the owner, of a kind of routines;
* `parameterized`: a kind with a parameter;
* `loop`: the state of a loop: its items and the place of the present one;
* `reference`: the template of a name. -/
inductive Datum
  | value (v : Value)
  | record (kind : Kind) (fields : Entries Value)
  | mapping (entries : List (Text × Datum))
  | thing (kind : Kind) (spelling : Text)
  | list (items : List Datum)
  | tuple (items : List Datum)
  | kind (k : Kind)
  | routine (sort : Kind) (owner : Datum) (name : Text)
  | parameterized (k : Kind) (parameter : Datum)
  | loop (items : List Datum) (index : Nat)
  | reference (template : Text)
  deriving Repr

namespace Datum

/-- The kind of a value. -/
def kindOfValue : Value → Kind
  | .null => .null
  | .bool _ => .truth
  | .int _ => .whole
  | .float _ => .floating
  | .string _ => .string
  | .list _ => .list
  | .object _ => .object

/-- The kind of what a variable holds. -/
def kindOf : Datum → Kind
  | .value v => kindOfValue v
  | .record k _ => k
  | .mapping _ => .object
  | .thing k _ => k
  | .list _ => .list
  | .tuple _ => .tuple
  | .kind _ => .kind
  | .routine sort _ _ => sort
  | .parameterized _ _ => .parameterized
  | .loop _ _ => .loop
  | .reference _ => .reference

/-- A record spelled out. -/
def shownRecord (k : Kind) (fields : Entries Value) : Text :=
  text k.name ++ text "(" ++
    Text.join (text ", ") (fields.map fun field => field.1 ++ text "=" ++ field.2.shown) ++
    text ")"

/-- A part of the things of a kind spelled out. -/
def shownPart (owner : Kind) (name : Text) : Text :=
  text "<attribute '" ++ name ++ text "' of '" ++ text owner.name ++ text "' objects>"

/-- A routine of a kind spelled out. Those of a thing are told apart by a place in memory. -/
def shownRoutine? (sort owner : Kind) (name : Text) : Option Text :=
  if sort = .methodDescriptor then
    some (text "<method '" ++ name ++ text "' of '" ++ text owner.name ++ text "' objects>")
  else if sort = .partDescriptor then some (shownPart owner name)
  else if sort = .slotDescriptor then
    some (text "<member '" ++ name ++ text "' of '" ++ text owner.name ++ text "' objects>")
  else if sort = .operatorDescriptor then
    some (text "<slot wrapper '" ++ name ++ text "' of '" ++ text owner.name ++ text "' objects>")
  else none

/-- The kind that a routine belongs to. -/
def owningKind : Datum → Kind
  | .kind k => k
  | d => d.kindOf

mutual

/-- What a template variable holds, as it stands in generated text, unless it is told apart by a
place in memory. -/
def plain? : Datum → Option Text
  | .value v => some v.plain
  | .record k fields => some (shownRecord k fields)
  | .mapping entries =>
      (shownMembers? entries).map fun shown =>
        text "\x7b" ++ Text.join (text ", ") shown ++ text "\x7d"
  | .thing k spelling => if k = .recordField then none else some spelling
  | .list items =>
      (shownItems? items).map fun shown => text "[" ++ Text.join (text ", ") shown ++ text "]"
  | .tuple items =>
      (shownItems? items).map fun shown =>
        let comma := if items.length = 1 then "," else ""
        text "(" ++ Text.join (text ", ") shown ++ text (comma ++ ")")
  | .kind k => some (text "<class '" ++ text k.qualifiedName ++ text "'>")
  | .routine sort owner name =>
      if sort = .method then
        owner.shown?.map fun shown =>
          text "<bound method " ++ text owner.owningKind.name ++ text "." ++ name ++
            text " of " ++ shown ++ text ">"
      else shownRoutine? sort owner.owningKind name
  | .parameterized k parameter =>
      parameter.shown?.map fun shown => text k.name ++ text "[" ++ shown ++ text "]"
  | .loop items index =>
      some (text "<LoopContext " ++ Text.ofNat (index + 1) ++ text "/" ++
        Text.ofNat items.length ++ text ">")
  | .reference template =>
      some (text "<TemplateReference " ++ (Value.string template).shown ++ text ">")

/-- What a template variable holds, as it stands in a list. -/
def shown? : Datum → Option Text
  | .value v => some v.shown
  | d => d.plain?

/-- The items of a list, each spelled out. -/
def shownItems? : List Datum → Option (List Text)
  | [] => some []
  | item :: rest => do
      let front ← item.shown?
      let back ← shownItems? rest
      return front :: back

/-- The members of an object, each spelled out with its name. -/
def shownMembers? : List (Text × Datum) → Option (List Text)
  | [] => some []
  | (name, d) :: rest => do
      let front ← d.shown?
      let back ← shownMembers? rest
      return (name.shown ++ text ": " ++ front) :: back

end

/-- Does it count as true in a condition? -/
def isTruthy : Datum → Bool
  | .value v => v.isTruthy
  | .list items => !items.isEmpty
  | .tuple items => !items.isEmpty
  | .mapping entries => !entries.isEmpty
  | _ => true

/-- What a loop runs through: the items of a list, the code points of a text, the names of the
members of an object. -/
def items? : Datum → Option (List Datum)
  | .value (.list items) => some (items.map .value)
  | .value (.string t) => some (t.map fun p => .value (.string [p]))
  | .value (.object members) => some (members.map fun member => .value (.string member.1))
  | .list items => some items
  | .tuple items => some items
  | .mapping entries => some (entries.map fun entry => .value (.string entry.1))
  | _ => none

/-- The name of what a variable holds, where a missing attribute is complained of. -/
def ownerName : Datum → Text
  | .value .null => text "None"
  | d => text d.kindOf.qualifiedName ++ text " object"

/-- The name of the kind of what a variable holds, where it cannot be looped over. -/
def kindName (d : Datum) : Text := text d.kindOf.name

end Datum

end EntityForge.Template
