import EntityForge.Template.Datum
import EntityForge.Template.Summary

/-! # Attributes of template data

A name after a full stop asks a thing for an attribute. What all things of its kind have comes
first: numbers have parts, and all things have a kind and routines. Fields of records and members
of objects come after that.
-/

namespace EntityForge.Template

/-- Why rendering fails. -/
inductive RenderFault
  | undefinedName (n : Text)
  | noAttribute (owner : Text) (n : Text)
  | noItem (owner : Text) (place : Nat)
  | noPreviousItem
  | noNextItem
  | notIterable (kind : Text)
  | unknownFilter (filter : Text)
  | placeInMemory
  deriving DecidableEq, Repr

/-- A fault of rendering in the words of a message. -/
def RenderFault.message : RenderFault → Text
  | .undefinedName n => text "'" ++ n ++ text "' is undefined"
  | .noAttribute owner n => text "'" ++ owner ++ text "' has no attribute '" ++ n ++ text "'"
  | .noItem owner place => owner ++ text " has no element " ++ Text.ofNat place
  | .noPreviousItem => text "there is no previous item"
  | .noNextItem => text "there is no next item"
  | .notIterable kind => text "'" ++ kind ++ text "' object is not iterable"
  | .unknownFilter filter => text "No filter named '" ++ filter ++ text "' found."
  | .placeInMemory => text "no place in memory is known"

namespace Datum

/-- The text for what a variable holds; it cannot be told where that is in memory. -/
def spell (d : Datum) : Except RenderFault Text :=
  match d.plain? with
  | some t => .ok t
  | none => .error .placeInMemory

/-- A text as a datum. -/
def ofText (t : Text) : Datum := .value (.string t)

/-- A whole number as a datum. -/
def ofNat (n : Nat) : Datum := .value (.int n)

/-- A summary as a datum. -/
def ofSummary : Option String → Datum
  | none => .value .null
  | some summary => ofText (text summary)

/-- The part of a whole number of that name. -/
def wholePart? (n : Int) (name : Text) : Option Value :=
  if name = text "real" ∨ name = text "numerator" then some (.int n)
  else if name = text "imag" then some (.int 0)
  else if name = text "denominator" then some (.int 1)
  else none

/-- The part of a value of that name. -/
def part? : Value → Text → Option Value
  | .bool b, name => wholePart? (if b then 1 else 0) name
  | .int n, name => wholePart? n name
  | .float x, name =>
      if name = text "real" then some (.float x)
      else if name = text "imag" then some (.float (.zero false))
      else none
  | .list _, name => if name = text "__hash__" then some .null else none
  | .object _, name => if name = text "__hash__" then some .null else none
  | _, _ => none

/-- The names of the fields of things of a kind. -/
def fieldNames (k : Kind) : Datum := .tuple (k.fields.map fun field => ofText (text field.name))

/-- What is noted of what a field holds. -/
def ofNote (field : Field) : Datum :=
  if field.note = Kind.string.name then .kind .string
  else .thing .fieldNote (text field.note)

/-- What a kind of records, and each of its things, tells of the fields. -/
def fieldsPart? (k : Kind) (name : Text) : Option Datum :=
  if k.fields.isEmpty then none
  else if name = text "__match_args__" then some (fieldNames k)
  else if name = text "__annotations__" then
    some (.mapping (k.fields.map fun field => (text field.name, ofNote field)))
  else if name = text "__dataclass_fields__" then
    some (.mapping (k.fields.map fun field =>
      (text field.name, .thing .recordField (text "Field"))))
  else if name = text "__dataclass_params__" then
    some (.thing .recordOptions (text ("_DataclassParams(init=True,repr=True,eq=True," ++
      "order=False,unsafe_hash=False,frozen=True)")))
  else none

/-- What a record tells of itself. -/
def recordPart? (k : Kind) (fields : Entries Value) (name : Text) : Option Datum :=
  match fields.lookup? name with
  | some v => some (.value v)
  | none =>
      if name = text "__dict__" then some (.value (.object fields))
      else if name = text "__module__" then some (ofText (text k.home))
      else if name = text "__weakref__" then some (.value .null)
      else fieldsPart? k name

/-- The text that the field of that name holds by default. -/
def default? (k : Kind) (name : Text) : Option Datum :=
  (k.fields.find? fun field => name = text field.name).bind fun field =>
    field.default.map fun t => ofText (text t)

/-- The nearest kind of a lineage that has a routine in its own way. -/
def ownerOf (k : Kind) (name : Text) : Kind :=
  (k.lineage.find? fun owner => owner.own.any fun known => name = text known).getD .thing

/-- The routines that all things have and that need one of them. -/
def inheritedRoutines : List String := [
  "__dir__", "__format__", "__getstate__", "__reduce__", "__reduce_ex__", "__sizeof__"]

/-- What a kind tells of itself. -/
def kindPart? (k : Kind) (name : Text) : Option Datum :=
  let has (names : List String) := names.any fun known => name = text known
  if name = text "__name__" ∨ name = text "__qualname__" then some (ofText (text k.name))
  else if name = text "__module__" then some (ofText (text k.home))
  else if name = text "__doc__" then some (ofSummary k.summary)
  else if name = text "__base__" then some (k.parent?.elim (.value .null) .kind)
  else if name = text "__bases__" then some (.tuple (k.parent?.toList.map .kind))
  else if name = text "__mro__" then some (.tuple (k.lineage.map .kind))
  else if let some part := (fieldsPart? k name).or (default? k name) then some part
  else
    let owner := k.parent?.elim k fun parent => if parent = .thing then k else parent
    if has k.parts then some (.routine .partDescriptor (.kind owner) name)
    else if has k.slots then some (.routine .slotDescriptor (.kind owner) name)
    else if has k.routines then some (.routine .methodDescriptor (.kind owner) name)
    else if has k.operators then some (.routine .operatorDescriptor (.kind owner) name)
    else if has inheritedRoutines then
      some (.routine .methodDescriptor (.kind (ownerOf k name)) name)
    else if has Kind.commonOperators then
      some (.routine .operatorDescriptor (.kind (ownerOf k name)) name)
    else none

/-- What a routine tells of itself. -/
def routinePart? (sort : Kind) (owner : Datum) (routine name : Text) : Option Datum :=
  if name = text "__name__" then some (ofText routine)
  else if name = text "__qualname__" then
    some (ofText (text owner.owningKind.name ++ text "." ++ routine))
  else if name = text "__self__" ∧ (sort = .routine ∨ sort = .operator ∨ sort = .method) then
    some owner
  else if name = text "__module__" ∧ sort = .routine then some (.value .null)
  else if name = text "__objclass__" ∧ sort ≠ .routine ∧ sort ≠ .method then
    some (.kind owner.owningKind)
  else if name = text "__doc__" then
    if sort = .method then some (.value .null)
    else some (ofSummary (owner.owningKind.routineSummary? routine))
  else if name = text "__module__" ∧ sort = .method then some (ofText (text owner.owningKind.home))
  else none

/-- What the state of a loop tells: the place of the present item, counted from both ends, and its
neighbours. -/
def loopPart? (items : List Datum) (index : Nat) (name : Text) :
    Option (Except RenderFault Datum) :=
  let number (n : Nat) : Option (Except RenderFault Datum) := some (.ok (ofNat n))
  let truth (b : Bool) : Option (Except RenderFault Datum) := some (.ok (.value (.bool b)))
  let count := items.length
  if name = text "index" then number (index + 1)
  else if name = text "index0" then number index
  else if name = text "revindex" then number (count - index)
  else if name = text "revindex0" then number (count - index - 1)
  else if name = text "length" then number count
  else if name = text "depth" then number 1
  else if name = text "depth0" then number 0
  else if name = text "first" then truth (index == 0)
  else if name = text "last" then truth (index + 1 == count)
  else if name = text "previtem" then
    if index = 0 then some (.error .noPreviousItem)
    else some ((items[index - 1]?).elim (.error .noPreviousItem) .ok)
  else if name = text "nextitem" then
    some ((items[index + 1]?).elim (.error .noNextItem) .ok)
  else none

/-- The attribute that a thing has apart from the others of its kind. -/
def own? : Datum → Text → Option (Except RenderFault Datum)
  | .value v, n => (part? v n).map fun v => .ok (.value v)
  | .record k fields, n => (recordPart? k fields n).map .ok
  | .kind k, n => (kindPart? k n).map .ok
  | .routine sort owner called, n => (routinePart? sort owner called n).map .ok
  | .loop items index, n => loopPart? items index n
  | _, _ => none

/-- The attribute that all things of a kind have. -/
def common? (d : Datum) (name : Text) : Option Datum :=
  let has (names : List String) := names.any fun known => name = text known
  let k := d.kindOf
  if name = text "__class__" then some (.kind k)
  else if name = text "__doc__" then some (ofSummary k.summary)
  else if has k.methods then some (.routine .method d name)
  else if has k.routines ∨ has Kind.commonRoutines then some (.routine .routine d name)
  else if has k.operators ∨ has Kind.commonOperators then some (.routine .operator d name)
  else none

/-- What a thing holds under a name: a member of an object, or a kind with that parameter. -/
def item? : Datum → Text → Option Datum
  | .value (.object members), n => (Entries.lookup? members n).map .value
  | .mapping entries, n => Entries.lookup? entries n
  | .kind k, n =>
      if k.takesParameter then some (.parameterized k (ofText n)) else none
  | _, _ => none

/-- What a thing has of itself or as all things of its kind. -/
def attribute? (d : Datum) (n : Text) : Option (Except RenderFault Datum) :=
  (d.own? n).or ((d.common? n).map .ok)

/-- The names that kinds with a parameter do not ask the kind for. -/
def unaskedNames : List String := [
  "__class__", "__reduce__", "__reduce_ex__", "__mro_entries__", "__copy__", "__deepcopy__"]

/-- The attribute that a kind with a parameter has: what it is made of, or what the kind has. -/
def parameterizedPart? (k : Kind) (parameter : Datum) (n : Text) :
    Option (Except RenderFault Datum) :=
  if n = text "__origin__" then some (.ok (.kind k))
  else if n = text "__args__" then some (.ok (.tuple [parameter]))
  else if n = text "__parameters__" then some (.ok (.tuple []))
  else if n = text "__unpacked__" then some (.ok (.value (.bool false)))
  else if unaskedNames.any (fun known => n = text known) then
    attribute? (.parameterized k parameter) n
  else attribute? (.kind k) n

/-- The attribute of a name. -/
def getAttribute (d : Datum) (n : Text) : Except RenderFault Datum :=
  let found :=
    match d with
    | .parameterized k parameter => parameterizedPart? k parameter n
    | d => d.attribute? n
  match found.or ((d.item? n).map .ok) with
  | some result => result
  | none => .error (.noAttribute d.ownerName n)

/-- The item at a place, counted from zero: of a list, or of the code points of a text. A kind can
be given a number for a parameter. -/
def itemAt? : Datum → Nat → Option Datum
  | .value (.list items), place => items[place]?.map .value
  | .value (.string t), place => t[place]?.map fun p => ofText [p]
  | .list items, place => items[place]?
  | .tuple items, place => items[place]?
  | .kind k, place =>
      if k.takesParameter then some (.parameterized k (.value (.int place))) else none
  | _, _ => none

/-- The item at a place, which has to be there. -/
def getItem (d : Datum) (place : Nat) : Except RenderFault Datum :=
  match d.itemAt? place with
  | some found => .ok found
  | none => .error (.noItem d.ownerName place)

end Datum

end EntityForge.Template
