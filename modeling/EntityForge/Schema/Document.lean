import EntityForge.Json.Reader
import EntityForge.Schema.Basic
import EntityForge.Text.Blank
import EntityForge.Text.Lower
import EntityForge.Value.Shown

/-! # Schema documents

A schema is loaded from a JSON document. Field names match in any case, later spellings of a field
win, and unknown fields are ignored. A missing or blank text, `null`, and a document without
entities give no schema; any other document that does not have the expected shape is refused with
the first fault met in the order of reading.
-/

namespace EntityForge

/-- The bound that a value gives; nothing gives none. -/
def Bound.ofValue? : Value → Option Bound
  | .null => none
  | .int n => some (.number n)
  | value => some (.spelled value.plain)

namespace Document

/-- The kinds of JSON values. -/
inductive Kind
  | null
  | boolean
  | number
  | string
  | array
  | object
  deriving DecidableEq, Repr

/-- The fields that a document is read for. -/
inductive Field
  | entities
  | properties
  | name
  | tableName
  | type
  | isPrimaryKey
  | isRequired
  | maxLength
  | precision
  | scale
  deriving DecidableEq, Repr

/-- A place in a document that should hold an object. -/
inductive Place
  | root
  | entity (index : Nat)
  | property (entity index : Nat)
  deriving DecidableEq, Repr

/-- Why a document that is well-formed JSON is not a schema document. -/
inductive Fault
  | notObject (place : Place) (found : Kind)
  | entitiesNotList (found : Kind)
  | propertiesNotList (place : Place) (found : Kind)
  | missing (place : Place) (field : Field)
  | notString (place : Place) (field : Field) (found : Kind)
  | notBoolean (place : Place) (field : Field) (found : Kind)
  | notInteger (place : Place) (field : Field) (found : Kind)
  | belowMinimum (place : Place) (field : Field) (minimum value : Int)
  deriving DecidableEq, Repr

/-- The kind of a value. -/
def Kind.of : Value → Kind
  | .null => .null
  | .bool _ => .boolean
  | .int _ => .number
  | .float _ => .number
  | .string _ => .string
  | .list _ => .array
  | .object _ => .object

/-- The name of a kind. -/
def Kind.name : Kind → Text
  | .null => text "null"
  | .boolean => text "boolean"
  | .number => text "number"
  | .string => text "string"
  | .array => text "array"
  | .object => text "object"

/-- The spelling of a field in the documentation and in messages. -/
def Field.label : Field → Text
  | .entities => text "entities"
  | .properties => text "properties"
  | .name => text "name"
  | .tableName => text "tableName"
  | .type => text "type"
  | .isPrimaryKey => text "isPrimaryKey"
  | .isRequired => text "isRequired"
  | .maxLength => text "maxLength"
  | .precision => text "precision"
  | .scale => text "scale"

/-- The key under which a field is looked up: its label in lower case. -/
def Field.key (field : Field) : Text := field.label.lower

/-- The path of a place. -/
def Place.path : Place → Text
  | .root => text "document"
  | .entity i => text "entities[" ++ Text.ofNat i ++ text "]"
  | .property i j =>
      text "entities[" ++ Text.ofNat i ++ text "].properties[" ++ Text.ofNat j ++ text "]"

/-- A fault in the words of a message. -/
def Fault.message : Fault → Text
  | .notObject place found => place.path ++ text " must be an object, got " ++ found.name
  | .entitiesNotList found => text "'entities' must be a list, got " ++ found.name
  | .propertiesNotList place found =>
      place.path ++ text ".properties must be a list, got " ++ found.name
  | .missing place field => place.path ++ text "." ++ field.label ++ text " is required"
  | .notString place field found =>
      place.path ++ text "." ++ field.label ++ text " must be a string, got " ++ found.name
  | .notBoolean place field found =>
      place.path ++ text "." ++ field.label ++ text " must be a boolean, got " ++ found.name
  | .notInteger place field found =>
      place.path ++ text "." ++ field.label ++ text " must be an integer, got " ++ found.name
  | .belowMinimum place field minimum value =>
      place.path ++ text "." ++ field.label ++ text " must be >= " ++ Text.ofInt minimum ++
        text ", got " ++ Text.ofInt value

/-- An object whose members are found by lower-case names; of spellings that differ in case only
the last one counts. -/
abbrev Node := Entries Value

/-- The node of an object's members. -/
def Node.ofMembers (members : Entries Value) : Node :=
  Entries.ofPairs (members.map fun member => (member.1.lower, member.2))

/-- The value of a field; a field that is `null` counts as missing. -/
def Node.field? (node : Node) (field : Field) : Option Value :=
  match Entries.lookup? node field.key with
  | none => none
  | some .null => none
  | some value => some value

/-- The node at a place. -/
def nodeOf (place : Place) : Value → Except Fault Node
  | .object members => .ok (Node.ofMembers members)
  | value => .error (.notObject place (Kind.of value))

/-- A field that must be a string. -/
def requiredString (place : Place) (node : Node) (field : Field) : Except Fault Text :=
  match node.field? field with
  | none => .error (.missing place field)
  | some (.string t) => .ok t
  | some value => .error (.notString place field (Kind.of value))

/-- A field that is a boolean, false when missing. -/
def optionalBool (place : Place) (node : Node) (field : Field) : Except Fault Bool :=
  match node.field? field with
  | none => .ok false
  | some (.bool b) => .ok b
  | some value => .error (.notBoolean place field (Kind.of value))

/-- A field that is an integer of at least `minimum`, or missing. -/
def optionalInt (place : Place) (node : Node) (field : Field) (minimum : Int) :
    Except Fault (Option Int) :=
  match node.field? field with
  | none => .ok none
  | some (.int n) =>
      if n < minimum then .error (.belowMinimum place field minimum n) else .ok (some n)
  | some value => .error (.notInteger place field (Kind.of value))

/-- A field that is a bound of at least `minimum`, or missing. -/
def optionalBound (place : Place) (node : Node) (field : Field) (minimum : Int) :
    Except Fault (Option Bound) :=
  (optionalInt place node field minimum).map fun n => n.map .number

/-- Reads each item of a list with its index. -/
def readEach {α : Type} (readItem : Nat → Value → Except Fault α) :
    Nat → List Value → Except Fault (List α)
  | _, [] => .ok []
  | i, value :: rest => do
      let item ← readItem i value
      let items ← readEach readItem (i + 1) rest
      return item :: items

/-- The property that a value declares. -/
def readProperty (entity index : Nat) (value : Value) : Except Fault Property := do
  let place := Place.property entity index
  let node ← nodeOf place value
  let name ← requiredString place node .name
  let typeName ← requiredString place node .type
  let isPrimaryKey ← optionalBool place node .isPrimaryKey
  let isRequired ← optionalBool place node .isRequired
  let maxLength ← optionalBound place node .maxLength 1
  let precision ← optionalBound place node .precision 0
  let scale ← optionalBound place node .scale 0
  return { name, typeName, isPrimaryKey, isRequired, maxLength, precision, scale }

/-- The values of the properties of an entity. -/
def propertyValues (place : Place) (node : Node) : Except Fault (List Value) :=
  match node.field? .properties with
  | none => .ok []
  | some (.list values) => .ok values
  | some value => .error (.propertiesNotList place (Kind.of value))

/-- The entity that a value declares. -/
def readEntity (index : Nat) (value : Value) : Except Fault Entity := do
  let place := Place.entity index
  let node ← nodeOf place value
  let values ← propertyValues place node
  let name ← requiredString place node .name
  let tableName ← requiredString place node .tableName
  let properties ← readEach (readProperty index) 0 values
  return { name, tableName, properties }

/-- The schema of a document, if it declares any entity. -/
def readSchema : Value → Except Fault (Option Schema)
  | .null => .ok none
  | value => do
      let node ← nodeOf .root value
      match node.field? .entities with
      | none => return none
      | some (.list []) => return none
      | some (.list values) =>
          let entities ← readEach readEntity 0 values
          return some { entities }
      | some value => .error (.entitiesNotList (Kind.of value))

end Document

namespace Schema

/-- Why no schema can be loaded from a text. -/
inductive LoadFault
  | json (reason : Json.Reason) (line column : Nat)
  | document (fault : Document.Fault)
  | longInteger (digits : Nat)
  deriving DecidableEq, Repr

/-- A fault of loading in the words of a message. -/
def LoadFault.message : LoadFault → Text
  | .json reason line column =>
      text "Invalid JSON at line " ++ Text.ofNat line ++ text ", column " ++ Text.ofNat column ++
        text ": " ++ reason.message
  | .document fault => fault.message
  | .longInteger digits => Json.longIntegerMessage digits

/-- A fault of the JSON reader, with its place in the document as line and column. -/
def LoadFault.ofJson (document : Text) : Json.Fault → LoadFault
  | .malformed reason offset =>
      .json reason (Json.lineOf document offset) (Json.columnOf document offset)
  | .longInteger digits => .longInteger digits

/-- Loads the schema of a document text, if there is a text and it declares any entity. -/
def load : Option Text → Except LoadFault (Option Schema)
  | none => .ok none
  | some document =>
      if document.isBlank then .ok none
      else
        match Json.read document with
        | .error fault => .error (.ofJson document fault)
        | .ok value => (Document.readSchema value).mapError .document

end Schema

end EntityForge
