import EntityForge.Text.Basic

/-! # Schemas

A schema declares entities, each mapped to a table, with typed properties. The order of
declaration is kept and shows in everything that is generated.
-/

namespace EntityForge

/-- A bound on the values of a property. Documents give whole numbers; the maker of a schema may
give anything, of which only the spelling counts. -/
inductive Bound
  | number (n : Int)
  | spelled (t : Text)
  deriving DecidableEq, Repr

/-- How a bound is spelled. -/
def Bound.shown : Bound → Text
  | .number n => Text.ofInt n
  | .spelled t => t

/-- A typed property of an entity. The type is kept as it was written. -/
structure Property where
  name : Text
  typeName : Text
  isPrimaryKey : Bool := false
  isRequired : Bool := false
  maxLength : Option Bound := none
  precision : Option Bound := none
  scale : Option Bound := none
  deriving DecidableEq, Repr

/-- An entity and the table that it is mapped to. -/
structure Entity where
  name : Text
  tableName : Text
  properties : List Property := []
  deriving DecidableEq, Repr

/-- The entities of a document in the order of declaration. -/
structure Schema where
  entities : List Entity := []
  deriving DecidableEq, Repr

namespace Property

/-- Both parts of the precision and scale of a decimal, if both are declared. -/
def decimalSpec? (p : Property) : Option (Bound × Bound) :=
  match p.precision, p.scale with
  | some precision, some scale => some (precision, scale)
  | _, _ => none

/-- Is exactly one of precision and scale declared? -/
def hasHalfDecimalSpec (p : Property) : Bool := p.precision.isSome != p.scale.isSome

end Property

namespace Entity

/-- The first property of that name. -/
def property? (e : Entity) (name : Text) : Option Property :=
  e.properties.find? fun p => p.name = name

/-- The properties that make up the primary key. -/
def primaryKeys (e : Entity) : List Property := e.properties.filter Property.isPrimaryKey

end Entity

namespace Schema

/-- How much a schema declares. -/
structure Summary where
  entityCount : Nat
  propertyCount : Nat
  primaryKeyCount : Nat
  deriving DecidableEq, Repr

/-- The first entity of that name. -/
def entity? (s : Schema) (name : Text) : Option Entity :=
  s.entities.find? fun e => e.name = name

/-- The names of the entities. -/
def names (s : Schema) : List Text := s.entities.map Entity.name

/-- The counts of entities, properties and primary key properties. -/
def summary (s : Schema) : Summary where
  entityCount := s.entities.length
  propertyCount := (s.entities.map fun e => e.properties.length).foldr (· + ·) 0
  primaryKeyCount := (s.entities.map fun e => e.primaryKeys.length).foldr (· + ·) 0

/-- One line that names the entities with their numbers of properties. -/
def describe (s : Schema) : Text :=
  Text.join (text ", ") (s.entities.map fun e =>
    e.name ++ text "(" ++ Text.ofNat e.properties.length ++ text ")")

end Schema

end EntityForge
