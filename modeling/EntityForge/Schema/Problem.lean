import EntityForge.Text.Shown

/-! # Problems of schemas

What can be wrong with a schema from which code is to be generated, and what is worth a warning.
-/

namespace EntityForge

/-- A name that occurs twice where names have to differ. -/
inductive DuplicateName
  | entity (name : Text)
  | table (name : Text)
  | property (entity name : Text)
  deriving DecidableEq, Repr

/-- What a name of a schema is the name of. -/
inductive NameRole
  | entity
  | table
  | property
  deriving DecidableEq, Repr

/-- A name that cannot be emitted where it stands. -/
inductive SchemaProblem
  | notIdentifier (role : NameRole) (name : Text)
  | keyword (role : NameRole) (name : Text)
  | entityNamedLikeContext (entity : Text)
  | tableNamedLikeContext (table entity : Text)
  | propertyNamedLikeEntity (entity property : Text)
  deriving DecidableEq, Repr

/-- What is worth a warning, though code is generated. -/
inductive SchemaWarning
  | noProperties (entity : Text)
  | noPrimaryKey (entity : Text)
  | manyPrimaryKeys (entity : Text) (count : Nat)
  | halfDecimalSpec (entity property : Text)
  | shadowsType (entity : Text)
  | lengthOfNonString (entity property typeName : Text)
  | escapedProperty (entity property : Text)
  | escapedEntity (entity : Text)
  deriving DecidableEq, Repr

/-- The duplicate in the words of a message. -/
def DuplicateName.message : DuplicateName → Text
  | .entity name => text "Duplicate entity name: " ++ name
  | .table name => text "Duplicate table name: " ++ name
  | .property owner name => text "Duplicate property name: " ++ owner ++ text "." ++ name

/-- The name of a role. -/
def NameRole.label : NameRole → Text
  | .entity => text "entity"
  | .table => text "table"
  | .property => text "property"

/-- The problem in the words of a message. -/
def SchemaProblem.message : SchemaProblem → Text
  | .notIdentifier role name => text "Invalid " ++ role.label ++ text " name: " ++ name.shown
  | .keyword role name =>
      text "Invalid " ++ role.label ++ text " name: " ++ name.shown ++ text " is a C# keyword"
  | .entityNamedLikeContext entity =>
      text "Entity '" ++ entity ++ text "' has the same name as the context class"
  | .tableNamedLikeContext table entity =>
      text "Table name '" ++ table ++ text "' of entity '" ++ entity ++
        text "' has the same name as the context class"
  | .propertyNamedLikeEntity entity property =>
      text "Property " ++ entity ++ text "." ++ property ++
        text " has the same name as its enclosing class"

/-- The warning in the words of a message. -/
def SchemaWarning.message : SchemaWarning → Text
  | .noProperties entity => text "Entity '" ++ entity ++ text "' has no properties"
  | .noPrimaryKey entity => text "Entity '" ++ entity ++ text "' has no primary key"
  | .manyPrimaryKeys entity count =>
      text "Entity '" ++ entity ++ text "' has " ++ Text.ofNat count ++ text " primary keys"
  | .halfDecimalSpec entity property =>
      text "Property " ++ entity ++ text "." ++ property ++
        text " declares only one of precision/scale; no column type is emitted"
  | .shadowsType entity =>
      text "Entity '" ++ entity ++ text "' shadows a type used by the generated code"
  | .lengthOfNonString entity property typeName =>
      text "Property " ++ entity ++ text "." ++ property ++
        text " declares maxLength on non-string type '" ++ typeName ++ text "'"
  | .escapedProperty entity property =>
      text "Property " ++ entity ++ text "." ++ property ++
        text " is a C# keyword and is emitted as @" ++ property
  | .escapedEntity entity =>
      text "Entity '" ++ entity ++ text "' is a C# keyword and is emitted as @" ++ entity

end EntityForge
