import EntityForge.Failure
import EntityForge.Schema.ScalarType

/-! # C# types

Each scalar type has its C# type. Reference types are declared nullable. In lenient use a declared
type that is not recognized is copied as it is.
-/

namespace EntityForge.CSharp

/-- A C# type: how it is named, and whether it is a reference type. -/
structure TypeName where
  token : Text
  isReference : Bool := false
  deriving DecidableEq, Repr

namespace TypeName

/-- The type as it stands in a declaration. -/
def declaration (t : TypeName) : Text := if t.isReference then t.token ++ text "?" else t.token

/-- The C# type of a scalar type. -/
def ofScalar : ScalarType → TypeName
  | .string => ⟨text "string", true⟩
  | .integer => ⟨text "int", false⟩
  | .long => ⟨text "long", false⟩
  | .short => ⟨text "short", false⟩
  | .byte => ⟨text "byte", false⟩
  | .boolean => ⟨text "bool", false⟩
  | .decimal => ⟨text "decimal", false⟩
  | .double => ⟨text "double", false⟩
  | .float => ⟨text "float", false⟩
  | .dateTime => ⟨text "DateTime", false⟩
  | .dateTimeOffset => ⟨text "DateTimeOffset", false⟩
  | .timeSpan => ⟨text "TimeSpan", false⟩
  | .guid => ⟨text "Guid", false⟩
  | .binary => ⟨text "byte[]", true⟩

/-- The C# type of a property of an entity. In strict use it must be recognized. -/
def ofProperty (strict : Bool) (entity : Text) (p : Property) : Except Failure TypeName :=
  match p.scalarType? with
  | some scalar => .ok (ofScalar scalar)
  | none =>
      if strict then .error (.unrecognizedType entity p.name p.typeName)
      else .ok ⟨p.typeName, false⟩

end TypeName

end EntityForge.CSharp
