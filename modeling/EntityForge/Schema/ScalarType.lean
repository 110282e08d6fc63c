import EntityForge.Schema.Basic
import EntityForge.Text.Blank
import EntityForge.Text.Lower

/-! # Scalar types

What a property can hold, and the spellings under which a document may ask for it. Blanks around a
spelling and the case of its letters do not matter.
-/

namespace EntityForge

/-- The semantic types of properties. -/
inductive ScalarType
  | string
  | integer
  | long
  | short
  | byte
  | boolean
  | decimal
  | double
  | float
  | dateTime
  | dateTimeOffset
  | timeSpan
  | guid
  | binary
  deriving DecidableEq, Repr

namespace ScalarType

/-- All types, in the order of the table of spellings. -/
def all : List ScalarType :=
  [.string, .integer, .long, .short, .byte, .boolean, .decimal, .double, .float, .dateTime,
    .dateTimeOffset, .timeSpan, .guid, .binary]

/-- The accepted spellings of a type in lower case. -/
def spellings : ScalarType → List String
  | .string => ["string", "str", "text"]
  | .integer => ["int", "integer", "int32"]
  | .long => ["long", "int64", "bigint"]
  | .short => ["short", "int16", "smallint"]
  | .byte => ["byte", "tinyint"]
  | .boolean => ["bool", "boolean"]
  | .decimal => ["decimal", "numeric", "money"]
  | .double => ["double", "float64"]
  | .float => ["float", "float32", "single", "real"]
  | .dateTime => ["datetime", "date", "timestamp"]
  | .dateTimeOffset => ["datetimeoffset"]
  | .timeSpan => ["timespan", "time"]
  | .guid => ["guid", "uuid"]
  | .binary => ["binary", "bytes", "byte[]", "blob"]

/-- The name of a type in reports. -/
def name : ScalarType → Text
  | .string => text "string"
  | .integer => text "int"
  | .long => text "long"
  | .short => text "short"
  | .byte => text "byte"
  | .boolean => text "bool"
  | .decimal => text "decimal"
  | .double => text "double"
  | .float => text "float"
  | .dateTime => text "datetime"
  | .dateTimeOffset => text "datetimeoffset"
  | .timeSpan => text "timespan"
  | .guid => text "guid"
  | .binary => text "binary"

/-- The type that a declared type name asks for. -/
def ofName? (declared : Text) : Option ScalarType :=
  let key := declared.strip.lower
  all.find? fun t => t.spellings.any fun spelling => text spelling = key

end ScalarType

/-- The semantic type of a property, if its declared type is recognized. -/
def Property.scalarType? (p : Property) : Option ScalarType := ScalarType.ofName? p.typeName

end EntityForge
