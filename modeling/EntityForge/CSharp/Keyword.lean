import EntityForge.Naming.Escaping

/-! # C# keywords and names

The reserved keywords of C# can be used as identifiers behind an at sign. Contextual keywords are
identifiers as they are. A namespace is a list of identifiers between dots, none of them reserved.
-/

namespace EntityForge.CSharp

/-- The reserved keywords. -/
def keywords : List String := [
  "abstract", "as", "base", "bool", "break", "byte", "case", "catch", "char", "checked", "class",
  "const", "continue", "decimal", "default", "delegate", "do", "double", "else", "enum", "event",
  "explicit", "extern", "false", "finally", "fixed", "float", "for", "foreach", "goto", "if",
  "implicit", "in", "int", "interface", "internal", "is", "lock", "long", "namespace", "new",
  "null", "object", "operator", "out", "override", "params", "private", "protected", "public",
  "readonly", "ref", "return", "sbyte", "sealed", "short", "sizeof", "stackalloc", "static",
  "string", "struct", "switch", "this", "throw", "true", "try", "typeof", "uint", "ulong",
  "unchecked", "unsafe", "ushort", "using", "virtual", "void", "volatile", "while"]

/-- The naming rule of C#: a keyword is escaped by an at sign in front. -/
def namingRule : NamingRule := NamingRule.make (keywords.map text) (text "@") (text "_") true

/-- Is the text a reserved keyword? -/
def isKeyword (name : Text) : Bool := namingRule.isReserved name

/-- Is the text an identifier that is no reserved keyword? -/
def isFreeIdentifier (name : Text) : Bool := namingRule.isValid name && !isKeyword name

/-- Is the text a dotted name, such as that of a namespace? -/
def isDottedName (name : Text) : Bool := (Text.splitOn '.' name).all isFreeIdentifier

end EntityForge.CSharp
