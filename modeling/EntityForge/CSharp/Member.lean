import EntityForge.CSharp.Keyword
import EntityForge.CSharp.TypeName
import EntityForge.Naming.Literal
import EntityForge.Template.Datum

/-! # Members of generated classes

A property becomes a member: its attributes in a fixed order, then its declaration. An entity has a
table attribute on its class and an accessor on the context class.
-/

namespace EntityForge.CSharp

/-- The declaration of a member with the attributes before it. -/
structure Member where
  attributes : List Text
  declaration : Text
  deriving DecidableEq, Repr

/-- The attribute that fixes the column type of a decimal. -/
def columnAttribute (precision scale : Bound) : Text :=
  text "[Column(TypeName = " ++
    Literal.quote (text "decimal(" ++ precision.shown ++ text ", " ++ scale.shown ++ text ")") ++
    text ")]"

/-- The attributes of a property: key, required (of reference types only), greatest length and
decimal column type, as far as they apply. -/
def attributesOf (p : Property) (type : TypeName) : List Text :=
  (if p.isPrimaryKey then [text "[Key]"] else []) ++
    (if p.isRequired && type.isReference then [text "[Required]"] else []) ++
    (match p.maxLength with
      | some bound => [text "[MaxLength(" ++ bound.shown ++ text ")]"]
      | none => []) ++
    (match p.decimalSpec? with
      | some (precision, scale) => [columnAttribute precision scale]
      | none => [])

/-- The declaration of an automatic property. -/
def fieldDeclaration (type name : Text) : Text :=
  text "public " ++ type ++ text " " ++ name ++ text " \x7b get; set; \x7d"

/-- The name as it is emitted. -/
def emitName (escaping : Bool) (name : Text) : Text := namingRule.emit escaping name

/-- The member of a property of an entity. -/
def memberOf (strict escaping : Bool) (entity : Text) (p : Property) : Except Failure Member := do
  let type ← TypeName.ofProperty strict entity p
  return ⟨attributesOf p type, fieldDeclaration type.declaration (emitName escaping p.name)⟩

/-- The table attribute of the class of an entity. -/
def tableAttribute (e : Entity) : Text :=
  text "[Table(" ++ Literal.quote e.tableName ++ text ")]"

/-- The accessor of an entity on the context class. -/
def accessorOf (escaping : Bool) (e : Entity) : Text :=
  text "public DbSet<" ++ emitName escaping e.name ++ text "> " ++ emitName escaping e.tableName ++
    text " \x7b get; set; \x7d"

/-- Members, as templates know them. -/
def memberKind : Template.Kind where
  home := "dbmodel_codegen.languages.csharp.rules"
  name := "MemberDeclaration"
  summary := some "Attributes and field declaration for one property."
  fields := [
    { name := "attributes", note := "typing.List[str]" },
    { name := "declaration", note := "str", default := some "" }]
  methods := [
    "__delattr__", "__eq__", "__hash__", "__init__", "__repr__", "__setattr__"]

/-- The member as template data. -/
def Member.toDatum (m : Member) : Template.Datum :=
  .record memberKind [
    (text "attributes", .list (m.attributes.map .string)),
    (text "declaration", .string m.declaration)]

end EntityForge.CSharp
