import EntityForge.CSharp.Member
import EntityForge.Repeated
import EntityForge.Settings.Load
import EntityForge.Text.Fold

/-! # Checks before generation

A schema is checked as a whole before any code is generated from it. Names that occur twice are
found first. Then the entities are gone through in order: an unrecognized type is refused at once,
names that cannot be emitted are collected. A schema that passes may still deserve warnings.
-/

namespace EntityForge.CSharp

/-- The types and attributes that generated code refers to by simple names. -/
def shadowedNames : List String := [
  "DateTime", "DateTimeOffset", "TimeSpan", "Guid", "DbContext", "DbContextOptions", "DbSet",
  "Table", "Key", "Required", "MaxLength", "Column"]

/-- Is it the name of a type or attribute that generated code refers to? -/
def isShadowing (name : Text) : Bool := (shadowedNames.map text).contains name

/-- The language setting for the base class of the context class. -/
def baseClassKey : Text := text "context_base_class"

/-- The language setting for the type of the options of the context class. -/
def optionsTypeKey : Text := text "context_options_type"

/-- The problem with a language setting that should be a dotted name, if there is one. A setting
that is missing or null is none. -/
def typeNameProblem (custom : Entries Value) (key : Text) : List SettingProblem :=
  match custom.lookup? key with
  | none => []
  | some .null => []
  | some value => if isDottedName value.plain then [] else [.typeName key value]

/-- The settings with which no C# code can be generated. -/
def settingProblems (s : Settings) : List SettingProblem :=
  (if isDottedName s.namespaceName then [] else [.namespaceName s.namespaceName]) ++
    (if isFreeIdentifier s.contextName then [] else [.contextName s.contextName]) ++
    typeNameProblem s.custom baseClassKey ++
    typeNameProblem s.custom optionsTypeKey

/-- The names that occur twice: entity names, whatever their case, since artifacts are named for
them; table names; and the property names of each entity. -/
def duplicateNames (s : Schema) : List DuplicateName :=
  (repeated Text.fold s.names).map .entity ++
    (repeated id (s.entities.map Entity.tableName)).map .table ++
    s.entities.flatMap fun e =>
      (repeated id (e.properties.map Property.name)).map (.property e.name)

/-- The warnings about the keys of an entity. -/
def keyWarnings (e : Entity) : List SchemaWarning :=
  match e.primaryKeys.length with
  | 0 => [.noPrimaryKey e.name]
  | 1 => []
  | count => [.manyPrimaryKeys e.name count]

/-- The warnings about an entity that hold for any language. -/
def generalWarnings (e : Entity) : List SchemaWarning :=
  if e.properties.isEmpty then [.noProperties e.name]
  else
    keyWarnings e ++ e.properties.filterMap fun p =>
      if p.hasHalfDecimalSpec then some (.halfDecimalSpec e.name p.name) else none

/-- The problem with a name, if there is one: it is no identifier, or it is a keyword that is not
to be escaped. -/
def nameProblems (escaping : Bool) (role : NameRole) (name : Text) : List SchemaProblem :=
  if !namingRule.isValid name then [.notIdentifier role name]
  else if !escaping && isKeyword name then [.keyword role name]
  else []

/-- What the check of a part of a schema finds. -/
structure Findings where
  problems : List SchemaProblem := []
  warnings : List SchemaWarning := []
  deriving DecidableEq, Repr

namespace Findings

/-- The findings of two parts, one after the other. -/
def append (a b : Findings) : Findings := ⟨a.problems ++ b.problems, a.warnings ++ b.warnings⟩

instance : Append Findings := ⟨append⟩

/-- The findings of all parts, in order. -/
def concat (parts : List Findings) : Findings :=
  ⟨parts.flatMap problems, parts.flatMap warnings⟩

end Findings

/-- Checks a property of an entity. -/
def checkProperty (s : Settings) (e : Entity) (p : Property) : Except Failure Findings := do
  let type ← TypeName.ofProperty s.strictTypes e.name p
  return {
    problems := nameProblems s.escapeKeywords .property p.name ++
      (if p.name = e.name then [.propertyNamedLikeEntity e.name p.name] else [])
    warnings :=
      (if p.maxLength.isSome && !type.isReference then
        [.lengthOfNonString e.name p.name type.token] else []) ++
        (if s.escapeKeywords && isKeyword p.name then [.escapedProperty e.name p.name] else []) }

/-- What the names of an entity and its table are found guilty of. -/
def entityFindings (s : Settings) (e : Entity) : Findings where
  problems := nameProblems s.escapeKeywords .entity e.name ++
    nameProblems s.escapeKeywords .table e.tableName ++
    (if e.name = s.contextName then [.entityNamedLikeContext e.name] else []) ++
    (if e.tableName = s.contextName then [.tableNamedLikeContext e.tableName e.name] else [])
  warnings := if isShadowing e.name then [.shadowsType e.name] else []

/-- Checks an entity with its properties. -/
def checkEntity (s : Settings) (e : Entity) : Except Failure Findings := do
  let parts ← e.properties.mapM (checkProperty s e)
  let escaped : Findings :=
    { warnings := if s.escapeKeywords && isKeyword e.name then [.escapedEntity e.name] else [] }
  return entityFindings s e ++ Findings.concat parts ++ escaped

/-- Checks a schema: its warnings if code can be generated from it. -/
def checkSchema (s : Settings) (schema : Schema) : Except Failure (List SchemaWarning) :=
  match duplicateNames schema with
  | [] => do
      let parts ← schema.entities.mapM (checkEntity s)
      let findings := Findings.concat parts
      match findings.problems with
      | [] => return schema.entities.flatMap generalWarnings ++ findings.warnings
      | problems => .error (.schema problems)
  | duplicates => .error (.duplicates duplicates)

end EntityForge.CSharp
