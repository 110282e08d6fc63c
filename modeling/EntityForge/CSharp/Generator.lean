import EntityForge.CSharp.Check
import EntityForge.CSharp.Sheet
import EntityForge.Host
import EntityForge.Layout

/-! # The C# generator

A generator is made from settings that it can work with. It renders an entity class for every entity
and one context class, each from its template, and lays out the code.
-/

namespace EntityForge

/-- A named piece of generated code. -/
structure Artifact where
  name : Text
  content : Text
  deriving DecidableEq, Repr

namespace CSharp

/-- Settings in use, and an engine with the templates at hand. -/
structure Generator where
  settings : Settings
  library : Template.Renderer

/-- The header comment of generated code. -/
def headerText : Text := text "<auto-generated />"

/-- The namespaces that an entity class imports. -/
def entityImports : List String := [
  "System", "System.ComponentModel.DataAnnotations",
  "System.ComponentModel.DataAnnotations.Schema"]

/-- The namespaces that the context class imports. -/
def contextImports : List String := ["Microsoft.EntityFrameworkCore"]

/-- The language that is generated. -/
def languageName : Text := text "csharp"

/-- The extension of files in the language. -/
def fileExtension : Text := text ".cs"

namespace Generator

/-- The directory in which settings look for templates, if they name one. -/
def templatePath? (s : Settings) : Option Path :=
  match s.templateDir with
  | none => none
  | some [] => none
  | some path => some (Path.parse path)

/-- The generator for settings of the right kinds. -/
def make (host : Host) (s : Settings) : Except Failure Generator :=
  match s.commonProblems with
  | [] =>
      match settingProblems s with
      | [] => do
          let library ← host.renderer (templatePath? s) sheets
          return ⟨s, library⟩
      | problems => .error (Settings.refused host.machine.depth problems (.unusable problems))
  | problems => .error (Settings.refused host.machine.depth problems (.unusable problems))

/-- The generator for a draft of settings. -/
def ofDraft (host : Host) (d : Draft) : Except Failure Generator :=
  match d.settings? with
  | .error problems =>
      let problems := problems.map SettingProblem.kind
      .error (Settings.refused host.machine.depth problems (.unusable problems))
  | .ok settings => make host settings

/-- A list of texts as template data. -/
def textList (ts : List Text) : Template.Datum := .value (.list (ts.map .string))

/-- A text as template data. -/
def textDatum (t : Text) : Template.Datum := .value (.string t)

/-- Settings whose indentation can be laid out. -/
def checkIndent (s : Settings) : Except Failure Unit :=
  match s.indentFault? with
  | none => .ok ()
  | some fault => .error (.breakdown (.indent fault))

/-- The variables that both templates have. -/
def baseVariables (s : Settings) (imports : List String) : Template.Variables := [
  (text "header", .value (if s.addHeader then .string headerText else .null)),
  (text "usings", textList (imports.map text)),
  (text "namespace", textDatum s.namespaceName),
  (text "indent", textDatum s.indent),
  (text "member_indent", textDatum (s.indent ++ s.indent))]

/-- The variables of the template of an entity class. -/
def entityVariables (s : Settings) (e : Entity) (members : List Member) : Template.Variables :=
  baseVariables s entityImports ++ [
    (text "table_annotation", textDatum (tableAttribute e)),
    (text "class_name", textDatum (emitName s.escapeKeywords e.name)),
    (text "members", .list (members.map Member.toDatum))]

/-- A language setting with a default for when it is missing. -/
def customOr (s : Settings) (key default : Text) : Template.Datum :=
  .value ((s.custom.lookup? key).getD (.string default))

/-- The variables of the template of the context class. -/
def contextVariables (s : Settings) (entities : List Entity) : Template.Variables :=
  baseVariables s contextImports ++ [
    (text "context_name", textDatum s.contextName),
    (text "base_class", customOr s baseClassKey (text "DbContext")),
    (text "options_type", customOr s optionsTypeKey (text "DbContextOptions")),
    (text "accessors", textList (entities.map (accessorOf s.escapeKeywords)))]

/-- The members of the class of an entity. -/
def membersOf (s : Settings) (e : Entity) : Except Failure (List Member) :=
  e.properties.mapM (memberOf s.strictTypes s.escapeKeywords e.name)

/-- What the engine is called with for an entity class. -/
def entityCall (s : Settings) (e : Entity) : Except Failure Template.Call := do
  let members ← membersOf s e
  checkIndent s
  return ⟨entitySheetName, entityVariables s e members⟩

/-- What the engine is called with for the context class. -/
def contextCall (s : Settings) (entities : List Entity) : Except Failure Template.Call := do
  checkIndent s
  return ⟨contextSheetName, contextVariables s entities⟩

/-- The code of an entity class, before layout. -/
def entityCode (g : Generator) (e : Entity) : Except Failure Text := do
  let call ← entityCall g.settings e
  g.library.render call.name call.given

/-- The code of the context class, before layout. -/
def contextCode (g : Generator) (entities : List Entity) : Except Failure Text := do
  let call ← contextCall g.settings entities
  g.library.render call.name call.given

/-- What the engine is called with for all classes of a schema, that of the context last. -/
def callsOf (s : Settings) (schema : Schema) : List (Except Failure Template.Call) :=
  schema.entities.map (entityCall s) ++ [contextCall s schema.entities]

/-- The name of the artifact that holds an entity class. -/
def entityArtifactName (g : Generator) (e : Entity) : Text := e.name ++ g.settings.fileSuffix

/-- The name of the artifact that holds the context class. -/
def contextArtifactName (g : Generator) : Text := g.settings.contextName ++ g.settings.fileSuffix

/-- The code in its final layout. -/
def format (g : Generator) (code : Text) : Text := Layout.format g.settings.lineEnding code

/-- The artifact of an entity. -/
def entityArtifact (g : Generator) (e : Entity) : Except Failure Artifact := do
  let code ← g.entityCode e
  return ⟨g.entityArtifactName e, g.format code⟩

/-- The artifact of the context. -/
def contextArtifact (g : Generator) (entities : List Entity) : Except Failure Artifact := do
  let code ← g.contextCode entities
  return ⟨g.contextArtifactName, g.format code⟩

/-- The names of the artifacts of a schema, that of the context last. -/
def artifactNames (g : Generator) (schema : Schema) : List Text :=
  schema.entities.map g.entityArtifactName ++ [g.contextArtifactName]

/-- All artifacts of a schema: those of the entities in order, then that of the context. Each call
is made after those before it were answered. -/
def generate (g : Generator) (schema : Schema) : Except Failure (List Artifact) := do
  let codes ← g.library.renderAll (callsOf g.settings schema)
  return ((g.artifactNames schema).zip codes).map fun (name, code) => ⟨name, g.format code⟩

/-- Checks a schema before generation. -/
def check (g : Generator) (schema : Schema) : Except Failure (List SchemaWarning) :=
  checkSchema g.settings schema

end Generator

end CSharp

end EntityForge
