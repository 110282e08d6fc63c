import EntityForge.CSharp.Generator

/-! # Emitters

An emitter is a generator in use. It remembers every name that it has emitted, whether the name is
that of an entity, a table or a property, and it keeps what it remembers from one task to the next,
also when a task fails. Its engine is in use, too: what it answers may depend on all calls before.
-/

namespace EntityForge.CSharp

/-- What an emitter has behind it: the names that it remembers, and the calls of its engine in
order. -/
structure EmitterState where
  memo : NameMemo := { rule := namingRule }
  calls : List Template.Call := []

/-- A step of an emitter. It may fail; what is behind the emitter then is kept in any case. -/
abbrev Emission (α : Type) : Type := ExceptT Failure (StateM EmitterState) α

namespace Emission

/-- A step in which no name is emitted and no template rendered. -/
def plain {α : Type} (x : Except Failure α) : Emission α := ExceptT.mk fun state => (x, state)

/-- The step that emits a name. -/
def emit (escaping : Bool) (name : Text) : Emission Text := ExceptT.mk fun state =>
  let (emitted, memo) := state.memo.emit escaping name
  (.ok emitted, { state with memo })

/-- The step that calls an engine. -/
def render (r : Template.Renderer) (call : Template.Call) : Emission Text :=
  ExceptT.mk fun state =>
    ((r.after state.calls).render call.name call.given,
      { state with calls := state.calls ++ [call] })

/-- The member of a property of an entity. -/
def memberOf (strict escaping : Bool) (entity : Text) (p : Property) : Emission Member := do
  let type ← plain (TypeName.ofProperty strict entity p)
  let name ← emit escaping p.name
  return ⟨attributesOf p type, fieldDeclaration type.declaration name⟩

/-- The accessor of an entity on the context class. -/
def accessorOf (escaping : Bool) (e : Entity) : Emission Text := do
  let type ← emit escaping e.name
  let name ← emit escaping e.tableName
  return text "public DbSet<" ++ type ++ text "> " ++ name ++ text " \x7b get; set; \x7d"

/-- The code of an entity class, before layout. -/
def entityCode (g : Generator) (e : Entity) : Emission Text := do
  let s := g.settings
  let members ← e.properties.mapM (memberOf s.strictTypes s.escapeKeywords e.name)
  plain (Generator.checkIndent s)
  let className ← emit s.escapeKeywords e.name
  render g.library ⟨entitySheetName, Generator.baseVariables s entityImports ++ [
    (text "table_annotation", Generator.textDatum (tableAttribute e)),
    (text "class_name", Generator.textDatum className),
    (text "members", .list (members.map Member.toDatum))]⟩

/-- The code of the context class, before layout. -/
def contextCode (g : Generator) (entities : List Entity) : Emission Text := do
  let s := g.settings
  plain (Generator.checkIndent s)
  let accessors ← entities.mapM (accessorOf s.escapeKeywords)
  render g.library ⟨contextSheetName, Generator.baseVariables s contextImports ++ [
    (text "context_name", Generator.textDatum s.contextName),
    (text "base_class", Generator.customOr s baseClassKey (text "DbContext")),
    (text "options_type", Generator.customOr s optionsTypeKey (text "DbContextOptions")),
    (text "accessors", Generator.textList accessors)]⟩

/-- The artifact of an entity. -/
def entityArtifact (g : Generator) (e : Entity) : Emission Artifact := do
  let code ← entityCode g e
  return ⟨g.entityArtifactName e, g.format code⟩

/-- All artifacts of a schema: those of the entities in order, then that of the context. -/
def generate (g : Generator) (schema : Schema) : Emission (List Artifact) := do
  let artifacts ← schema.entities.mapM (entityArtifact g)
  let code ← contextCode g schema.entities
  return artifacts ++ [⟨g.contextArtifactName, g.format code⟩]

end Emission

/-- What an emitter can be asked for. -/
inductive Task
  | check (schema : Schema)
  | entityCode (e : Entity)
  | contextCode (entities : List Entity)
  | generate (schema : Schema)
  | emitName (escaping : Bool) (name : Text)

/-- What an emitter answers. -/
inductive Answer
  | warnings (warnings : List SchemaWarning)
  | code (code : Text)
  | artifacts (artifacts : List Artifact)
  | name (name : Text)

/-- A generator with what is behind it. -/
structure Emitter where
  generator : Generator
  state : EmitterState := {}

namespace Emitter

/-- The emitter that has nothing behind it. -/
def new (g : Generator) : Emitter := { generator := g }

/-- The steps of a task. -/
def stepsOf (g : Generator) : Task → Emission Answer
  | .check schema => do return .warnings (← Emission.plain (g.check schema))
  | .entityCode e => do return .code (← Emission.entityCode g e)
  | .contextCode entities => do return .code (← Emission.contextCode g entities)
  | .generate schema => do return .artifacts (← Emission.generate g schema)
  | .emitName escaping name => do return .name (← Emission.emit escaping name)

/-- The answer to a task, and the emitter after it. -/
def perform (emitter : Emitter) (task : Task) : Except Failure Answer × Emitter :=
  let (answer, state) := (stepsOf emitter.generator task).run emitter.state
  (answer, { emitter with state })

/-- The answers to tasks in order, and the emitter after them. -/
def performAll (emitter : Emitter) : List Task → List (Except Failure Answer) × Emitter
  | [] => ([], emitter)
  | task :: rest =>
      let (answer, emitter) := emitter.perform task
      let (answers, emitter) := performAll emitter rest
      (answer :: answers, emitter)

end Emitter

end EntityForge.CSharp
