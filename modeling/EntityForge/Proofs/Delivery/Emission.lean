import EntityForge.Delivery.Run
import EntityForge.Proofs.CSharp.PageLayout
import EntityForge.Proofs.Later
import EntityForge.Proofs.Schema.Shape
import Mathlib

/-! # What a run gives

A run that nobody cancels either finds no schema, or a schema that does not pass the check, or one
that does.  The check asks for the type of every property just as the generator does, so a schema
that passes is generated in full: an artifact for every entity and one for the context.  The one
thing that no check looks at is whether the indentation can be laid out.
-/

namespace EntityForge.Run

open CSharp

/-- The figures of a run with so many entities and artifacts. -/
def figures (entityCount artifactCount : Nat) : Entries Value := [
  (text "language", .string CSharp.languageName),
  (text "file_extension", .string CSharp.fileExtension),
  (text "entity_count", .int entityCount),
  (text "artifact_count", .int artifactCount)]

theorem metadataOf_eq (artifacts : List Artifact) :
    metadataOf artifacts = figures (artifacts.length - 1) artifacts.length := by
  rw [metadataOf, List.length_dropLast, figures]

/-- A result that holds all that a schema gives: the artifact of every entity in order, then that
of the context, the warnings of the check, and figures that say so. -/
structure IsComplete (g : Generator) (schema : Schema) (warnings : List SchemaWarning)
    (result : GenerationResult) : Prop where
  isSuccess : result.error = none
  length : result.artifacts.length = schema.entities.length + 1
  entity : ∀ (i : Nat) (e : Entity), schema.entities[i]? = some e →
    ∃ code, g.entityCode e = .ok code ∧
      result.artifacts[i]? = some (Artifact.mk (e.name ++ g.settings.fileSuffix) (g.format code))
  context : ∃ code, g.contextCode schema.entities = .ok code ∧
    result.artifacts[schema.entities.length]? =
      some (Artifact.mk (g.settings.contextName ++ g.settings.fileSuffix) (g.format code))
  warnings : result.warnings = warnings.map SchemaWarning.message
  metadata : result.metadata = figures schema.entities.length (schema.entities.length + 1)

theorem ofDraft_of_create {r : Registry} {host : Host} {language : Text}
    {source : SettingsSource} {g : Generator} (h : r.create host language source = .ok g) :
    ∃ d, Generator.ofDraft host d = .ok g := by
  simp only [Registry.create, bind, Except.bind] at h
  split at h
  · cases h
  · split at h
    · cases h
    · next draft _ =>
        split at h
        · exact ⟨draft, h⟩
        · cases h

theorem isBuiltin_of_create {r : Registry} {files : FileTree} {language : Text}
    {source : SettingsSource} {g : Generator} (h : r.create files language source = .ok g)
    (hDir : g.settings.templateDir.getD [] = []) : IsBuiltin g :=
  let ⟨_, hMake⟩ := ofDraft_of_create h
  isBuiltin_of_ofDraft hMake hDir

section

variable {r : Registry} {host : Host} {signal : CancelSignal} {request : Request}
  {document : Option Text} {g : Generator} {schema : Schema}

/-- A run whose generator can be made is about what the generator makes of the document. -/
theorem produce_eq (hCreate : r.create host request.language request.settings = .ok g) :
    produce r host signal request =
      (artifactsOf g signal request.document).map fun given =>
        { artifacts := given.1, warnings := given.2.map SchemaWarning.message,
          metadata := metadataOf given.1 } := by
  simp only [produce, hCreate, bind, Except.bind]
  cases artifactsOf g signal request.document <;> rfl

/-- What a run produces is no failure. -/
theorem error_eq_none_of_produce {result : GenerationResult}
    (h : produce r host signal request = .ok result) : result.error = none := by
  simp only [produce, bind, Except.bind, pure, Except.pure] at h
  split at h
  · cases h
  · split at h
    · cases h
    · cases h
      rfl

theorem check_never (k : Nat) : CancelSignal.never.check k = .ok () := rfl

theorem artifactsOf_of_none (hLoad : Schema.load document = .ok none) :
    artifactsOf g CancelSignal.never document = .ok ([], []) := by
  rw [artifactsOf, hLoad]
  rfl

/-- A run over a schema fails with the check, and otherwise gives what the generator gives. -/
theorem artifactsOf_of_some (hLoad : Schema.load document = .ok (some schema)) :
    artifactsOf g CancelSignal.never document = do
      let warnings ← g.check schema
      let artifacts ← g.generate schema
      return (artifacts, warnings) := by
  simp only [artifactsOf, hLoad, check_never, Except.mapError, bind, Except.bind]

/-- A run over a schema that passes the check gives its pages, unless the indentation cannot be laid
out. -/
theorem artifactsOf_of_check {warnings : List SchemaWarning} (hg : IsBuiltin g)
    (hLoad : Schema.load document = .ok (some schema)) (hCheck : g.check schema = .ok warnings) :
    artifactsOf g CancelSignal.never document =
      unlessFault (indentFailure? g.settings) (pages g schema.entities, warnings) := by
  rw [artifactsOf_of_some hLoad, hCheck, generate_eq hg (checkSchema_eq_ok_iff.mp hCheck).2.1]
  exact unlessFault_bind_ok rfl

/-- The result that holds the pages of a schema. -/
def pagesResult (g : Generator) (schema : Schema) (warnings : List SchemaWarning) :
    GenerationResult where
  artifacts := pages g schema.entities
  warnings := warnings.map SchemaWarning.message
  metadata := metadataOf (pages g schema.entities)

theorem generate_of_check {warnings : List SchemaWarning} (hg : IsBuiltin g)
    (hCreate : r.create host request.language request.settings = .ok g)
    (hLoad : Schema.load request.document = .ok (some schema))
    (hCheck : g.check schema = .ok warnings) :
    generate r host CancelSignal.never request =
      unlessFault (indentFailure? g.settings) (pagesResult g schema warnings) := by
  rw [generate, produce_eq hCreate, artifactsOf_of_check hg hLoad hCheck, indentFailure?]
  cases g.settings.indentFault? <;> rfl

/-- The pages of a schema are all that it gives. -/
theorem isComplete_pages {warnings : List SchemaWarning} (hg : IsBuiltin g)
    (hTypes : ∀ e ∈ schema.entities, entityFault? g.settings e = none)
    (hIndent : g.settings.indentFault? = none) :
    IsComplete g schema warnings (pagesResult g schema warnings) := by
  have hFailure : indentFailure? g.settings = none := by rw [indentFailure?, hIndent]; rfl
  have hLength : (pages g schema.entities).length = schema.entities.length + 1 := by simp [pages]
  exact {
    isSuccess := rfl
    length := hLength
    entity := by
      intro i e he
      have hCode := entityCode_eq hg e
      rw [hTypes e (List.mem_of_getElem? he), hFailure] at hCode
      obtain ⟨hPlace, rfl⟩ := List.getElem?_eq_some_iff.mp he
      refine ⟨_, hCode, ?_⟩
      simp [pagesResult, pages, List.getElem?_append, hPlace, entityPage,
        Generator.entityArtifactName]
    context := by
      have hCode := contextCode_eq hg schema.entities
      rw [hFailure] at hCode
      refine ⟨_, hCode, ?_⟩
      simp [pagesResult, pages, contextPage, Generator.contextArtifactName]
    warnings := rfl
    metadata := by
      rw [pagesResult, metadataOf_eq, hLength]
      rfl }

end

/-! ### One entity without properties -/

/-- A document that declares one entity. -/
def singleDocument : Text :=
  text "\x7b\"entities\":[\x7b\"name\":\"A\",\"tableName\":\"As\"\x7d]\x7d"

/-- The schema of the document. -/
def singleSchema : Schema := ⟨[⟨text "A", text "As", []⟩]⟩

theorem load_singleDocument : Schema.load (some singleDocument) = .ok (some singleSchema) := by
  cbv

/-- The settings of C# when none are given. -/
def standardSettings : Settings :=
  { custom := [
      (baseClassKey, .string (text "DbContext")),
      (optionsTypeKey, .string (text "DbContextOptions"))] }

/-- The generator of C# with these settings. -/
def standardGenerator : Generator := ⟨standardSettings, builtinLibrary⟩

theorem create_standardGenerator :
    Registry.builtin.create {} (text "csharp") .default = .ok standardGenerator := by
  rfl

theorem isBuiltin_standardGenerator : IsBuiltin standardGenerator :=
  isBuiltin_of_create create_standardGenerator rfl

theorem check_singleSchema :
    standardGenerator.check singleSchema = .ok [.noProperties (text "A")] := by
  rfl

/-- Settings with a level of indentation wider than any text. -/
def wideOverrides : Entries Value := [(Setting.indentSize.label, .int Settings.countLimit)]

/-- Where lots are drawn, the class of the entity is what is drawn. -/
theorem artifactsOf_drawing {s : Settings} {warnings : List SchemaWarning}
    (hIndent : s.indentFault? = none) (hCheck : checkSchema s singleSchema = .ok warnings)
    (past : List Template.Call) :
    artifactsOf ⟨s, Drawing.engine.after past⟩ CancelSignal.never (some singleDocument) = .ok (
      [⟨text "A" ++ s.fileSuffix, Layout.format s.lineEnding (Drawing.drawn past.length)⟩,
        ⟨s.contextName ++ s.fileSuffix, Layout.format s.lineEnding []⟩], warnings) := by
  have hGenerate := Drawing.generate_eq hIndent past
  have hChecked : Generator.check ⟨s, Drawing.engine.after past⟩ singleSchema = .ok warnings :=
    hCheck
  rw [artifactsOf_of_some load_singleDocument, hChecked]
  change
    (Generator.generate _ Drawing.schema >>= fun artifacts => Except.ok (artifacts, warnings)) = _
  rw [hGenerate]
  rfl

end EntityForge.Run
