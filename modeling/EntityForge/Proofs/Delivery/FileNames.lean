import EntityForge.Proofs.Delivery.Atomicity

/-! # Artifacts as files

Artifacts become files, and there are file systems on which names that differ in case only are the
same.  The check compares the names of entities without regard to case, so their artifacts never
meet there.  The name of the context class is compared as it stands, and its artifact goes into the
same directory: all artifacts have names of their own exactly if no entity is named like the context
class apart from case (`nodup_folded_names_iff`).

The end of the names is the same for all artifacts.  Folding goes code point by code point
(`Text.fold_append`), so it plays no part in the comparison.
-/

namespace EntityForge

theorem Text.fold_append (a b : Text) : (a ++ b).fold = a.fold ++ b.fold := List.flatMap_append

namespace CSharp

/-- The names of all artifacts of a schema, that of the context last. -/
def artifactNames (g : Generator) (schema : Schema) : List Text :=
  schema.entities.map g.entityArtifactName ++ [g.contextArtifactName]

variable {g : Generator} {schema : Schema} {warnings : List SchemaWarning}

theorem fold_entityArtifactName (e : Entity) :
    (g.entityArtifactName e).fold = e.name.fold ++ g.settings.fileSuffix.fold :=
  Text.fold_append _ _

theorem fold_contextArtifactName :
    g.contextArtifactName.fold = g.settings.contextName.fold ++ g.settings.fileSuffix.fold :=
  Text.fold_append _ _

/-- No two entities of a schema that passes the check have the same name apart from case. -/
theorem nodup_folded_entities (hCheck : g.check schema = .ok warnings) :
    (schema.entities.map fun e => e.name.fold).Nodup := by
  have hDuplicates := (checkSchema_eq_ok_iff.mp hCheck).1
  simp only [duplicateNames, List.append_eq_nil_iff, List.map_eq_nil_iff,
    repeated_eq_nil_iff, Schema.names, List.map_map] at hDuplicates
  exact hDuplicates.1.1

/-- The artifacts of the entities of a schema that passes the check have different names, whatever
the case. -/
theorem nodup_folded_entityNames (hCheck : g.check schema = .ok warnings) :
    (schema.entities.map fun e => (g.entityArtifactName e).fold).Nodup := by
  have hSuffix : (schema.entities.map fun e => (g.entityArtifactName e).fold) =
      (schema.entities.map fun e => e.name.fold).map (· ++ g.settings.fileSuffix.fold) := by
    simp only [List.map_map, fold_entityArtifactName, Function.comp_def]
  rw [hSuffix]
  exact (nodup_folded_entities hCheck).map fun _ _ h => List.append_cancel_right h

/-- The artifacts of a schema that passes the check have different names, whatever the case, exactly
if no entity is named like the context class apart from case.  Those of the entities alone always
have. -/
theorem nodup_folded_names_iff (hCheck : g.check schema = .ok warnings) :
    (schema.entities.map fun e => (g.entityArtifactName e).fold).Nodup ∧
      (((artifactNames g schema).map Text.fold).Nodup ↔
        ∀ e ∈ schema.entities, e.name.fold ≠ g.settings.contextName.fold) ∧
      ∀ artifacts, g.generate schema = .ok artifacts →
        artifacts.map Artifact.name = artifactNames g schema := by
  have hEntities := nodup_folded_entityNames hCheck
  refine ⟨hEntities, ?_, fun artifacts hGenerate => names_of_generate hGenerate⟩
  have hFolded : (artifactNames g schema).map Text.fold =
      (schema.entities.map fun e => (g.entityArtifactName e).fold) ++
        [g.contextArtifactName.fold] := by
    simp only [artifactNames, List.map_append, List.map_map, List.map_singleton, Function.comp_def]
  have hSame : ∀ e : Entity, (g.entityArtifactName e).fold = g.contextArtifactName.fold ↔
      e.name.fold = g.settings.contextName.fold := by
    intro e
    rw [fold_entityArtifactName, fold_contextArtifactName]
    exact ⟨List.append_cancel_right, fun h => by rw [h]⟩
  rw [hFolded, List.nodup_append]
  constructor
  · rintro ⟨-, -, hApart⟩ e he hName
    exact hApart _ (List.mem_map_of_mem he) _ List.mem_cons_self ((hSame e).mpr hName)
  · intro hNames
    refine ⟨hEntities, List.nodup_singleton _, ?_⟩
    intro name hName other hOther hEqual
    obtain ⟨e, he, rfl⟩ := List.mem_map.mp hName
    rw [List.mem_singleton.mp hOther] at hEqual
    exact hNames e he ((hSame e).mp hEqual)

/-- A schema with an entity that is written with a sharp s. -/
def streetSchema : Schema := ⟨[⟨text "Straße", text "Streets", []⟩, ⟨text "Ort", text "Towns", []⟩]⟩

/-- The schema passes the check for a context class with another name, and its artifacts have
different names, whatever the case. -/
theorem nodup_folded_names_iff_streetSchema :
    Generator.check ⟨{ contextName := text "STRASSEN" }, builtinLibrary⟩ streetSchema =
        .ok [.noProperties (text "Straße"), .noProperties (text "Ort")] ∧
      ((artifactNames ⟨{ contextName := text "STRASSEN" }, builtinLibrary⟩ streetSchema).map
        Text.fold).Nodup := by
  have hCheck : Generator.check ⟨{ contextName := text "STRASSEN" }, builtinLibrary⟩ streetSchema =
      .ok [.noProperties (text "Straße"), .noProperties (text "Ort")] := rfl
  exact ⟨hCheck, (nodup_folded_names_iff hCheck).2.1.mpr (by decide +kernel)⟩

/-- A schema with an entity that is named like the context class in lower case. -/
def lowerContextSchema : Schema := ⟨[⟨text "generateddbcontext", text "Items", []⟩]⟩

/-- The schema passes the check with the standard settings, and two of its artifacts have the same
name apart from case. -/
theorem folded_names_collide_lowerContextSchema :
    Generator.ofDraft {} ({} : Settings).toDraft = .ok ⟨{}, builtinLibrary⟩ ∧
      Generator.check ⟨{}, builtinLibrary⟩ lowerContextSchema =
        .ok [.noProperties (text "generateddbcontext")] ∧
      ∃ artifacts, Generator.generate ⟨{}, builtinLibrary⟩ lowerContextSchema = .ok artifacts ∧
        ¬ (artifacts.map fun a => a.name.fold).Nodup := by
  have hMake : Generator.ofDraft {} ({} : Settings).toDraft = .ok ⟨{}, builtinLibrary⟩ :=
    ofDraft_toDraft {} rfl rfl rfl
  have hCheck : Generator.check ⟨{}, builtinLibrary⟩ lowerContextSchema =
      .ok [.noProperties (text "generateddbcontext")] := rfl
  have hGenerate : Generator.generate ⟨{}, builtinLibrary⟩ lowerContextSchema =
      .ok (pages ⟨{}, builtinLibrary⟩ lowerContextSchema.entities) :=
    generate_eq (isBuiltin_of_ofDraft hMake rfl) (checkSchema_eq_ok_iff.mp hCheck).2.1
  have hFolded : ((pages ⟨{}, builtinLibrary⟩ lowerContextSchema.entities).map
      fun a => a.name.fold) =
        [(text "generateddbcontext.g.cs").fold, (text "GeneratedDbContext.g.cs").fold] := rfl
  refine ⟨hMake, hCheck, _, hGenerate, ?_⟩
  rw [hFolded]
  decide +kernel

end CSharp

end EntityForge
