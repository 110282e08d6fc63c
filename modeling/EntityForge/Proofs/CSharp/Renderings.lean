import EntityForge.Proofs.Breaking
import EntityForge.Proofs.CSharp.Checked
import EntityForge.Proofs.Template.Engine

/-! # How generation breaks down

If all types are in order and the indentation can be laid out, generation is a walk over the calls
of its engine (`generate_eq_renderAll`): one for each entity, then one for the context.  So it
breaks down with the first call that the engine has no text for, if the engine has a cause for that
which nobody foresees.  Else it breaks down for the indentation, before the first call.
-/

namespace EntityForge.CSharp

open Generator Template

variable {g : Generator} {schema : Schema}

/-- The generation of a schema breaks down: the indentation cannot be laid out, or the engine breaks
off at a call after it has answered all calls before. -/
inductive GenerationBreaks (g : Generator) (schema : Schema) : Breakdown → Prop
  | indent {fault : Settings.IndentFault} (hIndent : g.settings.indentFault? = some fault) :
      GenerationBreaks g schema (.indent fault)
  | engine {before after : List Call} {call : Call} {cause : Breakdown}
      (hIndent : g.settings.indentFault? = none)
      (hSplit : callsFor g.settings schema.entities = before ++ call :: after)
      (hBefore : g.library.Manages before)
      (hAnswer : g.library.answer before call = .error (.other cause)) :
      GenerationBreaks g schema cause

/-- An indentation that cannot be laid out is found before the first call. -/
theorem generate_of_indentFault (hTypes : ∀ e ∈ schema.entities, entityFault? g.settings e = none)
    {fault : Settings.IndentFault} (hIndent : g.settings.indentFault? = some fault) :
    g.generate schema = .error (.breakdown (.indent fault)) := by
  have hFailure : indentFailure? g.settings = some (.breakdown (.indent fault)) := by
    rw [indentFailure?, hIndent, Option.map_some]
  have hFirst : ∃ rest,
      callsOf g.settings schema = .error (.breakdown (.indent fault)) :: rest := by
    rw [callsOf, contextCall_eq, hFailure, unlessFault_some]
    cases hEntities : schema.entities with
    | nil => exact ⟨_, rfl⟩
    | cons e rest =>
        rw [List.map_cons, entityCall_eq, hTypes e (by simp [hEntities]), hFailure, Option.none_or,
          unlessFault_some]
        exact ⟨_, rfl⟩
  obtain ⟨rest, hCalls⟩ := hFirst
  rw [generate, hCalls]
  rfl

/-- What the engine gives is laid out under the names of the artifacts. -/
theorem generate_eq_renderAll (hTypes : ∀ e ∈ schema.entities, entityFault? g.settings e = none)
    (hIndent : g.settings.indentFault? = none) :
    g.generate schema = (do
      let codes ← g.library.renderAll ((callsFor g.settings schema.entities).map .ok)
      return ((g.artifactNames schema).zip codes).map fun (name, code) =>
        ⟨name, g.format code⟩) := by
  rw [generate, callsOf_of_types hTypes hIndent]

/-- Only a cause that nobody foresees breaks a rendering off. -/
theorem family?_of_engineFault (name : Text) (fault : EngineFault) :
    (fault.failure name).family?.isSome = true ∨
      ∃ cause, fault = .other cause ∧ fault.failure name = .breakdown cause := by
  cases fault with
  | other cause => exact .inr ⟨cause, rfl, rfl⟩
  | _ => exact .inl rfl

theorem breaksFor_generate (hTypes : ∀ e ∈ schema.entities, entityFault? g.settings e = none) :
    BreaksFor (g.generate schema) (GenerationBreaks g schema) := by
  cases hIndent : g.settings.indentFault? with
  | some fault =>
      rw [generate_of_indentFault hTypes hIndent]
      refine (breaksFor_error _).congr fun cause => ⟨?_, fun h => ?_⟩
      · rintro rfl
        exact .indent hIndent
      · cases h with
        | indent hFault => rw [Option.some.inj (hIndent.symm.trans hFault)]
        | engine hNone => simp [hIndent] at hNone
  | none =>
      rw [generate_eq_renderAll hTypes hIndent]
      have hCalls : BreaksFor (g.library.renderAll ((callsFor g.settings schema.entities).map .ok))
          (GenerationBreaks g schema) := by
        refine ⟨fun cause => ?_, fun failure hFailure => ?_⟩
        · rw [Renderer.renderAll_eq_error_iff]
          constructor
          · rintro ⟨before, call, after, fault, hSplit, hBefore, hAnswer, hFailure⟩
            cases fault with
            | other other =>
                cases hFailure
                exact .engine hIndent hSplit hBefore hAnswer
            | _ => cases hFailure
          · intro h
            cases h with
            | indent hFault => simp [hIndent] at hFault
            | engine _ hSplit hBefore hAnswer =>
                exact ⟨_, _, _, _, hSplit, hBefore, hAnswer, rfl⟩
        · obtain ⟨_, call, _, fault, -, -, -, rfl⟩ :=
            Renderer.renderAll_eq_error_iff.mp hFailure
          exact (family?_of_engineFault call.name fault).imp_right fun ⟨cause, _, h⟩ => ⟨cause, h⟩
      exact hCalls.bind_ok fun codes _ => isSteady_ok _

end EntityForge.CSharp
