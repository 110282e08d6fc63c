import EntityForge.Proofs.CSharp.SheetNodes
import EntityForge.CSharp.Generator
import Mathlib.Data.List.Basic

/-! # Settings that a generator accepts

A generator is made only from settings that pass its checks; `IsUsable` is what all of these are.
Without a template directory its templates are the built-in ones; such a generator is `IsBuiltin`.
-/

namespace EntityForge.CSharp

/-- The text of a language setting that is a type name, or of its default. -/
def typeNameSetting (s : Settings) (key default : Text) : Text :=
  ((s.custom.lookup? key).getD (.string default)).plain

/-- The base class of the context class. -/
def baseClass (s : Settings) : Text := typeNameSetting s baseClassKey (text "DbContext")

/-- The type of the options of the context class. -/
def optionsType (s : Settings) : Text :=
  typeNameSetting s optionsTypeKey (text "DbContextOptions")

/-- Settings from which a generator is made. -/
structure IsUsable (s : Settings) : Prop where
  indent_pos : 1 ≤ s.indentSize
  lineEnding : s.lineEnding = text "\n" ∨ s.lineEnding = text "\r\n"
  fileSuffix_ne : s.fileSuffix ≠ []
  configFileName_ne : s.configFileName ≠ []
  namespaceName : isDottedName s.namespaceName = true
  contextName : isFreeIdentifier s.contextName = true
  baseClass : isDottedName (baseClass s) = true
  optionsType : isDottedName (optionsType s) = true

theorem isDottedName_typeNameSetting {s : Settings} {key default : Text}
    (hDefault : isDottedName default = true) (h : typeNameProblem s.custom key = []) :
    isDottedName (typeNameSetting s key default) = true := by
  rw [typeNameSetting]
  rw [typeNameProblem] at h
  cases hValue : s.custom.lookup? key with
  | none => exact hDefault
  | some value =>
      rw [hValue] at h
      cases value with
      | null => exact (by decide : isDottedName (text "None") = true)
      | _ =>
          simp only [ite_eq_left_iff] at h
          by_contra hNot
          exact absurd (h hNot) (by simp)

theorem isUsable_of_problems {s : Settings} (hCommon : s.commonProblems = [])
    (hOwn : settingProblems s = []) : IsUsable s := by
  simp only [Settings.commonProblems, List.append_eq_nil_iff, ite_eq_right_iff, ite_eq_left_iff,
    List.cons_ne_nil, imp_false, not_not] at hCommon
  simp only [settingProblems, List.append_eq_nil_iff, ite_eq_left_iff, List.cons_ne_nil,
    imp_false, not_not] at hOwn
  obtain ⟨⟨⟨hIndent, hEnding⟩, hSuffix⟩, hFile⟩ := hCommon
  obtain ⟨⟨⟨hNamespace, hContext⟩, hBase⟩, hOptions⟩ := hOwn
  exact {
    indent_pos := by omega
    lineEnding := hEnding
    fileSuffix_ne := by simpa using hSuffix
    configFileName_ne := by simpa using hFile
    namespaceName := hNamespace
    contextName := hContext
    baseClass := isDottedName_typeNameSetting (by decide) hBase
    optionsType := isDottedName_typeNameSetting (by decide) hOptions }

section

variable {host : Host} {s : Settings} {d : Draft} {g : Generator}

/-- A generator is made exactly from settings without problems, with the engine of the host for
their templates. -/
theorem make_eq_ok_iff :
    Generator.make host s = .ok g ↔
      s.commonProblems = [] ∧ settingProblems s = [] ∧ g.settings = s ∧
        host.renderer (Generator.templatePath? s) sheets = .ok g.library := by
  cases g with
  | mk settings library =>
      cases hCommon : s.commonProblems with
      | cons problem more => simp [Generator.make, hCommon]
      | nil =>
          cases hOwn : settingProblems s with
          | cons problem more => simp [Generator.make, hCommon, hOwn]
          | nil =>
              cases hEngine : host.renderer (Generator.templatePath? s) sheets <;>
                simp [Generator.make, hCommon, hOwn, hEngine, bind, Except.bind, pure, Except.pure,
                  eq_comm]

theorem ofDraft_eq_ok_iff :
    Generator.ofDraft host d = .ok g ↔
      ∃ s, d.settings? = .ok s ∧ Generator.make host s = .ok g := by
  rw [Generator.ofDraft]
  cases d.settings? <;> simp

/-- The engine of a generator is that of the host for its templates, whose directory is there. -/
theorem renderer_eq_ok_iff {directory : Option Path} {sources : Entries Text}
    {library : Template.Renderer} :
    host.renderer directory sources = .ok library ↔
      host.machine.checkTemplates directory = .ok () ∧ host.engine directory sources = library := by
  rw [Host.renderer]
  cases host.machine.checkTemplates directory <;>
    simp [bind, Except.bind, pure, Except.pure]

/-- The settings of a generator that is made are usable, whatever its templates. -/
theorem isUsable_of_make (h : Generator.make host s = .ok g) : IsUsable g.settings := by
  obtain ⟨hCommon, hOwn, rfl, -⟩ := make_eq_ok_iff.mp h
  exact isUsable_of_problems hCommon hOwn

theorem isUsable_of_ofDraft (h : Generator.ofDraft host d = .ok g) : IsUsable g.settings := by
  obtain ⟨s, -, hMake⟩ := ofDraft_eq_ok_iff.mp h
  exact isUsable_of_make hMake

end

/-- A generator with usable settings and the built-in templates. -/
structure IsBuiltin (g : Generator) : Prop where
  isUsable : IsUsable g.settings
  library : g.library = builtinLibrary

/-- The engine of a generator with the built-in templates is forgetful. -/
theorem IsBuiltin.isForgetful {g : Generator} (h : IsBuiltin g) : g.library.IsForgetful := by
  rw [h.library]
  exact TemplateLibrary.isForgetful_of_leavesLists leavesLists_builtinLibrary

/-- Without a template directory there is none to look at. -/
theorem templatePath?_eq_none {s : Settings} (h : s.templateDir.getD [] = []) :
    Generator.templatePath? s = none := by
  rw [Generator.templatePath?]
  cases hDir : s.templateDir with
  | none => rfl
  | some name =>
      rw [hDir, Option.getD_some] at h
      rw [h]

section

variable {files : FileTree} {s : Settings} {d : Draft} {g : Generator}

theorem isBuiltin_of_make (h : Generator.make files s = .ok g)
    (hDir : g.settings.templateDir.getD [] = []) : IsBuiltin g := by
  have hUsable := isUsable_of_make h
  obtain ⟨-, -, rfl, hEngine⟩ := make_eq_ok_iff.mp h
  rw [templatePath?_eq_none hDir, renderer_eq_ok_iff] at hEngine
  exact ⟨hUsable, hEngine.2.symm⟩

/-- A generator that is made without a template directory has usable settings and the built-in
templates. -/
theorem isBuiltin_of_ofDraft (h : Generator.ofDraft files d = .ok g)
    (hDir : g.settings.templateDir.getD [] = []) : IsBuiltin g := by
  obtain ⟨s, -, hMake⟩ := ofDraft_eq_ok_iff.mp h
  exact isBuiltin_of_make hMake hDir

end

/-! ### Generating with a forgetful engine -/

namespace Generator

variable {g : Generator}

/-- A named text, laid out. -/
def artifactOf (g : Generator) (entry : Text × Text) : Artifact := ⟨entry.1, g.format entry.2⟩

theorem mapM_entityArtifact (g : Generator) (entities : List Entity) :
    entities.mapM g.entityArtifact = (do
      let codes ← entities.mapM g.entityCode
      return ((entities.map g.entityArtifactName).zip codes).map g.artifactOf) := by
  induction entities with
  | nil => rfl
  | cons e rest ih =>
      rw [List.mapM_cons, List.mapM_cons, ih, entityArtifact]
      cases g.entityCode e with
      | error failure => rfl
      | ok code => cases rest.mapM g.entityCode <;> rfl

/-- With a forgetful engine, every artifact of a schema is made on its own. -/
theorem generate_of_isForgetful (h : g.library.IsForgetful) (schema : Schema) :
    g.generate schema = (do
      let artifacts ← schema.entities.mapM g.entityArtifact
      let context ← g.contextArtifact schema.entities
      return artifacts ++ [context]) := by
  have hCodes : g.library.renderAll (callsOf g.settings schema) = (do
      let codes ← schema.entities.mapM g.entityCode
      let code ← g.contextCode schema.entities
      return codes ++ [code]) := by
    rw [h.renderAll_eq, callsOf, List.mapM_append, List.mapM_map]
    refine congrArg _ (funext fun codes => ?_)
    rw [List.mapM_cons, List.mapM_nil, bind_assoc]
    rfl
  rw [generate, hCodes, mapM_entityArtifact, artifactNames, contextArtifact]
  cases hEntities : schema.entities.mapM g.entityCode with
  | error failure => rfl
  | ok codes =>
      have hLength : (schema.entities.map g.entityArtifactName).length = codes.length := by
        rw [List.length_map, length_of_mapM_eq_ok hEntities]
      cases g.contextCode schema.entities with
      | error failure => rfl
      | ok code =>
          simp only [bind, Except.bind, pure, Except.pure, List.zip_append hLength, List.map_append]
          rfl

end Generator

/-! ### Making a generator -/

theorem settings?_toDraft (s : Settings) : s.toDraft.settings? = .ok s := by
  have hKinds : Settings.kindProblems s.toDraft.entries = [] := by
    cases s with
    | mk outputDir _ _ _ _ _ _ _ _ _ _ templateDir _ =>
        cases outputDir <;> cases templateDir <;> rfl
  rw [Draft.settings?, hKinds]
  simp only [Settings.coerce_toDraft]

/-- Settings without problems and without a template directory make a generator. -/
theorem ofDraft_toDraft {s : Settings} (files : FileTree) (hDir : s.templateDir = none)
    (hCommon : s.commonProblems = []) (hOwn : settingProblems s = []) :
    Generator.ofDraft files s.toDraft = .ok ⟨s, builtinLibrary⟩ := by
  have hPath : Generator.templatePath? s = none := templatePath?_eq_none (by rw [hDir]; rfl)
  refine ofDraft_eq_ok_iff.mpr ⟨s, settings?_toDraft s, make_eq_ok_iff.mpr ⟨hCommon, hOwn, rfl, ?_⟩⟩
  rw [hPath]
  rfl

end EntityForge.CSharp
