import EntityForge.Proofs.CSharp.Renderings
import EntityForge.Proofs.Delivery.Emission
import EntityForge.Proofs.Settings.Clashes

/-! # What escapes from a run

A run reports its failures as its result, but not all of them.  `Escapes` is the list of what gets
past it on any host: a settings file or a template directory that cannot be looked at, a settings
file that cannot be read for a cause that nobody foresees, is no text or cannot be taken in,
settings that are refused for values that cannot be spelled out, an integer with too many digits in
a document, an indentation that cannot be laid out, and an engine that breaks off for a cause that
nobody foresees.

The run is a chain of steps, each with its own law of breaking down, and `BreaksFor.bind` puts the
laws together (`breaksFor_produce`).  Nothing else escapes (`generate_eq_error_iff`).
-/

namespace EntityForge.Run

open CSharp

variable {host : Host}

/-! ### Making a generator -/

/-- The names of the one language that the built-in registry knows. -/
def knownNames : List Text := ["csharp", "cs", "c#", "efcore"].map text

theorem resolve_of_mem {language : Text} (h : language.lower ∈ knownNames) :
    Registry.builtin.resolve language = .ok (text "csharp") := by
  simp only [knownNames, List.map_cons, List.map_nil, List.mem_cons, List.not_mem_nil,
    or_false] at h
  rcases h with h | h | h | h <;>
    · simp only [Registry.resolve, h]
      rfl

theorem resolve_of_not_mem {language : Text} (h : language.lower ∉ knownNames) :
    ∃ fault, Registry.builtin.resolve language = .error fault := by
  simp only [knownNames, List.map_cons, List.map_nil, List.mem_cons, List.not_mem_nil, or_false,
    not_or] at h
  obtain ⟨hPrimary, hShort, hSharp, hFramework⟩ := h
  refine ⟨.unknownLanguage language Registry.builtin.languages, ?_⟩
  simp [Registry.resolve, Registry.builtin, Entries.has, Entries.lookup?, Ne.symm hPrimary,
    Ne.symm hShort, Ne.symm hSharp, Ne.symm hFramework]

/-- Overrides have different names, as the members of an object have. -/
def HasDistinctNames : SettingsSource → Prop
  | .overrides given => given.names.Nodup
  | _ => True

/-- Settings break the run that asks for them: they are in a file that does, or what they merge to
is refused for values that cannot be spelled out. -/
inductive SourceBreaks (machine : Machine) (language : Text) : SettingsSource → Breakdown → Prop
  | file {name : Text} {cause : Breakdown} (hName : name ≠ [])
      (hFile : Settings.FileBreaks machine (Path.parse name) cause) :
      SourceBreaks machine language (.file name) cause
  | fileRefusal {name : Text} {fromFile : Entries Value} {cause : Breakdown}
      (hFile : Settings.fileEntries machine (some name) = .ok fromFile)
      (hMerged : Settings.MergedBreaks machine.depth language fromFile [] cause) :
      SourceBreaks machine language (.file name) cause
  | overridesRefusal {given : Entries Value} {cause : Breakdown}
      (hMerged : Settings.MergedBreaks machine.depth language [] given cause) :
      SourceBreaks machine language (.overrides given) cause

/-- The defaults of a language are never refused. -/
theorem not_mergedBreaks_defaults (depth : Option Nat) (language : Text) (cause : Breakdown) :
    ¬ Settings.MergedBreaks depth language [] [] cause := by
  rintro ⟨merged, hMerge, hRefusal⟩
  cases hMerge
  have hNone : Settings.mergedProblems (Settings.defaultsOf language) = [] := by
    rw [Settings.defaultsOf]
    split <;> rfl
  rw [hNone] at hRefusal
  exact Settings.not_refusalBreaks_nil depth cause hRefusal

theorem breaksFor_draftOf {machine : Machine} {source : SettingsSource} (language : Text)
    (hNames : HasDistinctNames source) :
    BreaksFor (Registry.draftOf machine language source)
      (SourceBreaks machine language source) := by
  have hEmpty : (Entries.names ([] : Entries Value)).Nodup := List.nodup_nil
  have hNone : Settings.fileEntries machine none = .ok [] := rfl
  cases source with
  | default =>
      have hLoad : BreaksFor (Settings.load machine language .null none) _ :=
        Settings.breaksFor_load rfl hEmpty (.inl rfl)
      refine hLoad.map.congr fun cause => iff_of_false ?_ (by rintro ⟨⟩)
      rintro (⟨_, ⟨⟩, -⟩ | ⟨fromFile, hFile, hMerged⟩)
      cases hFile
      exact not_mergedBreaks_defaults _ language cause hMerged
  | draft d => exact (isSteady_ok d).congr fun cause => iff_of_false id (by rintro ⟨⟩)
  | unsupported kind =>
      exact (isSteady_error rfl).congr fun cause => iff_of_false id (by rintro ⟨⟩)
  | overrides given =>
      have hLoad : BreaksFor (Settings.load machine language (.object given) none) _ :=
        Settings.breaksFor_load rfl hNames (.inl rfl)
      refine hLoad.map.congr fun cause => ⟨?_, ?_⟩
      · rintro (⟨_, ⟨⟩, -⟩ | ⟨fromFile, hFile, hMerged⟩)
        cases hFile
        exact .overridesRefusal hMerged
      · rintro ⟨⟩
        next hMerged => exact .inr ⟨_, hNone, hMerged⟩
  | file name =>
      have hLoad : BreaksFor (Settings.load machine language .null (some name)) _ :=
        Settings.breaksFor_load rfl hEmpty (.inr List.not_mem_nil)
      refine hLoad.map.congr fun cause => ⟨?_, ?_⟩
      · rintro (⟨_, ⟨⟩, hName, hBreaks⟩ | ⟨fromFile, hFile, hMerged⟩)
        · exact .file hName hBreaks
        · exact .fileRefusal hFile hMerged
      · rintro (⟨hName, hBreaks⟩ | ⟨hFile, hMerged⟩)
        · exact .inl ⟨name, rfl, hName, hBreaks⟩
        · exact .inr ⟨_, hFile, hMerged⟩

/-- A draft breaks the run that makes a generator of it: it is refused for values that cannot be
spelled out, or the template directory that it names cannot be looked at. -/
inductive DraftBreaks (machine : Machine) (d : Draft) : Breakdown → Prop
  | kinds {problems : List KindProblem} {cause : Breakdown} (hKinds : d.settings? = .error problems)
      (hRefusal : Settings.RefusalBreaks machine.depth (problems.map .kind) cause) :
      DraftBreaks machine d cause
  | common {s : Settings} {cause : Breakdown} (hSettings : d.settings? = .ok s)
      (hRefusal : Settings.RefusalBreaks machine.depth s.commonProblems cause) :
      DraftBreaks machine d cause
  | own {s : Settings} {cause : Breakdown} (hSettings : d.settings? = .ok s)
      (hCommon : s.commonProblems = [])
      (hRefusal : Settings.RefusalBreaks machine.depth (settingProblems s) cause) :
      DraftBreaks machine d cause
  | directory {s : Settings} {path : Path} {cause : Breakdown} (hSettings : d.settings? = .ok s)
      (hCommon : s.commonProblems = []) (hOwn : settingProblems s = [])
      (hPath : Generator.templatePath? s = some path)
      (hFault : machine.hasDirectory path = .error cause) : DraftBreaks machine d cause

theorem breaksFor_renderer (host : Host) (directory : Option Path) (sources : Entries Text) :
    BreaksFor (host.renderer directory sources) fun cause =>
      ∃ path, directory = some path ∧ host.machine.hasDirectory path = .error cause := by
  have hCheck : BreaksFor (host.machine.checkTemplates directory) fun cause =>
      ∃ path, directory = some path ∧ host.machine.hasDirectory path = .error cause := by
    cases directory with
    | none => exact (isSteady_ok _).congr fun cause => by simp
    | some path =>
        rw [Machine.checkTemplates]
        rcases hThere : host.machine.hasDirectory path with cause | isThere
        · exact (breaksFor_error _).congr fun other => by simp [hThere, eq_comm]
        · cases isThere with
          | false => exact (isSteady_error rfl).congr fun cause => by simp [hThere]
          | true => exact (isSteady_ok _).congr fun cause => by simp [hThere]
  exact hCheck.bind_ok fun _ _ => isSteady_ok _

theorem breaksFor_make (s : Settings) :
    BreaksFor (Generator.make host s) fun cause =>
      Settings.RefusalBreaks host.machine.depth s.commonProblems cause ∨
      s.commonProblems = [] ∧
        (Settings.RefusalBreaks host.machine.depth (settingProblems s) cause ∨
        settingProblems s = [] ∧ ∃ path, Generator.templatePath? s = some path ∧
          host.machine.hasDirectory path = .error cause) := by
  have hNil : ∀ cause, ¬ Settings.RefusalBreaks host.machine.depth [] cause :=
    Settings.not_refusalBreaks_nil host.machine.depth
  rw [Generator.make]
  cases hCommon : s.commonProblems with
  | cons problem rest =>
      exact (Settings.breaksFor_refused _ _ _).congr fun cause => by simp
  | nil =>
      cases hOwn : settingProblems s with
      | cons problem rest =>
          exact (Settings.breaksFor_refused _ _ _).congr fun cause => by simp [hNil]
      | nil =>
          refine ((breaksFor_renderer host _ _).bind_ok fun _ _ => isSteady_ok _).congr
            fun cause => ?_
          simp [hNil]

theorem breaksFor_ofDraft (d : Draft) :
    BreaksFor (Generator.ofDraft host d) (DraftBreaks host.machine d) := by
  rw [Generator.ofDraft]
  cases hSettings : d.settings? with
  | error problems =>
      refine (Settings.breaksFor_refused _ _ _).congr fun cause => ⟨.kinds hSettings, ?_⟩
      rintro (⟨hKinds, hRefusal⟩ | ⟨hOk, -⟩ | ⟨hOk, -⟩ | ⟨hOk, -⟩)
      · rw [hSettings, Except.error.injEq] at hKinds
        rw [hKinds]
        exact hRefusal
      all_goals simp [hSettings] at hOk
  | ok s =>
      have hSame : ∀ {s'}, d.settings? = .ok s' → s' = s := fun h =>
        (Except.ok.inj (hSettings.symm.trans h)).symm
      refine (breaksFor_make s).congr fun cause => ⟨?_, ?_⟩
      · rintro (hRefusal | ⟨hCommon, hRefusal | ⟨hOwn, path, hPath, hFault⟩⟩)
        · exact .common hSettings hRefusal
        · exact .own hSettings hCommon hRefusal
        · exact .directory hSettings hCommon hOwn hPath hFault
      · rintro (⟨hKinds, -⟩ | ⟨hOk, hRefusal⟩ | ⟨hOk, hCommon, hRefusal⟩ |
          ⟨hOk, hCommon, hOwn, hPath, hFault⟩)
        · simp [hSettings] at hKinds
        · rw [hSame hOk] at hRefusal
          exact .inl hRefusal
        · rw [hSame hOk] at hCommon hRefusal
          exact .inr ⟨hCommon, .inl hRefusal⟩
        · rw [hSame hOk] at hCommon hOwn hPath
          exact .inr ⟨hCommon, .inr ⟨hOwn, _, hPath, hFault⟩⟩

/-- A run breaks down when its generator is made: the settings break it, or the draft that they
give. -/
def CreationBreaks (machine : Machine) (source : SettingsSource) (cause : Breakdown) : Prop :=
  SourceBreaks machine (text "csharp") source cause ∨
    ∃ d, Registry.draftOf machine (text "csharp") source = .ok d ∧ DraftBreaks machine d cause

theorem breaksFor_create {language : Text} {source : SettingsSource}
    (hNames : HasDistinctNames source) :
    BreaksFor (Registry.builtin.create host language source) fun cause =>
      language.lower ∈ knownNames ∧ CreationBreaks host.machine source cause := by
  by_cases hKnown : language.lower ∈ knownNames
  · have hCreate : Registry.builtin.create host language source =
        (Registry.draftOf host.machine (text "csharp") source >>= Generator.ofDraft host) := by
      rw [Registry.create, resolve_of_mem hKnown]
      rfl
    rw [hCreate]
    refine ((breaksFor_draftOf _ hNames).bind fun d _ => breaksFor_ofDraft d).congr fun cause => ?_
    exact (and_iff_right hKnown).symm
  · obtain ⟨fault, hFault⟩ := resolve_of_not_mem hKnown
    have hCreate : Registry.builtin.create host language source = .error (.registry fault) := by
      rw [Registry.create, hFault]
      rfl
    rw [hCreate]
    exact (isSteady_error rfl).congr fun cause => by simp [hKnown]

/-! ### Making artifacts -/

/-- A document breaks the run that reads it: it has an integer with too many digits. -/
inductive DocumentBreaks : Option Text → Breakdown → Prop
  | longInteger {document : Text} {digits : Nat} (hBlank : document.isBlank = false)
      (hRead : Json.read document = .error (.longInteger digits)) :
      DocumentBreaks (some document) (.longInteger digits)

theorem breaksFor_load (document : Option Text) :
    BreaksFor ((Schema.load document).mapError .ofLoadFault) (DocumentBreaks document) := by
  cases document with
  | none => exact (isSteady_ok none).congr fun cause => iff_of_false id (by rintro ⟨⟩)
  | some document =>
      rw [Schema.load]
      by_cases hBlank : document.isBlank = true
      · rw [if_pos hBlank]
        refine (isSteady_ok none).congr fun cause => iff_of_false id ?_
        rintro ⟨hNot, _⟩
        simp [hBlank] at hNot
      · rw [if_neg hBlank]
        cases hRead : Json.read document with
        | error fault =>
            cases fault with
            | longInteger digits =>
                refine (breaksFor_error _).congr fun cause => ⟨?_, fun h => ?_⟩
                · rintro rfl
                  exact .longInteger (eq_false_of_ne_true hBlank) hRead
                · cases h with
                  | longInteger _ hFault =>
                      rw [hRead, Except.error.injEq, Json.Fault.longInteger.injEq] at hFault
                      rw [hFault]
            | malformed reason offset =>
                refine (isSteady_error rfl).congr fun cause => iff_of_false id ?_
                rintro ⟨_, hFault⟩
                simp [hRead] at hFault
        | ok value =>
            have hSteady : IsSteady (((Document.readSchema value).mapError
                Schema.LoadFault.document).mapError Failure.ofLoadFault) := by
              cases Document.readSchema value with
              | error fault => exact isSteady_error rfl
              | ok schema => exact isSteady_ok schema
            refine hSteady.congr fun cause => iff_of_false id ?_
            rintro ⟨_, hFault⟩
            simp [hRead] at hFault

/-- A run breaks down when it makes artifacts of a document: the document breaks it, or it is a
schema that passes the check and whose generation breaks down. -/
inductive ArtifactsBreak (g : Generator) (document : Option Text) : Breakdown → Prop
  | document {cause : Breakdown} (hDocument : DocumentBreaks document cause) :
      ArtifactsBreak g document cause
  | generation {schema : Schema} {warnings : List SchemaWarning} {cause : Breakdown}
      (hLoad : Schema.load document = .ok (some schema)) (hCheck : g.check schema = .ok warnings)
      (hGeneration : GenerationBreaks g schema cause) : ArtifactsBreak g document cause

/-- The artifacts and warnings of a schema; none if there is no schema. -/
def artifactsOfSchema (g : Generator) (signal : CancelSignal) :
    Option Schema → Except Failure (List Artifact × List SchemaWarning)
  | none => return ([], [])
  | some schema => do
      let warnings ← g.check schema
      let artifacts ← g.generate schema
      signal.check 2
      return (artifacts, warnings)

theorem breaksFor_artifactsOfSchema (g : Generator) (signal : CancelSignal)
    (found : Option Schema) :
    BreaksFor (artifactsOfSchema g signal found) fun cause => ∃ schema warnings,
      found = some schema ∧ g.check schema = .ok warnings ∧ GenerationBreaks g schema cause := by
  cases found with
  | none => exact (isSteady_ok _).congr fun cause => by simp
  | some schema =>
      have hCheck : IsSteady (g.check schema) :=
        isSteady_of_isReported fun _ h => isReported_of_checkSchema h
      have hSecond : IsSteady (signal.check 2) := by
        rw [CancelSignal.check]
        split
        · exact isSteady_error rfl
        · exact isSteady_ok ()
      refine (hCheck.ok_bind fun warnings hPassed =>
        (breaksFor_generate (checkSchema_eq_ok_iff.mp hPassed).2.1).bind_ok fun artifacts _ =>
          hSecond.bind_ok fun _ _ => isSteady_ok (artifacts, warnings)).congr fun cause => ?_
      simp

theorem breaksFor_artifactsOf (g : Generator) (signal : CancelSignal) (document : Option Text) :
    BreaksFor (artifactsOf g signal document) fun cause =>
      signal 1 = false ∧ ArtifactsBreak g document cause := by
  cases hSignal : signal 1 with
  | true =>
      have hCancelled : artifactsOf g signal document = .error (.delivery .cancelled) := by
        simp only [artifactsOf, CancelSignal.check, hSignal, if_true]
        rfl
      rw [hCancelled]
      exact (isSteady_error rfl).congr fun cause => by simp
  | false =>
      have hGiven : artifactsOf g signal document =
          ((Schema.load document).mapError .ofLoadFault >>= artifactsOfSchema g signal) := by
        simp only [artifactsOf, CancelSignal.check, hSignal, Bool.false_eq_true, if_false]
        rfl
      rw [hGiven]
      refine ((breaksFor_load document).bind fun found _ =>
        breaksFor_artifactsOfSchema g signal found).congr fun cause => ?_
      rw [and_iff_right rfl]
      constructor
      · rintro (hDocument | ⟨found, hFound, schema, warnings, rfl, hCheck, hGeneration⟩)
        · exact .document hDocument
        · exact .generation (mapError_eq_ok_iff.mp hFound) hCheck hGeneration
      · rintro (hDocument | ⟨hLoad, hCheck, hGeneration⟩)
        · exact .inl hDocument
        · exact .inr ⟨_, mapError_eq_ok_iff.mpr hLoad, _, _, rfl, hCheck, hGeneration⟩

/-! ### The run -/

/-- What escapes from a run: what breaks the making of its generator, and what breaks the making of
artifacts unless the run is cancelled before. -/
inductive Escapes (host : Host) (signal : CancelSignal) (request : Request) :
    Breakdown → Prop
  | creation {cause : Breakdown} (hLanguage : request.language.lower ∈ knownNames)
      (hCreation : CreationBreaks host.machine request.settings cause) :
      Escapes host signal request cause
  | artifacts {g : Generator} {cause : Breakdown}
      (hCreate : Registry.builtin.create host request.language request.settings = .ok g)
      (hSignal : signal 1 = false) (hArtifacts : ArtifactsBreak g request.document cause) :
      Escapes host signal request cause

theorem breaksFor_produce {signal : CancelSignal} {request : Request}
    (hNames : HasDistinctNames request.settings) :
    BreaksFor (produce Registry.builtin host signal request) (Escapes host signal request) := by
  have hProduce : produce Registry.builtin host signal request =
      (Registry.builtin.create host request.language request.settings >>= fun g =>
        (artifactsOf g signal request.document).map fun given =>
          { artifacts := given.1, warnings := given.2.map SchemaWarning.message,
            metadata := metadataOf given.1 }) := by
    cases hCreate : Registry.builtin.create host request.language request.settings with
    | error failure =>
        rw [produce, hCreate]
        rfl
    | ok g =>
        rw [produce_eq hCreate]
        rfl
  rw [hProduce]
  refine ((breaksFor_create hNames).bind fun g _ =>
    (breaksFor_artifactsOf g signal request.document).map).congr fun cause => ?_
  constructor
  · rintro (⟨hLanguage, hCreation⟩ | ⟨g, hCreate, hSignal, hBreaks⟩)
    · exact .creation hLanguage hCreation
    · exact .artifacts hCreate hSignal hBreaks
  · rintro (⟨hLanguage, hCreation⟩ | ⟨hCreate, hSignal, hBreaks⟩)
    · exact .inl ⟨hLanguage, hCreation⟩
    · exact .inr ⟨_, hCreate, hSignal, hBreaks⟩

/-- Overrides with a level of indentation wider than any text. -/
def tallOverrides : Entries Value := [
  (Setting.addHeader.label, .bool true), (Setting.indentSize.label, .int Settings.countLimit)]

/-- A settings file that holds one byte, which is no text. -/
def brokenFile : FileTree := ⟨[(⟨0, [text "c.json"]⟩, .file [0xff])]⟩

end EntityForge.Run
