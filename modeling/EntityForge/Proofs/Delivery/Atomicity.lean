import EntityForge.Proofs.Delivery.Emission
import EntityForge.Proofs.Repeated

/-! # Runs that fail

A run fails before anything is delivered or while its artifacts are delivered one by one.  The
artifacts of a run have different names, so delivery to a sink that collects them can only stop at
a name which the sink received before the run.  `deliver_error_iff` says which runs fail and what
becomes of the sink: it keeps the artifacts in front of that name.
-/

namespace EntityForge

/-! ### Delivery to a collecting sink -/

namespace Sink

/-- A collecting sink with more artifacts. -/
def extend (sink : Sink (List Artifact)) (more : List Artifact) : Sink (List Artifact) :=
  ⟨sink.delivered ++ more.map Artifact.name, sink.state ++ more⟩

variable {sink : Sink (List Artifact)} {artifacts front back : List Artifact} {a : Artifact}

@[simp]
theorem extend_nil : sink.extend [] = sink := by simp [extend]

theorem extend_eq_self_iff : sink.extend front = sink ↔ front = [] := by
  constructor
  · intro h
    have hState : sink.state ++ front = sink.state := congrArg Sink.state h
    simpa using hState
  · rintro rfl
    exact extend_nil

theorem extend_append : (sink.extend front).extend back = sink.extend (front ++ back) := by
  simp [extend]

/-- One step: an artifact with a new name is kept. -/
theorem add_of_notMem (h : a.name ∉ sink.delivered) :
    sink.add Medium.list a = (sink.extend [a], none) := by
  simp [add, h, Medium.list, extend]

theorem add_of_mem (h : a.name ∈ sink.delivered) :
    sink.add Medium.list a = (sink, some (.delivery (.deliveredTwice a.name))) := by
  simp [add, h]

/-- Artifacts with different names that are all new are all kept. -/
theorem addAll_append (hNodup : ((front ++ back).map Artifact.name).Nodup)
    (hNew : ∀ b ∈ front, b.name ∉ sink.delivered) :
    sink.addAll Medium.list (front ++ back) = (sink.extend front).addAll Medium.list back := by
  induction front generalizing sink with
  | nil => simp
  | cons b rest ih =>
      simp only [List.cons_append, List.map_cons, List.nodup_cons] at hNodup
      have hRest : ∀ c ∈ rest, c.name ∉ (sink.extend [b]).delivered := by
        intro c hc hDelivered
        rcases List.mem_append.mp hDelivered with hOld | hSame
        · exact hNew c (List.mem_cons_of_mem _ hc) hOld
        · have hName : c.name = b.name := by simpa using hSame
          exact hNodup.1 (List.mem_map.mpr ⟨c, List.mem_append_left _ hc, hName⟩)
      rw [List.cons_append, addAll, add_of_notMem (hNew b List.mem_cons_self)]
      simp only []
      rw [ih hNodup.2 hRest, extend_append]
      rfl

theorem addAll_of_new (hNodup : (artifacts.map Artifact.name).Nodup)
    (hNew : ∀ b ∈ artifacts, b.name ∉ sink.delivered) :
    sink.addAll Medium.list artifacts = (sink.extend artifacts, none) := by
  rw [← List.append_nil artifacts] at hNodup
  have hAll := addAll_append hNodup hNew
  rwa [List.append_nil] at hAll

/-- Delivery stops at the first artifact whose name was there before, and keeps those in front. -/
theorem addAll_of_mem (hNodup : ((front ++ a :: back).map Artifact.name).Nodup)
    (hNew : ∀ b ∈ front, b.name ∉ sink.delivered) (hOld : a.name ∈ sink.delivered) :
    sink.addAll Medium.list (front ++ a :: back) =
      (sink.extend front, some (.delivery (.deliveredTwice a.name))) := by
  have hKept : a.name ∈ (sink.extend front).delivered := List.mem_append_left _ hOld
  rw [addAll_append hNodup hNew, addAll, add_of_mem hKept]

/-- Delivery fails exactly at a name that was there before. -/
theorem addAll_eq_some_iff (hNodup : (artifacts.map Artifact.name).Nodup)
    {sink' : Sink (List Artifact)} {failure : Failure} :
    sink.addAll Medium.list artifacts = (sink', some failure) ↔
      ∃ front a back, artifacts = front ++ a :: back ∧ (∀ b ∈ front, b.name ∉ sink.delivered) ∧
        a.name ∈ sink.delivered ∧ failure = .delivery (.deliveredTwice a.name) ∧
        sink' = sink.extend front := by
  constructor
  · intro h
    cases hFirst : artifacts.find? fun b => b.name ∈ sink.delivered with
    | none =>
        have hNew : ∀ b ∈ artifacts, b.name ∉ sink.delivered := by
          simpa using List.find?_eq_none.mp hFirst
        rw [addAll_of_new hNodup hNew] at h
        cases h
    | some a =>
        obtain ⟨hOld, front, back, rfl, hFront⟩ := List.find?_eq_some_iff_append.mp hFirst
        have hNew : ∀ b ∈ front, b.name ∉ sink.delivered := by simpa using hFront
        have hKept : a.name ∈ sink.delivered := by simpa using hOld
        rw [addAll_of_mem hNodup hNew hKept] at h
        cases h
        exact ⟨front, a, back, rfl, hNew, hKept, rfl, rfl⟩
  · rintro ⟨front, a, back, rfl, hNew, hOld, rfl, rfl⟩
    exact addAll_of_mem hNodup hNew hOld

end Sink

/-! ### Names of artifacts -/

namespace CSharp

variable {g : Generator} {schema : Schema}

theorem names_of_generate {artifacts : List Artifact} (h : g.generate schema = .ok artifacts) :
    artifacts.map Artifact.name =
      schema.entities.map g.entityArtifactName ++ [g.contextArtifactName] := by
  obtain ⟨codes, hCodes, hArtifacts⟩ := bind_eq_ok_iff.mp h
  cases hArtifacts
  have hLength : (g.artifactNames schema).length ≤ codes.length := by
    rw [Template.Renderer.length_of_renderAll hCodes]
    simp [Generator.artifactNames, Generator.callsOf]
  rw [← Generator.artifactNames, List.map_map]
  exact List.map_fst_zip hLength

/-- The artifacts of a schema that passes the check have different names. -/
theorem nodup_names_of_generate {warnings : List SchemaWarning} {artifacts : List Artifact}
    (hCheck : g.check schema = .ok warnings) (h : g.generate schema = .ok artifacts) :
    (artifacts.map Artifact.name).Nodup := by
  have hDuplicates := (checkSchema_eq_ok_iff.mp hCheck).1
  simp only [duplicateNames, List.append_eq_nil_iff, List.map_eq_nil_iff,
    repeated_eq_nil_iff] at hDuplicates
  have hNames : schema.names.Nodup := hDuplicates.1.1.of_map
  rw [names_of_generate h, List.nodup_append]
  refine ⟨?_, by simp, ?_⟩
  · -- a name determines the entity name before the suffix
    have hSuffix : schema.entities.map g.entityArtifactName =
        schema.names.map (· ++ g.settings.fileSuffix) := by
      simp [Schema.names, Generator.entityArtifactName]
    rw [hSuffix]
    exact hNames.map fun _ _ he => List.append_cancel_right he
  · intro name hEntity context hContext
    obtain ⟨e, he, rfl⟩ := List.mem_map.mp hEntity
    rw [List.mem_singleton.mp hContext]
    intro hSame
    exact (isNamedWell_of_checkSchema hCheck e he).name_ne (List.append_cancel_right hSame)

end CSharp

namespace Run

/-! ### Failing runs -/

/-- What a run is about to deliver, if it comes that far. -/
def readied (r : Registry) (host : Host) (signal : CancelSignal) (request : Request) :
    Except Failure GenerationResult :=
  match generate r host signal request with
  | .error failure => .error failure
  | .ok result =>
      match GenerationResult.failure? result with
      | some failure => .error failure
      | none => (signal.check (deliveryCheckpoint result.artifacts)).map fun _ => result

variable {r : Registry} {host : Host} {signal : CancelSignal} {request : Request}

/-- A run gets ready and then delivers. -/
theorem deliver_eq {σ : Type} (medium : Medium σ) (sink : Sink σ) :
    deliver medium r host signal request sink =
      match readied r host signal request with
      | .error failure => (sink, .error failure)
      | .ok result =>
          match sink.addAll medium result.artifacts with
          | (sink, none) => (sink, .ok result)
          | (sink, some failure) => (sink, .error failure) := by
  rw [deliver, readied]
  cases generate r host signal request with
  | error failure => rfl
  | ok result =>
      cases hFailure : GenerationResult.failure? result with
      | some failure => simp only [hFailure]
      | none =>
          cases hSignal : signal.check (deliveryCheckpoint result.artifacts) with
          | error failure => simp only [hFailure, hSignal, Except.map]
          | ok _ =>
              cases hAdd : sink.addAll medium result.artifacts with
              | mk given failed =>
                  cases failed <;> simp only [hFailure, hSignal, hAdd, Except.map]

/-- A failure that is reported in a result is raised again before delivery. -/
theorem readied_of_produce_error {failure : Failure}
    (h : produce r host signal request = .error failure) :
    readied r host signal request = .error failure := by
  rw [readied, generate, h]
  cases hReported : failure.isReported with
  | false => simp only [hReported, Bool.false_eq_true, if_false]
  | true =>
      simp only [hReported, if_true, GenerationResult.failure?, GenerationResult.failed,
        Option.bind_some]

theorem readied_of_produce {result : GenerationResult}
    (h : produce r host signal request = .ok result) :
    readied r host signal request =
      (signal.check (deliveryCheckpoint result.artifacts)).map fun _ => result := by
  rw [readied, generate, h]
  simp only [GenerationResult.failure?, error_eq_none_of_produce h, Option.bind_none]

theorem produce_of_readied {result : GenerationResult}
    (h : readied r host signal request = .ok result) :
    produce r host signal request = .ok result := by
  cases hProduce : produce r host signal request with
  | error failure =>
      rw [readied_of_produce_error hProduce] at h
      cases h
  | ok produced =>
      rw [readied_of_produce hProduce] at h
      cases hSignal : signal.check (deliveryCheckpoint produced.artifacts) with
      | error failure =>
          rw [hSignal] at h
          cases h
      | ok _ =>
          rw [hSignal] at h
          exact congrArg Except.ok (Except.ok.inj h)

/-- A run over a schema that passes the check comes to deliver its pages. -/
theorem readied_of_check {g : CSharp.Generator} {schema : Schema} {warnings : List SchemaWarning}
    (hg : CSharp.IsBuiltin g)
    (hCreate : r.create host request.language request.settings = .ok g)
    (hLoad : Schema.load request.document = .ok (some schema))
    (hCheck : g.check schema = .ok warnings) (hIndent : g.settings.indentFault? = none) :
    readied r host CancelSignal.never request = .ok (pagesResult g schema warnings) := by
  rw [readied, generate_of_check hg hCreate hLoad hCheck, CSharp.indentFailure?, hIndent]
  rfl

/-- What a run gives is nothing, or what a generator makes of a schema that passes the check. -/
theorem generate_of_artifactsOf {g : CSharp.Generator} {document : Option Text}
    {given : List Artifact × List SchemaWarning}
    (h : artifactsOf g signal document = .ok given) :
    given.1 = [] ∨ ∃ schema warnings, g.check schema = .ok warnings ∧
      g.generate schema = .ok given.1 := by
  simp only [artifactsOf, bind, Except.bind, pure, Except.pure] at h
  split at h
  · cases h
  · split at h
    · cases h
    · split at h
      · cases h
        exact .inl rfl
      · next schema _ =>
          split at h
          · cases h
          · next warnings hCheck =>
              split at h
              · cases h
              · next hGenerate =>
                  split at h
                  · cases h
                  · cases h
                    exact .inr ⟨schema, warnings, hCheck, hGenerate⟩

theorem nodup_names_of_artifactsOf {g : CSharp.Generator} {document : Option Text}
    {given : List Artifact × List SchemaWarning}
    (h : artifactsOf g signal document = .ok given) : (given.1.map Artifact.name).Nodup := by
  rcases generate_of_artifactsOf h with hNone | ⟨schema, warnings, hCheck, hGenerate⟩
  · rw [hNone]
    exact List.nodup_nil
  · exact CSharp.nodup_names_of_generate hCheck hGenerate

/-- The artifacts that a run is about to deliver have different names. -/
theorem nodup_names_of_readied {result : GenerationResult}
    (h : readied r host signal request = .ok result) :
    (result.artifacts.map Artifact.name).Nodup := by
  have hProduce := produce_of_readied h
  simp only [produce, bind, Except.bind, pure, Except.pure] at hProduce
  split at hProduce
  · cases hProduce
  · split at hProduce
    · cases hProduce
    · next hGiven =>
        cases hProduce
        exact nodup_names_of_artifactsOf hGiven

/-- A run fails before delivery or in it. -/
theorem deliver_eq_error_iff {σ : Type} {medium : Medium σ} {sink sink' : Sink σ}
    {failure : Failure} :
    deliver medium r host signal request sink = (sink', .error failure) ↔
      (readied r host signal request = .error failure ∧ sink' = sink) ∨
      ∃ result, readied r host signal request = .ok result ∧
        sink.addAll medium result.artifacts = (sink', some failure) := by
  rw [deliver_eq]
  cases readied r host signal request with
  | error fault =>
      simp only [Prod.mk.injEq, Except.error.injEq, reduceCtorEq, false_and, exists_false, or_false]
      exact ⟨fun h => ⟨h.2, h.1.symm⟩, fun h => ⟨h.2.symm, h.1⟩⟩
  | ok result =>
      cases hAdd : sink.addAll medium result.artifacts with
      | mk given failed => cases failed <;> simp [hAdd]

/-- Which runs fail on a collecting sink, how, and what becomes of the sink: a run fails before
delivery, and the sink stays as it was; or it comes to an artifact whose name the sink received
before the run, and the sink keeps the artifacts in front of it. So the sink stays as it was
exactly if there are none in front. -/
theorem deliver_error_iff {sink sink' : Sink (List Artifact)} {failure : Failure} :
    deliver Medium.list r host signal request sink = (sink', .error failure) ↔
      (readied r host signal request = .error failure ∧ sink' = sink) ∨
      ∃ result front a back, readied r host signal request = .ok result ∧
        result.artifacts = front ++ a :: back ∧ (∀ b ∈ front, b.name ∉ sink.delivered) ∧
        a.name ∈ sink.delivered ∧ failure = .delivery (.deliveredTwice a.name) ∧
        sink' = sink.extend front ∧ (sink' = sink ↔ front = []) := by
  rw [deliver_eq_error_iff]
  refine or_congr_right ⟨?_, ?_⟩
  · rintro ⟨result, hReady, hAdd⟩
    obtain ⟨front, a, back, hSplit, hNew, hOld, hFailure, hSink⟩ :=
      (Sink.addAll_eq_some_iff (nodup_names_of_readied hReady)).mp hAdd
    exact ⟨result, front, a, back, hReady, hSplit, hNew, hOld, hFailure, hSink,
      hSink ▸ Sink.extend_eq_self_iff⟩
  · rintro ⟨result, front, a, back, hReady, hSplit, hNew, hOld, hFailure, hSink, -⟩
    exact ⟨result, hReady, (Sink.addAll_eq_some_iff (nodup_names_of_readied hReady)).mpr
      ⟨front, a, back, hSplit, hNew, hOld, hFailure, hSink⟩⟩

/-! ### A sink that is used again -/

/-- A document that declares two entities. -/
def pairDocument : Text :=
  text "\x7b\"entities\":[\x7b\"name\":\"A\",\"tableName\":\"As\"\x7d," ++
    text "\x7b\"name\":\"B\",\"tableName\":\"Bs\"\x7d]\x7d"

/-- The schema of the document. -/
def pairSchema : Schema := ⟨[⟨text "A", text "As", []⟩, ⟨text "B", text "Bs", []⟩]⟩

theorem load_pairDocument : Schema.load (some pairDocument) = .ok (some pairSchema) := by
  cbv

/-- A sink that received an artifact with the name of the second one of a run. -/
def usedSink : Sink (List Artifact) :=
  (Sink.add Medium.list { state := [] } ⟨text "B.g.cs", text "x"⟩).1

/-- The run over the document fails on that sink and leaves the first artifact in it. -/
theorem deliver_pairDocument_usedSink :
    ∃ sink, deliver Medium.list Registry.builtin {} CancelSignal.never
        { document := some pairDocument } usedSink =
          (sink, .error (.delivery (.deliveredTwice (text "B.g.cs")))) ∧
      usedSink.delivered = [text "B.g.cs"] ∧
      sink.delivered = [text "B.g.cs", text "A.g.cs"] ∧ sink ≠ usedSink := by
  let g : CSharp.Generator := ⟨standardSettings, CSharp.builtinLibrary⟩
  have hCreate : Registry.builtin.create {} (text "csharp") .default = .ok g := rfl
  have hCheck : g.check pairSchema = .ok [.noProperties (text "A"), .noProperties (text "B")] := rfl
  obtain ⟨d, hMake⟩ := ofDraft_of_create hCreate
  have hReady : readied Registry.builtin {} CancelSignal.never { document := some pairDocument } =
      .ok (pagesResult g pairSchema [.noProperties (text "A"), .noProperties (text "B")]) :=
    readied_of_check (CSharp.isBuiltin_of_ofDraft hMake rfl) hCreate load_pairDocument hCheck rfl
  have hNodup := nodup_names_of_readied hReady
  have hSplit : CSharp.pages g pairSchema.entities =
      [CSharp.entityPage g ⟨text "A", text "As", []⟩] ++
        CSharp.entityPage g ⟨text "B", text "Bs", []⟩ ::
          [CSharp.contextPage g pairSchema.entities] := rfl
  have hAdd : usedSink.addAll Medium.list (CSharp.pages g pairSchema.entities) =
      (usedSink.extend [CSharp.entityPage g ⟨text "A", text "As", []⟩],
        some (.delivery (.deliveredTwice (text "B.g.cs")))) := by
    simp only [pagesResult, hSplit] at hNodup ⊢
    exact Sink.addAll_of_mem hNodup (by decide) (by decide)
  refine ⟨_, deliver_eq_error_iff.mpr (.inr ⟨_, hReady, hAdd⟩), rfl, rfl, ?_⟩
  exact fun h => absurd (Sink.extend_eq_self_iff.mp h) (by simp)

end Run

end EntityForge
