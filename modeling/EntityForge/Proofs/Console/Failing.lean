import EntityForge.Console.Program
import EntityForge.Proofs.Delivery.Escapes
import EntityForge.Proofs.Delivery.Interleaving
import Mathlib

/-! # Where the command fails

What the arguments ask for is done in stages: the language is found, the settings are loaded, the
document is obtained, the artifacts are made, they are written, and a report is printed; or the
languages are listed, or one is described.  `Fails` says at which of the stages it fails, given that
all before it are passed, and `failure?_act_eq_some_iff` that this is all there is, whatever is
around the command.
-/

namespace EntityForge.Console

open Run (produce)

variable {σ : Type} {around : Surroundings σ} {a : Arguments} {s : Settings} {language : Text}
  {document : Option Text} {failure : Failure} {cause : Breakdown}

/-! ### Printing -/

/-- Why something cannot be printed, if it cannot. -/
def printFault? (around : Surroundings σ) (item : Printed) : Option Breakdown :=
  match around.print item with
  | .ok _ => none
  | .error cause => some cause

/-- Printing stops at the first thing that cannot be printed. -/
theorem snd_printAll (items : List Printed) :
    (printAll around items).2 = items.findSome? (printFault? around) := by
  induction items with
  | nil => rfl
  | cons item rest ih =>
      rw [printAll, List.findSome?_cons, printFault?]
      cases around.print item with
      | error cause => rfl
      | ok lines => exact ih

/-- The failure of what gives a report that is printed then, if there is one. -/
def failure? (around : Surroundings σ) : Except Failure (List Printed) → Option Failure
  | .error failure => some failure
  | .ok report => (report.findSome? (printFault? around)).map .breakdown

/-! ### Stages -/

/-- The directory that the settings ask to write into, if they do. -/
def directory? (s : Settings) : Option Path :=
  match s.outputDir with
  | some (p :: rest) => some (Path.parse (p :: rest))
  | _ => none

theorem directory?_eq_some_iff {directory : Path} :
    directory? s = some directory ↔
      ∃ p rest, s.outputDir = some (p :: rest) ∧ directory = Path.parse (p :: rest) := by
  rw [directory?]
  rcases s.outputDir with _ | _ | ⟨p, rest⟩ <;> simp [eq_comm]

theorem directory?_eq_none_iff :
    directory? s = none ↔ s.outputDir = none ∨ s.outputDir = some [] := by
  rw [directory?]
  rcases s.outputDir with _ | _ | ⟨p, rest⟩ <;> simp

/-- What the command asks a run for. -/
def requestOf (language : Text) (s : Settings) (document : Option Text) : Run.Request :=
  { document, language, settings := .draft s.toDraft }

/-- The result of the run that the command asks for, if the machine takes in the document. -/
def resultOf (around : Surroundings σ) (language : Text) (s : Settings) (document : Option Text) :
    Except Failure GenerationResult :=
  match intakeFault? around.host (requestOf language s document) with
  | some cause => .error (.breakdown cause)
  | none => produce Registry.builtin around.host CancelSignal.never (requestOf language s document)

/-- The failure of writing the artifacts of a run into the directory, if there is one. -/
def writingFailure? (around : Surroundings σ) (s : Settings) (result : GenerationResult) :
    Option Failure :=
  (directory? s).bind fun directory =>
    (Sink.addAll (around.disk.medium directory) { state := around.state } result.artifacts).2

theorem deliver_never_eq {τ : Type} (medium : Medium τ) (host : Host) (request : Run.Request)
    (sink : Sink τ) :
    (Run.deliver medium Registry.builtin host CancelSignal.never request sink).2 =
      produce Registry.builtin host CancelSignal.never request >>= fun result =>
        unlessFault (sink.addAll medium result.artifacts).2 result := by
  rw [Run.deliver_eq, Run.readied_never_eq]
  cases produce Registry.builtin host CancelSignal.never request with
  | error failure => rfl
  | ok result =>
      simp only [bind, Except.bind]
      rcases sink.addAll medium result.artifacts with ⟨kept, _ | failure⟩ <;> rfl

theorem resultOf_of_none
    (h : intakeFault? around.host (requestOf language s document) = none) :
    resultOf around language s document =
      produce Registry.builtin around.host CancelSignal.never (requestOf language s document) := by
  rw [resultOf, h]

theorem snd_generateAll_of_none
    (h : intakeFault? around.host (requestOf language s document) = none) :
    (generateAll around a language s document).2 =
      produce Registry.builtin around.host CancelSignal.never (requestOf language s document) >>=
        fun result =>
          unlessFault (writingFailure? around s result) (runReport a (directory? s) result) := by
  rw [generateAll, ← requestOf, h]
  cases hDirectory : directory? s with
  | some directory =>
      obtain ⟨p, rest, hOutput, rfl⟩ := directory?_eq_some_iff.mp hDirectory
      have hDeliver := deliver_never_eq (around.disk.medium (Path.parse (p :: rest))) around.host
        (requestOf language s document) { state := around.state }
      simp only [hOutput, writingFailure?, hDirectory, Option.bind_some]
      rw [hDeliver]
      cases produce Registry.builtin around.host CancelSignal.never
          (requestOf language s document) with
      | error failure => rfl
      | ok result =>
          simp only [bind, Except.bind]
          cases (Sink.addAll (around.disk.medium (Path.parse (p :: rest)))
            { state := around.state } result.artifacts).2 <;> rfl
  | none =>
      simp only [writingFailure?, hDirectory, Option.bind_none, unlessFault_none]
      -- printing raises the failure of a result again, as delivery does before it begins
      rw [← Run.readied_never_eq, Run.readied]
      rcases directory?_eq_none_iff.mp hDirectory with hOutput | hOutput
      all_goals
        simp only [hOutput]
        cases Run.generate Registry.builtin around.host CancelSignal.never
          (requestOf language s document) with
        | error failure => rfl
        | ok result =>
            simp only [bind, Except.bind]
            cases Run.GenerationResult.failure? result <;> rfl

/-- The command runs and writes, one after the other, and makes the report then. -/
theorem snd_generateAll (around : Surroundings σ) (a : Arguments) (language : Text) (s : Settings)
    (document : Option Text) :
    (generateAll around a language s document).2 =
      resultOf around language s document >>= fun result =>
        unlessFault (writingFailure? around s result) (runReport a (directory? s) result) := by
  cases hIntake : intakeFault? around.host (requestOf language s document) with
  | some cause =>
      rw [generateAll, ← requestOf, hIntake, resultOf, hIntake]
      rfl
  | none => rw [resultOf_of_none hIntake, snd_generateAll_of_none hIntake]

/-! ### Information on languages -/

theorem create_default (host : Host) :
    Registry.builtin.create host (text "csharp") .default =
      .ok ⟨Run.standardSettings, host.engine none CSharp.sheets⟩ := by
  rfl

/-- A language that is known can be described. -/
theorem exists_info (host : Host) {primary : Text}
    (h : Registry.builtin.resolve language = .ok primary) :
    ∃ info, Registry.builtin.info host language = .ok info := by
  by_cases hKnown : language.lower ∈ Run.knownNames
  · simp only [Registry.info, Run.resolve_of_mem hKnown, Except.mapError, bind, Except.bind,
      create_default]
    exact ⟨_, rfl⟩
  · obtain ⟨fault, hFault⟩ := Run.resolve_of_not_mem hKnown
    rw [hFault] at h
    cases h

theorem languages_builtin : Registry.builtin.languages = [text "csharp"] :=
  List.mergeSort_singleton _

theorem exists_languageReport (host : Host) : ∃ report, languageReport host = .ok report := by
  obtain ⟨info, hInfo⟩ := exists_info host
    (show Registry.builtin.resolve (text "csharp") = .ok (text "csharp") from rfl)
  simp only [languageReport, languages_builtin, List.mapM_cons, List.mapM_nil, hInfo]
  exact ⟨_, rfl⟩

/-- Describing a language fails only if the language is not known. -/
theorem languageInfoReport_eq_error_iff (host : Host) :
    languageInfoReport host language = .error failure ↔
      ∃ fault, Registry.builtin.resolve language = .error fault ∧ failure = .registry fault := by
  cases hResolve : Registry.builtin.resolve language with
  | ok primary =>
      obtain ⟨info, hInfo⟩ := exists_info host hResolve
      rw [languageInfoReport, hInfo]
      exact iff_of_false (by intro h; cases h) (by simp)
  | error fault =>
      have hInfo : Registry.builtin.info host language = .error (.registry fault) := by
        rw [Registry.info, hResolve]
        rfl
      rw [languageInfoReport, hInfo]
      constructor
      · intro h
        cases h
        exact ⟨fault, rfl, rfl⟩
      · rintro ⟨_, ⟨⟩, rfl⟩
        rfl

/-! ### Failing -/

/-- The arguments ask for artifacts, and for no information on languages. -/
structure AsksForArtifacts (a : Arguments) : Prop where
  listLanguages : a.listLanguages = false
  languageInfo : a.languageInfo.getD [] = []

/-- They ask for artifacts of a language that is known. -/
structure HasLanguage (a : Arguments) (language : Text) : Prop extends AsksForArtifacts a where
  resolves : ∃ given, a.language = some given ∧ Registry.builtin.resolve given = .ok language

/-- With them, there are settings. -/
structure HasSettings (around : Surroundings σ) (a : Arguments) (language : Text) (s : Settings) :
    Prop extends HasLanguage a language where
  loads : Settings.load around.host.machine language (.object (overridesOf a)) a.config = .ok s

/-- There is a document, too: nothing is missing for the run. -/
structure IsPrepared (around : Surroundings σ) (a : Arguments) (language : Text) (s : Settings)
    (document : Option Text) : Prop extends HasSettings around a language s where
  finds : documentOf around a s = .ok document

/-- What the arguments ask for fails at a stage after all earlier ones were passed: a language that
is not known, settings, a document, a run or its writing that fails, or a report of which something
cannot be printed. -/
inductive Fails (around : Surroundings σ) (a : Arguments) : Failure → Prop
  | listing {report : List Printed} {cause : Breakdown} (hList : a.listLanguages = true)
      (hReport : languageReport around.host = .ok report)
      (hPrint : report.findSome? (printFault? around) = some cause) :
      Fails around a (.breakdown cause)
  | info {name : Text} {fault : RegistryFault} (hList : a.listLanguages = false)
      (hInfo : a.languageInfo = some name) (hName : name ≠ [])
      (hLanguage : Registry.builtin.resolve name = .error fault) : Fails around a (.registry fault)
  | describing {name : Text} {report : List Printed} {cause : Breakdown}
      (hList : a.listLanguages = false) (hInfo : a.languageInfo = some name) (hName : name ≠ [])
      (hReport : languageInfoReport around.host name = .ok report)
      (hPrint : report.findSome? (printFault? around) = some cause) :
      Fails around a (.breakdown cause)
  | noLanguage (hAsks : AsksForArtifacts a) (hNone : a.language = none) :
      Fails around a (.breakdown .noLanguage)
  | language {given : Text} {fault : RegistryFault} (hAsks : AsksForArtifacts a)
      (hGiven : a.language = some given)
      (hLanguage : Registry.builtin.resolve given = .error fault) : Fails around a (.registry fault)
  | settings {language : Text} {failure : Failure} (hLanguage : HasLanguage a language)
      (hSettings : Settings.load around.host.machine language (.object (overridesOf a)) a.config =
        .error failure) : Fails around a failure
  | document {language : Text} {s : Settings} {failure : Failure}
      (hSettings : HasSettings around a language s)
      (hDocument : documentOf around a s = .error failure) : Fails around a failure
  | generation {language : Text} {s : Settings} {document : Option Text} {failure : Failure}
      (hPrepared : IsPrepared around a language s document)
      (hResult : resultOf around language s document = .error failure) : Fails around a failure
  | writing {language : Text} {s : Settings} {document : Option Text} {result : GenerationResult}
      {failure : Failure} (hPrepared : IsPrepared around a language s document)
      (hResult : resultOf around language s document = .ok result)
      (hWriting : writingFailure? around s result = some failure) : Fails around a failure
  | report {language : Text} {s : Settings} {document : Option Text} {result : GenerationResult}
      {cause : Breakdown} (hPrepared : IsPrepared around a language s document)
      (hResult : resultOf around language s document = .ok result)
      (hWritten : writingFailure? around s result = none)
      (hPrint : (runReport a (directory? s) result).findSome? (printFault? around) = some cause) :
      Fails around a (.breakdown cause)

/-- Once all that is missing for the run is there, what the arguments ask for fails as the run, its
writing or the report on it. -/
inductive RunFails (around : Surroundings σ) (a : Arguments) (language : Text) (s : Settings)
    (document : Option Text) : Failure → Prop
  | generation {failure : Failure}
      (hResult : resultOf around language s document = .error failure) :
      RunFails around a language s document failure
  | writing {result : GenerationResult} {failure : Failure}
      (hResult : resultOf around language s document = .ok result)
      (hWriting : writingFailure? around s result = some failure) :
      RunFails around a language s document failure
  | report {result : GenerationResult} {cause : Breakdown}
      (hResult : resultOf around language s document = .ok result)
      (hWritten : writingFailure? around s result = none)
      (hPrint : (runReport a (directory? s) result).findSome? (printFault? around) = some cause) :
      RunFails around a language s document (.breakdown cause)

theorem failure?_ok_eq_some_iff {report : List Printed} :
    failure? around (.ok report) = some failure ↔
      ∃ cause, report.findSome? (printFault? around) = some cause ∧ failure = .breakdown cause := by
  rw [failure?, Option.map_eq_some_iff]
  simp only [eq_comm]

/-- A report that is made in steps fails with one of them, or with what comes after all. -/
theorem failure?_bind_eq_some_iff {α : Type} {x : Except Failure α}
    {next : α → Except Failure (List Printed)} :
    failure? around (x >>= next) = some failure ↔
      x = .error failure ∨ ∃ b, x = .ok b ∧ failure? around (next b) = some failure := by
  cases x with
  | error other => simp [bind, Except.bind, failure?]
  | ok b => simp [bind, Except.bind]

theorem failure?_generateAll_eq_some_iff :
    failure? around (generateAll around a language s document).2 = some failure ↔
      RunFails around a language s document failure := by
  rw [snd_generateAll, failure?_bind_eq_some_iff]
  constructor
  · rintro (hResult | ⟨result, hResult, hRest⟩)
    · exact .generation hResult
    cases hWriting : writingFailure? around s result with
    | some other =>
        rw [hWriting] at hRest
        cases hRest
        exact .writing hResult hWriting
    | none =>
        rw [hWriting, unlessFault_none, failure?_ok_eq_some_iff] at hRest
        obtain ⟨cause, hPrint, rfl⟩ := hRest
        exact .report hResult hWriting hPrint
  · rintro (hResult | ⟨hResult, hWriting⟩ | ⟨hResult, hWritten, hPrint⟩)
    · exact .inl hResult
    · exact .inr ⟨_, hResult, by rw [hWriting]; rfl⟩
    · refine .inr ⟨_, hResult, ?_⟩
      rw [hWritten, unlessFault_none, failure?_ok_eq_some_iff]
      exact ⟨_, hPrint, rfl⟩

theorem prepare_eq_error_iff {given : Text} :
    prepare around a given = .error failure ↔
      (∃ fault, Registry.builtin.resolve given = .error fault ∧ .registry fault = failure) ∨
        ∃ language, Registry.builtin.resolve given = .ok language ∧
          (Settings.load around.host.machine language (.object (overridesOf a)) a.config =
              .error failure ∨
            ∃ s,
              Settings.load around.host.machine language (.object (overridesOf a)) a.config =
                  .ok s ∧
                documentOf around a s = .error failure) := by
  rw [prepare, bind_eq_error_iff, mapError_eq_error_iff]
  refine or_congr_right (exists_congr fun language => ?_)
  rw [mapError_eq_ok_iff, bind_eq_error_iff]
  refine and_congr_right fun _ => or_congr_right (exists_congr fun s => and_congr_right fun _ => ?_)
  rw [bind_eq_error_iff]
  simp [pure, Except.pure]

theorem prepare_eq_ok_iff {given : Text} :
    prepare around a given = .ok (language, s, document) ↔
      Registry.builtin.resolve given = .ok language ∧
        Settings.load around.host.machine language (.object (overridesOf a)) a.config = .ok s ∧
          documentOf around a s = .ok document := by
  simp only [prepare, bind_eq_ok_iff, mapError_eq_ok_iff, pure, Except.pure, Except.ok.injEq,
    Prod.mk.injEq]
  constructor
  · rintro ⟨_, hLanguage, _, hSettings, _, hDocument, rfl, rfl, rfl⟩
    exact ⟨hLanguage, hSettings, hDocument⟩
  · rintro ⟨hLanguage, hSettings, hDocument⟩
    exact ⟨_, hLanguage, _, hSettings, _, hDocument, rfl, rfl, rfl⟩

/-! ### What the arguments ask for -/

theorem act_of_list (hList : a.listLanguages = true) :
    act around a = (around.state, languageReport around.host) := by
  rw [act, if_pos hList]

theorem act_of_info {name : Text} (hList : a.listLanguages = false)
    (hInfo : a.languageInfo = some name) (hName : name ≠ []) :
    act around a = (around.state, languageInfoReport around.host name) := by
  rw [act, if_neg (ne_true_of_eq_false hList), hInfo]
  cases name with
  | nil => exact absurd rfl hName
  | cons p rest => rfl

theorem act_of_asks (h : AsksForArtifacts a) : act around a = generateFrom around a := by
  rw [act, if_neg (ne_true_of_eq_false h.listLanguages)]
  rcases hInfo : a.languageInfo with _ | _ | ⟨p, rest⟩
  · rfl
  · rfl
  · have hNone := h.languageInfo
    rw [hInfo] at hNone
    cases hNone

theorem snd_generateFrom {given : Text} (hGiven : a.language = some given) :
    (generateFrom around a).2 = prepare around a given >>= fun prepared =>
      (generateAll around a prepared.1 prepared.2.1 prepared.2.2).2 := by
  simp only [generateFrom, hGiven]
  cases prepare around a given <;> rfl

theorem act_cases (a : Arguments) :
    a.listLanguages = true ∨ AsksForArtifacts a ∨
      a.listLanguages = false ∧ ∃ name, a.languageInfo = some name ∧ name ≠ [] := by
  cases hList : a.listLanguages with
  | true => exact .inl rfl
  | false =>
      rcases hInfo : a.languageInfo with _ | _ | ⟨p, rest⟩
      · exact .inr (.inl ⟨hList, by rw [hInfo]; rfl⟩)
      · exact .inr (.inl ⟨hList, by rw [hInfo]; rfl⟩)
      · exact .inr (.inr ⟨rfl, p :: rest, rfl, by simp⟩)

/-- Generating in a language fails before the run, or in what comes after the preparation of it. -/
theorem failure?_generateFrom_eq_some_iff {given : Text} (hGiven : a.language = some given) :
    failure? around (generateFrom around a).2 = some failure ↔
      prepare around a given = .error failure ∨
        ∃ language s document, prepare around a given = .ok (language, s, document) ∧
          RunFails around a language s document failure := by
  rw [snd_generateFrom hGiven, failure?_bind_eq_some_iff]
  simp only [failure?_generateAll_eq_some_iff, Prod.exists]

/-- Artifacts that are asked for in a language are generated, or this fails at a stage. -/
theorem fails_of_generateFrom {given : Text} (hAsks : AsksForArtifacts a)
    (hGiven : a.language = some given)
    (h : failure? around (generateFrom around a).2 = some failure) : Fails around a failure := by
  rw [failure?_generateFrom_eq_some_iff hGiven, prepare_eq_error_iff] at h
  obtain (⟨fault, hLanguage, rfl⟩ | ⟨language, hLanguage, hSettings | ⟨s, hSettings, hDocument⟩⟩) |
    ⟨language, s, document, hPrepare, hRun⟩ := h
  · exact .language hAsks hGiven hLanguage
  · exact .settings ⟨hAsks, given, hGiven, hLanguage⟩ hSettings
  · exact .document ⟨⟨hAsks, given, hGiven, hLanguage⟩, hSettings⟩ hDocument
  · obtain ⟨hLanguage, hSettings, hDocument⟩ := prepare_eq_ok_iff.mp hPrepare
    have hPrepared : IsPrepared around a language s document :=
      ⟨⟨⟨hAsks, given, hGiven, hLanguage⟩, hSettings⟩, hDocument⟩
    rcases hRun with hResult | ⟨hResult, hWriting⟩ | ⟨hResult, hWritten, hPrint⟩
    · exact .generation hPrepared hResult
    · exact .writing hPrepared hResult hWriting
    · exact .report hPrepared hResult hWritten hPrint

/-- If nothing is missing for the run, what the arguments ask for fails as it does. -/
theorem failure?_act_of_isPrepared (h : IsPrepared around a language s document)
    (hRun : RunFails around a language s document failure) :
    failure? around (act around a).2 = some failure := by
  obtain ⟨given, hGiven, hLanguage⟩ := h.resolves
  rw [act_of_asks h.toAsksForArtifacts, failure?_generateFrom_eq_some_iff hGiven]
  exact .inr ⟨language, s, document, prepare_eq_ok_iff.mpr ⟨hLanguage, h.loads, h.finds⟩, hRun⟩

theorem fails_of_failure?_act (h : failure? around (act around a).2 = some failure) :
    Fails around a failure := by
  rcases act_cases a with hList | hAsks | ⟨hList, name, hInfo, hName⟩
  · obtain ⟨report, hReport⟩ := exists_languageReport around.host
    rw [act_of_list hList, hReport, failure?_ok_eq_some_iff] at h
    obtain ⟨cause, hPrint, rfl⟩ := h
    exact .listing hList hReport hPrint
  · rw [act_of_asks hAsks] at h
    cases hGiven : a.language with
    | none =>
        rw [generateFrom, hGiven] at h
        cases h
        exact .noLanguage hAsks hGiven
    | some given => exact fails_of_generateFrom hAsks hGiven h
  · rw [act_of_info hList hInfo hName] at h
    cases hReport : languageInfoReport around.host name with
    | error other =>
        rw [hReport] at h
        cases h
        obtain ⟨fault, hLanguage, rfl⟩ := (languageInfoReport_eq_error_iff _).mp hReport
        exact .info hList hInfo hName hLanguage
    | ok report =>
        rw [hReport, failure?_ok_eq_some_iff] at h
        obtain ⟨cause, hPrint, rfl⟩ := h
        exact .describing hList hInfo hName hReport hPrint

theorem failure?_act_of_fails (h : Fails around a failure) :
    failure? around (act around a).2 = some failure := by
  cases h with
  | listing hList hReport hPrint =>
      rw [act_of_list hList, hReport, failure?_ok_eq_some_iff]
      exact ⟨_, hPrint, rfl⟩
  | info hList hInfo hName hLanguage =>
      rw [act_of_info hList hInfo hName,
        (languageInfoReport_eq_error_iff _).mpr ⟨_, hLanguage, rfl⟩]
      rfl
  | describing hList hInfo hName hReport hPrint =>
      rw [act_of_info hList hInfo hName, hReport, failure?_ok_eq_some_iff]
      exact ⟨_, hPrint, rfl⟩
  | noLanguage hAsks hNone =>
      rw [act_of_asks hAsks, generateFrom, hNone]
      rfl
  | language hAsks hGiven hLanguage =>
      rw [act_of_asks hAsks, failure?_generateFrom_eq_some_iff hGiven, prepare_eq_error_iff]
      exact .inl (.inl ⟨_, hLanguage, rfl⟩)
  | settings hLanguage hSettings =>
      obtain ⟨hAsks, given, hGiven, hResolve⟩ := hLanguage
      rw [act_of_asks hAsks, failure?_generateFrom_eq_some_iff hGiven, prepare_eq_error_iff]
      exact .inl (.inr ⟨_, hResolve, .inl hSettings⟩)
  | document hSettings hDocument =>
      obtain ⟨⟨hAsks, given, hGiven, hResolve⟩, hLoad⟩ := hSettings
      rw [act_of_asks hAsks, failure?_generateFrom_eq_some_iff hGiven, prepare_eq_error_iff]
      exact .inl (.inr ⟨_, hResolve, .inr ⟨_, hLoad, hDocument⟩⟩)
  | generation hPrepared hResult =>
      exact failure?_act_of_isPrepared hPrepared (.generation hResult)
  | writing hPrepared hResult hWriting =>
      exact failure?_act_of_isPrepared hPrepared (.writing hResult hWriting)
  | report hPrepared hResult hWritten hPrint =>
      exact failure?_act_of_isPrepared hPrepared (.report hResult hWritten hPrint)

/-- What the arguments ask for is done and printed, or fails at a stage. -/
theorem failure?_act_eq_some_iff :
    failure? around (act around a).2 = some failure ↔ Fails around a failure :=
  ⟨fails_of_failure?_act, failure?_act_of_fails⟩

/-- There is only one failure. -/
theorem Fails.unique {other : Failure} (h : Fails around a failure) (g : Fails around a other) :
    failure = other :=
  Option.some.inj
    ((failure?_act_eq_some_iff.mpr h).symm.trans (failure?_act_eq_some_iff.mpr g))

end EntityForge.Console
