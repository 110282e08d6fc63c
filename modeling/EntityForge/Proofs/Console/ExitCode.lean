import EntityForge.Proofs.Console.Failing
import EntityForge.Proofs.Delivery.Writing
import EntityForge.Proofs.Source.Breaking
import Mathlib

/-! # How the command ends

The command answers failures that are foreseen with a message and ends with code 1.  What is not
foreseen gets past it and leaves it without a code.  `Breaks` lists by cause how what the arguments
ask for can break down, stage by stage (`fails_breakdown_iff`): the laws of the settings, the
sources of documents, their intake, the run, the writing and the printing are put together here.
`Escapes` adds what goes wrong around that, before the first stage and in printing the message on a
failure; nothing else keeps the command from ending with code 0 or 1, whatever is around it
(`exit_code_iff`).
-/

namespace EntityForge.Console

variable {σ : Type} {around : Surroundings σ} {a : Arguments} {s : Settings} {language : Text}
  {document : Option Text} {result : GenerationResult} {failure : Failure} {cause : Breakdown}

/-! ### Settings and documents -/

/-- Each override is given at most once, and there are no language settings among them. -/
theorem names_overridesOf (a : Arguments) :
    (overridesOf a).names.Sublist ([Setting.namespaceName.label] ++ [Setting.contextName.label] ++
      [Setting.strictTypes.label] ++ [Setting.escapeKeywords.label] ++ [Setting.addHeader.label] ++
      [Setting.outputDir.label]) := by
  simp only [overridesOf, Entries.names, List.map_append]
  -- each part holds one override or none
  refine .append (.append (.append (.append (.append ?_ ?_) ?_) ?_) ?_) ?_
  all_goals split <;> simp

theorem load_eq_breakdown_iff {machine : Machine} :
    Settings.load machine language (.object (overridesOf a)) a.config =
        .error (.breakdown cause) ↔
      (∃ name, a.config = some name ∧ name ≠ [] ∧
        Settings.FileBreaks machine (Path.parse name) cause) ∨
      ∃ fromFile, Settings.fileEntries machine a.config = .ok fromFile ∧
        Settings.MergedBreaks machine.depth language fromFile (overridesOf a) cause := by
  have hNodup : (overridesOf a).names.Nodup := (names_overridesOf a).nodup (by decide)
  have hCustom : Setting.custom.label ∉ (overridesOf a).names := by
    intro hMem
    exact absurd ((names_overridesOf a).subset hMem) (by decide)
  exact (Settings.breaksFor_load rfl hNodup (.inr hCustom)).breakdown_iff cause

/-- The directory of a project. -/
def projectPath (directory : Text) : Path :=
  Path.parse (if directory.isEmpty then text "." else directory)

theorem projectDocument_eq_breakdown_iff {machine : Machine} {directory ending : Text} :
    projectDocument machine directory ending = .error (.breakdown cause) ↔
      Source.ProjectBreaks machine (projectPath directory) ending cause := by
  rw [projectDocument, bind_eq_error_iff, Source.findFile_eq_breakdown_iff]
  constructor
  · rintro ((hDirectory | ⟨hDirectory, hSearch⟩) | ⟨found, hFound, hDocument⟩)
    · exact .directory hDirectory
    · exact .search hDirectory hSearch
    · cases found with
      | none => cases hDocument
      | some path =>
          rw [bind_eq_error_iff, Source.ofFile_eq_breakdown_iff] at hDocument
          obtain hFile | ⟨_, -, hNone⟩ := hDocument
          · exact .document hFound hFile
          · cases hNone
  · rintro (hDirectory | ⟨hDirectory, hSearch⟩ | ⟨hFound, hFile⟩)
    · exact .inl (.inl hDirectory)
    · exact .inl (.inr ⟨hDirectory, hSearch⟩)
    · refine .inr ⟨_, hFound, ?_⟩
      rw [bind_eq_error_iff, Source.ofFile_eq_breakdown_iff]
      exact .inl hFile

/-- Getting the document breaks down with the file, the address or the project that it comes from.
What is read from the input cannot break down. -/
def DocumentBreaks (around : Surroundings σ) (a : Arguments) (s : Settings) (cause : Breakdown) :
    Prop :=
  match a.source with
  | some (.file (p :: name)) =>
      Source.FileBreaks around.host.machine (Path.parse (p :: name)) cause
  | some (.url (p :: url)) => Source.AddressBreaks (p :: url) (around.respond (p :: url)) cause
  | some .input => False
  | some (.project directory) =>
      Source.ProjectBreaks around.host.machine (projectPath directory) s.configFileName cause
  | _ => Source.ProjectBreaks around.host.machine (projectPath []) s.configFileName cause

theorem documentOf_eq_breakdown_iff :
    documentOf around a s = .error (.breakdown cause) ↔ DocumentBreaks around a s cause := by
  rw [documentOf, DocumentBreaks]
  rcases a.source with _ | (_ | ⟨p, name⟩) | directory | (_ | ⟨p, url⟩) | _
  · exact projectDocument_eq_breakdown_iff
  · exact projectDocument_eq_breakdown_iff
  · exact map_eq_error_iff.trans Source.ofFile_eq_breakdown_iff
  · exact projectDocument_eq_breakdown_iff
  · exact projectDocument_eq_breakdown_iff
  · exact map_eq_error_iff.trans Source.fetch_eq_breakdown_iff
  · simp

/-! ### Writing -/

theorem nodup_names_of_resultOf (h : resultOf around language s document = .ok result) :
    (result.artifacts.map Artifact.name).Nodup := by
  rw [resultOf] at h
  split at h
  · cases h
  · rw [← Run.readied_never_eq] at h
    exact Run.nodup_names_of_readied h

theorem writingFailure?_eq_breakdown_iff
    (h : resultOf around language s document = .ok result) :
    writingFailure? around s result = some (.breakdown cause) ↔
      ∃ directory, directory? s = some directory ∧
        around.disk.WritingBreaks directory around.state result.artifacts cause := by
  rw [writingFailure?, Option.bind_eq_some_iff]
  refine exists_congr fun directory => and_congr_right fun _ => ?_
  exact Disk.addAll_eq_breakdown_iff (nodup_names_of_resultOf h) fun _ _ => List.not_mem_nil

/-! ### Breaking down -/

/-- The machine breaks off taking in the document of a request: there is a generator for it, and the
document is not blank. -/
def IntakeBreaks (host : Host) (request : Run.Request) (cause : Breakdown) : Prop :=
  ∃ document g, request.document = some document ∧
    Registry.builtin.create host request.language request.settings = .ok g ∧
    document.isBlank = false ∧ host.machine.takesIn document = .error cause

theorem intakeFault?_eq_some_iff {host : Host} {request : Run.Request} :
    intakeFault? host request = some cause ↔ IntakeBreaks host request cause := by
  rw [intakeFault?, IntakeBreaks]
  cases hDocument : request.document with
  | none => simp
  | some document =>
      cases hCreate : Registry.builtin.create host request.language request.settings with
      | error failure => simp
      | ok g =>
          cases hBlank : document.isBlank <;> cases hTakes : host.machine.takesIn document <;>
            simp [hBlank, hTakes]

/-- Why what the arguments ask for breaks down: the language is missing, the settings file breaks
down, or what it is merged to is refused for values that cannot be spelled out, the source of the
document, its intake, the run or the writing breaks down, or something that is reported cannot be
printed. -/
inductive Breaks (around : Surroundings σ) (a : Arguments) : Breakdown → Prop
  | listing {report : List Printed} {cause : Breakdown} (hList : a.listLanguages = true)
      (hReport : languageReport around.host = .ok report)
      (hPrint : report.findSome? (printFault? around) = some cause) : Breaks around a cause
  | describing {name : Text} {report : List Printed} {cause : Breakdown}
      (hList : a.listLanguages = false) (hInfo : a.languageInfo = some name) (hName : name ≠ [])
      (hReport : languageInfoReport around.host name = .ok report)
      (hPrint : report.findSome? (printFault? around) = some cause) : Breaks around a cause
  | noLanguage (hAsks : AsksForArtifacts a) (hNone : a.language = none) :
      Breaks around a .noLanguage
  | settings {language name : Text} {cause : Breakdown} (hLanguage : HasLanguage a language)
      (hConfig : a.config = some name) (hName : name ≠ [])
      (hFile : Settings.FileBreaks around.host.machine (Path.parse name) cause) :
      Breaks around a cause
  | refusal {language : Text} {fromFile : Entries Value} {cause : Breakdown}
      (hLanguage : HasLanguage a language)
      (hFile : Settings.fileEntries around.host.machine a.config = .ok fromFile)
      (hMerged : Settings.MergedBreaks around.host.machine.depth language fromFile (overridesOf a)
        cause) : Breaks around a cause
  | document {language : Text} {s : Settings} {cause : Breakdown}
      (hSettings : HasSettings around a language s) (hDocument : DocumentBreaks around a s cause) :
      Breaks around a cause
  | intake {language : Text} {s : Settings} {document : Option Text} {cause : Breakdown}
      (hPrepared : IsPrepared around a language s document)
      (hIntake : IntakeBreaks around.host (requestOf language s document) cause) :
      Breaks around a cause
  | generation {language : Text} {s : Settings} {document : Option Text} {cause : Breakdown}
      (hPrepared : IsPrepared around a language s document)
      (hIntake : ∀ other, ¬ IntakeBreaks around.host (requestOf language s document) other)
      (hRun : Run.Escapes around.host CancelSignal.never (requestOf language s document) cause) :
      Breaks around a cause
  | writing {language : Text} {s : Settings} {document : Option Text} {result : GenerationResult}
      {directory : Path} {cause : Breakdown} (hPrepared : IsPrepared around a language s document)
      (hResult : resultOf around language s document = .ok result)
      (hDirectory : directory? s = some directory)
      (hWriting : around.disk.WritingBreaks directory around.state result.artifacts cause) :
      Breaks around a cause
  | report {language : Text} {s : Settings} {document : Option Text} {result : GenerationResult}
      {cause : Breakdown} (hPrepared : IsPrepared around a language s document)
      (hResult : resultOf around language s document = .ok result)
      (hWritten : writingFailure? around s result = none)
      (hPrint : (runReport a (directory? s) result).findSome? (printFault? around) = some cause) :
      Breaks around a cause

theorem resultOf_eq_breakdown_iff :
    resultOf around language s document = .error (.breakdown cause) ↔
      IntakeBreaks around.host (requestOf language s document) cause ∨
        (∀ other, ¬ IntakeBreaks around.host (requestOf language s document) other) ∧
          Run.Escapes around.host CancelSignal.never (requestOf language s document) cause := by
  have hNames : Run.HasDistinctNames (requestOf language s document).settings := trivial
  simp only [← intakeFault?_eq_some_iff]
  cases hIntake : intakeFault? around.host (requestOf language s document) with
  | some fault => simp [resultOf, hIntake]
  | none =>
      rw [resultOf_of_none hIntake, (Run.breaksFor_produce hNames).breakdown_iff]
      simp

/-- The failures that are breakdowns, by their causes. -/
theorem fails_breakdown_iff : Fails around a (.breakdown cause) ↔ Breaks around a cause := by
  constructor
  · intro h
    cases h with
    | listing hList hReport hPrint => exact .listing hList hReport hPrint
    | describing hList hInfo hName hReport hPrint =>
        exact .describing hList hInfo hName hReport hPrint
    | noLanguage hAsks hNone => exact .noLanguage hAsks hNone
    | settings hLanguage hSettings =>
        rcases load_eq_breakdown_iff.mp hSettings with ⟨name, hConfig, hName, hFile⟩ |
          ⟨fromFile, hFile, hMerged⟩
        · exact .settings hLanguage hConfig hName hFile
        · exact .refusal hLanguage hFile hMerged
    | document hSettings hDocument =>
        exact .document hSettings (documentOf_eq_breakdown_iff.mp hDocument)
    | generation hPrepared hResult =>
        rcases resultOf_eq_breakdown_iff.mp hResult with hIntake | ⟨hIntake, hRun⟩
        · exact .intake hPrepared hIntake
        · exact .generation hPrepared hIntake hRun
    | writing hPrepared hResult hWriting =>
        obtain ⟨directory, hDirectory, hBreaks⟩ :=
          (writingFailure?_eq_breakdown_iff hResult).mp hWriting
        exact .writing hPrepared hResult hDirectory hBreaks
    | report hPrepared hResult hWritten hPrint =>
        exact .report hPrepared hResult hWritten hPrint
  · intro h
    cases h with
    | listing hList hReport hPrint => exact .listing hList hReport hPrint
    | describing hList hInfo hName hReport hPrint =>
        exact .describing hList hInfo hName hReport hPrint
    | noLanguage hAsks hNone => exact .noLanguage hAsks hNone
    | settings hLanguage hConfig hName hFile =>
        exact .settings hLanguage (load_eq_breakdown_iff.mpr (.inl ⟨_, hConfig, hName, hFile⟩))
    | refusal hLanguage hFile hMerged =>
        exact .settings hLanguage (load_eq_breakdown_iff.mpr (.inr ⟨_, hFile, hMerged⟩))
    | document hSettings hDocument =>
        exact .document hSettings (documentOf_eq_breakdown_iff.mpr hDocument)
    | intake hPrepared hIntake =>
        exact .generation hPrepared (resultOf_eq_breakdown_iff.mpr (.inl hIntake))
    | generation hPrepared hIntake hRun =>
        exact .generation hPrepared (resultOf_eq_breakdown_iff.mpr (.inr ⟨hIntake, hRun⟩))
    | writing hPrepared hResult hDirectory hWriting =>
        exact .writing hPrepared hResult
          ((writingFailure?_eq_breakdown_iff hResult).mpr ⟨_, hDirectory, hWriting⟩)
    | report hPrepared hResult hWritten hPrint =>
        exact .report hPrepared hResult hWritten hPrint

/-! ### The exit code -/

/-- What escapes from the command: a log level that is missing, a breakdown that is not answered
with a message, and what keeps the message on a failure from being printed. -/
inductive Escapes (around : Surroundings σ) (a : Arguments) : Breakdown → Prop
  | noLogLevel (hLevel : a.logLevel = none) : Escapes around a .noLogLevel
  | breakdown {cause : Breakdown} (hLevel : a.logLevel ≠ none) (hBreaks : Breaks around a cause)
      (hHandled : (Failure.breakdown cause).isHandled = false) : Escapes around a cause
  | message {failure : Failure} {cause : Breakdown} (hLevel : a.logLevel ≠ none)
      (hFails : Fails around a failure) (hHandled : failure.isHandled = true)
      (hPrint : printFault? around (errorMessage failure) = some cause) : Escapes around a cause

theorem exists_breakdown_of_not_isHandled (h : failure.isHandled = false) :
    ∃ cause, failure = .breakdown cause := by
  cases failure with
  | breakdown cause => exact ⟨cause, rfl⟩
  | _ => cases h

/-- Nothing escapes if all is done. -/
theorem not_escapes_of_not_fails (hLevel : a.logLevel ≠ none)
    (hNone : ∀ failure, ¬ Fails around a failure) : ¬ Escapes around a cause := by
  rintro (hMissing | ⟨-, hBreaks, -⟩ | ⟨-, hFails, -, -⟩)
  · exact hLevel hMissing
  · exact hNone _ (fails_breakdown_iff.mpr hBreaks)
  · exact hNone _ hFails

/-- What escapes if something fails: the failure itself, or what keeps the message on it from being
printed. -/
theorem escapes_iff_of_fails (hLevel : a.logLevel ≠ none) (hFails : Fails around a failure) :
    Escapes around a cause ↔
      (failure.isHandled = false ∧ failure = .breakdown cause) ∨
        failure.isHandled = true ∧ printFault? around (errorMessage failure) = some cause := by
  constructor
  · rintro (hMissing | ⟨-, hBreaks, hHandled⟩ | ⟨-, hOther, hHandled, hPrint⟩)
    · exact absurd hMissing hLevel
    · rw [hFails.unique (fails_breakdown_iff.mpr hBreaks)]
      exact .inl ⟨hHandled, rfl⟩
    · rw [hFails.unique hOther]
      exact .inr ⟨hHandled, hPrint⟩
  · rintro (⟨hHandled, rfl⟩ | ⟨hHandled, hPrint⟩)
    · exact .breakdown hLevel (fails_breakdown_iff.mp hFails) hHandled
    · exact .message hLevel hFails hHandled hPrint

/-- Without a log level only this escapes. -/
theorem escapes_iff_of_noLogLevel (hLevel : a.logLevel = none) :
    Escapes around a cause ↔ cause = .noLogLevel := by
  constructor
  · rintro (- | ⟨hGiven, -, -⟩ | ⟨hGiven, -, -, -⟩)
    · rfl
    · exact absurd hLevel hGiven
    · exact absurd hLevel hGiven
  · rintro rfl
    exact .noLogLevel hLevel

theorem finish_of_not_isHandled (state : σ) (lines : List Text) (h : failure.isHandled = false) :
    finish around state lines failure = .error failure := by
  simp only [finish, h, Bool.false_eq_true, if_false]

/-- A failure that is handled ends the command with code 1, if the message on it can be printed. -/
theorem finish_of_isHandled (around : Surroundings σ) (state : σ) (lines : List Text)
    (h : failure.isHandled = true) :
    ∃ more, finish around state lines failure =
      unlessFault ((printFault? around (errorMessage failure)).map .breakdown)
        ⟨1, lines ++ more, state⟩ := by
  simp only [finish, h, if_true, printFault?]
  cases around.print (errorMessage failure) with
  | error cause => exact ⟨[], rfl⟩
  | ok more => exact ⟨more, rfl⟩

/-- What the command gives when something fails. -/
theorem finish_eq_error_iff {other : Failure} (state : σ) (lines : List Text)
    (hLevel : a.logLevel ≠ none) (hFails : Fails around a failure) :
    finish around state lines failure = .error other ↔
      ∃ cause, other = .breakdown cause ∧ Escapes around a cause := by
  simp only [escapes_iff_of_fails hLevel hFails]
  cases hHandled : failure.isHandled with
  | false =>
      obtain ⟨cause, rfl⟩ := exists_breakdown_of_not_isHandled hHandled
      rw [finish_of_not_isHandled state lines hHandled]
      simp [eq_comm]
  | true =>
      obtain ⟨more, hFinish⟩ := finish_of_isHandled around state lines hHandled
      rw [hFinish, unlessFault_eq_error_iff, Option.map_eq_some_iff]
      constructor
      · rintro ⟨cause, hPrint, rfl⟩
        exact ⟨cause, rfl, .inr ⟨rfl, hPrint⟩⟩
      · rintro ⟨cause, rfl, ⟨⟨⟩, -⟩ | ⟨-, hPrint⟩⟩
        exact ⟨cause, hPrint, rfl⟩

theorem code_of_finish {state : σ} {lines : List Text} {outcome : Outcome σ}
    (h : finish around state lines failure = .ok outcome) : outcome.code = 1 := by
  cases hHandled : failure.isHandled with
  | false =>
      rw [finish_of_not_isHandled state lines hHandled] at h
      cases h
  | true =>
      obtain ⟨more, hFinish⟩ := finish_of_isHandled around state lines hHandled
      rw [hFinish] at h
      rw [← (unlessFault_eq_ok_iff.mp h).2]

/-- The command does what the arguments ask for, prints, and ends after it. -/
theorem perform_cases (around : Surroundings σ) (a : Arguments) :
    (∃ failure state lines, Fails around a failure ∧
      perform around a = finish around state lines failure) ∨
    ∃ state lines, (∀ failure, ¬ Fails around a failure) ∧
      perform around a = .ok ⟨0, lines, state⟩ := by
  have hFailure : ∀ failure, failure? around (act around a).2 = some failure →
      Fails around a failure := fun _ => failure?_act_eq_some_iff.mp
  rw [perform]
  rcases hAct : act around a with ⟨state, failure | report⟩
  · exact .inl ⟨failure, state, [], hFailure failure (by rw [hAct]; rfl), rfl⟩
  · dsimp only
    have hFault : (printAll around report).2 = report.findSome? (printFault? around) :=
      snd_printAll report
    rcases hPrint : printAll around report with ⟨lines, _ | cause⟩
    · refine .inr ⟨state, lines, fun failure hFails => ?_, rfl⟩
      have hSome := failure?_act_eq_some_iff.mpr hFails
      rw [hAct, failure?, ← hFault, hPrint] at hSome
      cases hSome
    · refine .inl ⟨.breakdown cause, state, lines, hFailure _ ?_, rfl⟩
      rw [hAct, failure?, ← hFault, hPrint]
      rfl

/-- Surroundings without files, with the document of one entity as the input. -/
def plainSurroundings : Surroundings FileTree :=
  .ofTree {} Run.singleDocument fun _ => .failed .connection

/-- Artifacts in a language that is not known. -/
def foreignArguments : List Text := [text "--language", text "cobol"]

/-- A tree in which a file is where the artifacts are to go. -/
def occupiedTree : FileTree := ⟨[(⟨0, [text "out"]⟩, .file [])]⟩

/-- Surroundings with this tree, and with the document of one entity as the input. -/
def occupiedSurroundings : Surroundings FileTree :=
  .ofTree occupiedTree Run.singleDocument fun _ => .failed .connection

/-- A document from the input, with artifacts for a directory. -/
def outputArguments : List Text := [text "--stdin", text "--output", text "out"]

end EntityForge.Console
