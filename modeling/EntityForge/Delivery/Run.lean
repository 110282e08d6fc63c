import EntityForge.Delivery.Sink
import EntityForge.Registry

/-! # Runs

A run loads a schema, checks it, generates its artifacts and delivers them. All artifacts are made
before the first is delivered. A run can be cancelled by a signal, which is looked at at fixed
checkpoints: before loading, after generation and before delivery.
-/

namespace EntityForge

/-- A signal of cancellation: does a checkpoint of a run, counted from one, find the run
cancelled? -/
abbrev CancelSignal := Nat → Bool

namespace CancelSignal

/-- The signal that never cancels. -/
def never : CancelSignal := fun _ => false

/-- The signal that cancels from the `n`-th checkpoint on. They are counted from one, so that no run
comes to a checkpoint before the first. -/
def fromCheckpoint (n : Int) : CancelSignal := fun k => 0 < n && n ≤ k

/-- The signal that has been given already, or is not given. -/
def constant (cancelled : Bool) : CancelSignal := fun _ => cancelled

/-- The `k`-th checkpoint: fails if the run is cancelled. -/
def check (signal : CancelSignal) (k : Nat) : Except Failure Unit :=
  if signal k then .error (.delivery .cancelled) else .ok ()

end CancelSignal

/-- The result of a run: its artifacts in the order of delivery, warnings and figures, or the
message of a failure with its cause, if there is one. -/
structure GenerationResult where
  artifacts : List Artifact := []
  warnings : List Text := []
  metadata : Entries Value := []
  error : Option (Text × Option Failure) := none

namespace GenerationResult

/-- Did the run succeed? -/
def isSuccess (r : GenerationResult) : Bool := r.error.isNone

/-- The result of a failed run. -/
def failed (message : Text) (cause : Option Failure) : GenerationResult :=
  { error := some (message, cause) }

/-- The names of the artifacts. -/
def names (r : GenerationResult) : List Text := r.artifacts.map Artifact.name

/-- The first artifact of that name. -/
def artifact? (r : GenerationResult) (name : Text) : Option Artifact :=
  r.artifacts.find? fun a => a.name = name

end GenerationResult

namespace Run

/-- The artifacts and warnings of a document text; none if it declares no schema. -/
def artifactsOf (g : CSharp.Generator) (signal : CancelSignal) (document : Option Text) :
    Except Failure (List Artifact × List SchemaWarning) := do
  signal.check 1
  match ← (Schema.load document).mapError .ofLoadFault with
  | none => return ([], [])
  | some schema => do
      let warnings ← g.check schema
      let artifacts ← g.generate schema
      signal.check 2
      return (artifacts, warnings)

/-- The figures of a successful run. -/
def metadataOf (artifacts : List Artifact) : Entries Value := [
  (text "language", .string CSharp.languageName),
  (text "file_extension", .string CSharp.fileExtension),
  (text "entity_count", .int artifacts.dropLast.length),
  (text "artifact_count", .int artifacts.length)]

/-- What a run is about: the document, the language and the settings. -/
structure Request where
  document : Option Text
  language : Text := text "csharp"
  settings : SettingsSource := .default

/-- The result of a run that succeeds. -/
def produce (r : Registry) (host : Host) (signal : CancelSignal) (request : Request) :
    Except Failure GenerationResult := do
  let generator ← r.create host request.language request.settings
  let (artifacts, warnings) ← artifactsOf generator signal request.document
  return {
    artifacts
    warnings := warnings.map SchemaWarning.message
    metadata := metadataOf artifacts }

/-- The result of a run, whether it succeeds or fails. Only what nobody expects is a failure of
the function itself. -/
def generate (r : Registry) (host : Host) (signal : CancelSignal) (request : Request) :
    Except Failure GenerationResult :=
  match produce r host signal request with
  | .ok result => .ok result
  | .error failure =>
      if failure.isReported then
        .ok (.failed (text "Code generation failed: " ++ failure.message) (some failure))
      else .error failure

/-- The failure of a result, if it has one that is known. -/
def GenerationResult.failure? (result : GenerationResult) : Option Failure :=
  result.error.bind Prod.snd

/-- The number of the checkpoint before delivery. A run without artifacts has one before it, any
other run two. -/
def deliveryCheckpoint (artifacts : List Artifact) : Nat := if artifacts.isEmpty then 2 else 3

/-- Runs generation and delivers the artifacts to a sink. -/
def deliver {σ : Type} (medium : Medium σ) (r : Registry) (host : Host)
    (signal : CancelSignal) (request : Request) (sink : Sink σ) :
    Sink σ × Except Failure GenerationResult :=
  match generate r host signal request with
  | .error failure => (sink, .error failure)
  | .ok result =>
      match GenerationResult.failure? result with
      | some failure => (sink, .error failure)
      | none =>
          match signal.check (deliveryCheckpoint result.artifacts) with
          | .error failure => (sink, .error failure)
          | .ok () =>
              match sink.addAll medium result.artifacts with
              | (sink, none) => (sink, .ok result)
              | (sink, some failure) => (sink, .error failure)

/-- The names that options cannot have, since the document and the language are given apart. -/
def givenApart : List Text := [text "schema_text", text "language"]

/-- The artifacts of a run by name. -/
def quick (r : Registry) (host : Host) (document : Option Text) (language : Text)
    (options : Entries Value) : Except Failure (Entries Text) :=
  match options.names.find? (· ∈ givenApart) with
  | some name => .error (.breakdown (.takenName (text "quick_generate") name))
  | none => do
      let settings := if options.isEmpty then .default else .overrides options
      let result ← generate r host CancelSignal.never { document, language, settings }
      match GenerationResult.failure? result with
      | some failure => .error failure
      | none => return Entries.ofPairs (result.artifacts.map fun a => (a.name, a.content))

end Run

end EntityForge
