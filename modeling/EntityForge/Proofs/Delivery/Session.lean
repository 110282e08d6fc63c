import EntityForge.Proofs.Delivery.Atomicity

/-! # Sessions with a sink

A collecting sink lives through a session of calls: artifacts are added to it one at a time, and
runs deliver theirs to it.  Calls may fail, and a run may fail in the middle of its delivery.  What
carries all laws of a session is that a call does nothing to the sink but extend it
(`Call.perform_extends`), by artifacts with new names.
-/

namespace EntityForge

namespace Sink

/-- A collecting sink whose two lists agree: it remembers the names of the artifacts that it keeps,
and no name twice. -/
structure IsInStep (sink : Sink (List Artifact)) : Prop where
  nodup : sink.delivered.Nodup
  names : sink.delivered = sink.state.map Artifact.name

variable {sink sink' : Sink (List Artifact)} {artifacts : List Artifact} {a : Artifact}
  {failed : Option Failure}

theorem isInStep_empty : IsInStep { state := [] } := ⟨List.nodup_nil, rfl⟩

/-- An artifact with a new name keeps the lists in step. -/
theorem IsInStep.extend_singleton (h : sink.IsInStep) (hNew : a.name ∉ sink.delivered) :
    (sink.extend [a]).IsInStep where
  nodup := by
    rw [Sink.extend, List.map_singleton, ← List.concat_eq_append]
    exact h.nodup.concat hNew
  names := by
    rw [Sink.extend, List.map_append, h.names]

/-- Adding an artifact keeps it, if its name is new, or else leaves the sink as it was. -/
theorem add_cases (h : sink.add Medium.list a = (sink', failed)) :
    (failed = none ∧ a.name ∉ sink.delivered ∧ sink' = sink.extend [a]) ∨
      ((∃ failure, failed = some failure) ∧ a.name ∈ sink.delivered ∧ sink' = sink) := by
  by_cases hOld : a.name ∈ sink.delivered
  · rw [add_of_mem hOld] at h
    cases h
    exact .inr ⟨⟨_, rfl⟩, hOld, rfl⟩
  · rw [add_of_notMem hOld] at h
    cases h
    exact .inl ⟨rfl, hOld, rfl⟩

/-- Delivery keeps a front part of the artifacts, and all of them unless it fails. -/
theorem addAll_extends (hStep : sink.IsInStep)
    (h : sink.addAll Medium.list artifacts = (sink', failed)) :
    sink'.IsInStep ∧ ∃ front, sink' = sink.extend front ∧ (failed = none → front = artifacts) := by
  induction artifacts generalizing sink with
  | nil =>
      cases h
      exact ⟨hStep, [], extend_nil.symm, fun _ => rfl⟩
  | cons a rest ih =>
      rw [addAll] at h
      split at h
      · next kept hAdd =>
          rcases add_cases hAdd with ⟨-, hNew, rfl⟩ | ⟨⟨_, hNone⟩, -⟩
          · obtain ⟨hKept, front, rfl, hAll⟩ := ih (hStep.extend_singleton hNew) h
            exact ⟨hKept, a :: front, by rw [extend_append]; rfl, fun hf => by rw [hAll hf]⟩
          · cases hNone
      · next kept failure hAdd =>
          cases h
          rcases add_cases hAdd with ⟨hNone, -⟩ | ⟨-, -, rfl⟩
          · cases hNone
          · exact ⟨hStep, [], extend_nil.symm, by simp⟩

end Sink

namespace Run

/-- A run extends the sink that it delivers to, and by all its artifacts if it gives a result. -/
theorem deliver_extends {r : Registry} {host : Host} {signal : CancelSignal}
    {request : Request} {sink sink' : Sink (List Artifact)}
    {outcome : Except Failure GenerationResult} (hStep : sink.IsInStep)
    (h : deliver Medium.list r host signal request sink = (sink', outcome)) :
    sink'.IsInStep ∧ ∃ more, sink' = sink.extend more ∧
      ∀ result, outcome = .ok result → more = result.artifacts := by
  rw [deliver_eq] at h
  split at h
  · cases h
    exact ⟨hStep, [], Sink.extend_nil.symm, by simp⟩
  · next ready _ =>
      split at h
      · next hAdd =>
          cases h
          obtain ⟨hKept, front, rfl, hAll⟩ := Sink.addAll_extends hStep hAdd
          refine ⟨hKept, front, rfl, fun result hResult => ?_⟩
          cases hResult
          exact hAll rfl
      · next hAdd =>
          cases h
          obtain ⟨hKept, front, rfl, -⟩ := Sink.addAll_extends hStep hAdd
          exact ⟨hKept, front, rfl, by simp⟩

end Run

/-! ### Calls -/

/-- A call that concerns a sink: to add an artifact, or to deliver what a run makes.  The registry
and the host are those at the time of the call. -/
inductive Call
  | add (a : Artifact)
  | run (r : Registry) (host : Host) (signal : CancelSignal) (request : Run.Request)

namespace Call

/-- What becomes of the sink, and what the call gives: a run gives a result. -/
def perform : Call → Sink (List Artifact) →
    Sink (List Artifact) × Except Failure (Option GenerationResult)
  | add a, sink =>
      match sink.add Medium.list a with
      | (sink, none) => (sink, .ok none)
      | (sink, some failure) => (sink, .error failure)
  | run r host signal request, sink =>
      match Run.deliver Medium.list r host signal request sink with
      | (sink, outcome) => (sink, outcome.map some)

/-- A new sink after a session of calls. -/
def sinkAfter (calls : List Call) : Sink (List Artifact) :=
  calls.foldl (fun sink call => (call.perform sink).1) { state := [] }

theorem sinkAfter_concat (calls : List Call) (call : Call) :
    sinkAfter (calls ++ [call]) = (call.perform (sinkAfter calls)).1 := by
  simp [sinkAfter]

variable {sink sink' : Sink (List Artifact)} {a : Artifact}
  {given : Except Failure (Option GenerationResult)}

theorem perform_add_failed {failure : Failure}
    (h : (add a).perform sink = (sink', .error failure)) : sink' = sink := by
  rw [perform] at h
  split at h
  · cases h
  · next hAdd =>
      cases h
      rcases Sink.add_cases hAdd with ⟨hNone, -⟩ | ⟨-, -, hSame⟩
      · cases hNone
      · exact hSame

/-- One step: a call extends the sink, and by all artifacts of its result if it gives one. -/
theorem perform_extends {call : Call} (hStep : sink.IsInStep)
    (h : call.perform sink = (sink', given)) :
    sink'.IsInStep ∧ ∃ more, sink' = sink.extend more ∧
      ∀ result, given = .ok (some result) → more = result.artifacts := by
  cases call with
  | add a =>
      rw [perform] at h
      split at h <;> next hAdd =>
        cases h
        rcases Sink.add_cases hAdd with ⟨-, hNew, rfl⟩ | ⟨-, -, rfl⟩
        · exact ⟨hStep.extend_singleton hNew, [a], rfl, by simp⟩
        · exact ⟨hStep, [], Sink.extend_nil.symm, by simp⟩
  | run r host signal request =>
      rw [perform] at h
      cases hDeliver : Run.deliver Medium.list r host signal request sink with
      | mk kept outcome =>
          rw [hDeliver] at h
          cases h
          obtain ⟨hKept, more, rfl, hAll⟩ := Run.deliver_extends hStep hDeliver
          refine ⟨hKept, more, rfl, fun result hResult => ?_⟩
          cases outcome with
          | error failure => cases hResult
          | ok _ =>
              cases hResult
              exact hAll _ rfl

/-- The two lists of a sink are in step after every session. -/
theorem isInStep_sinkAfter (calls : List Call) : (sinkAfter calls).IsInStep := by
  induction calls using List.reverseRecOn with
  | nil => exact Sink.isInStep_empty
  | append_singleton calls call ih =>
      rw [sinkAfter_concat]
      exact (perform_extends ih rfl).1

/-- What holds of a sink after any session, and of one more call: no name was delivered twice, and
the names are those of the artifacts; the call leaves what is there as it is, in front of what it
delivers; adding an artifact in vain changes nothing; and a run that gives a result has delivered
the artifacts of the result, in order. -/
theorem session_inv (calls : List Call) :
    ((sinkAfter calls).delivered.Nodup ∧
      (sinkAfter calls).delivered = (sinkAfter calls).state.map Artifact.name) ∧
    ∀ call sink' given, call.perform (sinkAfter calls) = (sink', given) →
      sinkAfter (calls ++ [call]) = sink' ∧
      ((sinkAfter calls).delivered <+: sink'.delivered ∧
        (sinkAfter calls).state <+: sink'.state) ∧
      (∀ a failure, call = .add a → given = .error failure → sink' = sinkAfter calls) ∧
      ∀ result, given = .ok (some result) →
        sink'.state = (sinkAfter calls).state ++ result.artifacts ∧
          sink'.delivered = (sinkAfter calls).delivered ++ result.names := by
  have hStep := isInStep_sinkAfter calls
  refine ⟨⟨hStep.nodup, hStep.names⟩, fun call sink' given hCall => ?_⟩
  obtain ⟨-, more, rfl, hAll⟩ := perform_extends hStep hCall
  refine ⟨by rw [sinkAfter_concat, hCall], ⟨List.prefix_append _ _, List.prefix_append _ _⟩, ?_, ?_⟩
  · rintro a failure rfl rfl
    exact perform_add_failed hCall
  · rintro result hResult
    rw [hAll result hResult]
    exact ⟨rfl, rfl⟩

/-- A session in which an artifact is added twice, the second time in vain. -/
def noteSession : List Call :=
  [.add ⟨text "Note.g.cs", text "x"⟩, .add ⟨text "Note.g.cs", text "x"⟩]

/-- The run that delivers the code of one entity. -/
def singleRun : Call :=
  .run Registry.builtin {} CancelSignal.never { document := some Run.singleDocument }

/-- A run after that session delivers its artifacts behind the one that is there. -/
theorem session_inv_noteSession :
    ∃ sink result, singleRun.perform (sinkAfter noteSession) = (sink, .ok (some result)) ∧
      sink.state = ⟨text "Note.g.cs", text "x"⟩ :: result.artifacts ∧
      sink.delivered = text "Note.g.cs" :: result.names := by
  let result := Run.pagesResult Run.standardGenerator Run.singleSchema [.noProperties (text "A")]
  have hReady : Run.readied Registry.builtin {} CancelSignal.never
      { document := some Run.singleDocument } = .ok result :=
    Run.readied_of_check Run.isBuiltin_standardGenerator Run.create_standardGenerator
      Run.load_singleDocument Run.check_singleSchema rfl
  have hNames : result.names = [text "A.g.cs", text "GeneratedDbContext.g.cs"] := rfl
  have hNew : ∀ b ∈ result.artifacts, b.name ∉ (sinkAfter noteSession).delivered := by
    have hDifferent : ∀ name ∈ [text "A.g.cs", text "GeneratedDbContext.g.cs"],
        name ∉ (sinkAfter noteSession).delivered := by decide
    intro b hb
    exact hDifferent b.name (hNames ▸ List.mem_map_of_mem hb)
  have hPerform : singleRun.perform (sinkAfter noteSession) =
      ((sinkAfter noteSession).extend result.artifacts, .ok (some result)) := by
    rw [singleRun, perform, Run.deliver_eq, hReady]
    simp only [Sink.addAll_of_new (Run.nodup_names_of_readied hReady) hNew]
    rfl
  have hLaw := ((session_inv noteSession).2 _ _ _ hPerform).2.2.2 _ rfl
  exact ⟨_, _, hPerform, hLaw.1, hLaw.2⟩

end Call

end EntityForge
