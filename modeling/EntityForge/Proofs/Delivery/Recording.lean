import EntityForge.Proofs.Delivery.Session

/-! # Sessions on any medium

A call adds the artifacts that it offers, one after the other, to a sink with any medium
(`performOn_eq`); so what each artifact that is added preserves, a whole session preserves
(`sinkOn_preserves`).  A sink remembers the names that were delivered; a medium that keeps a record
of the artifacts themselves changes nothing else about a session (`forget_sinkOn`).
-/

namespace EntityForge

/-! ### Sinks with a record -/

/-- The medium with a record of the artifacts that were written to it. -/
def Medium.recording {σ : Type} (medium : Medium σ) : Medium (σ × List Artifact) where
  write s a :=
    match medium.write s.1 a with
    | (state, none) => ((state, s.2 ++ [a]), none)
    | (state, some failure) => ((state, s.2), some failure)

namespace Sink

variable {σ : Type} {medium : Medium σ}

/-- The sink without its record. -/
def forget (sink : Sink (σ × List Artifact)) : Sink σ := ⟨sink.delivered, sink.state.1⟩

/-- A sink does the same with a record and without. -/
theorem forget_add (sink : Sink (σ × List Artifact)) (a : Artifact) :
    sink.forget.add medium a = ((sink.add medium.recording a).1.forget,
      (sink.add medium.recording a).2) := by
  rw [add, add]
  by_cases hOld : a.name ∈ sink.delivered
  · have hForget : a.name ∈ sink.forget.delivered := hOld
    rw [if_pos hOld, if_pos hForget]
  · have hForget : a.name ∉ sink.forget.delivered := hOld
    rw [if_neg hOld, if_neg hForget]
    rcases hWrite : medium.write sink.state.1 a with ⟨state, _ | failure⟩ <;>
      simp only [Medium.recording, forget, hWrite]

theorem forget_addAll (sink : Sink (σ × List Artifact)) (artifacts : List Artifact) :
    sink.forget.addAll medium artifacts = ((sink.addAll medium.recording artifacts).1.forget,
      (sink.addAll medium.recording artifacts).2) := by
  induction artifacts generalizing sink with
  | nil => rfl
  | cons a rest ih =>
      rw [addAll, addAll, forget_add]
      rcases sink.add medium.recording a with ⟨next, _ | failure⟩
      · exact ih next
      · rfl

/-- What every artifact that is added preserves, delivery preserves. -/
theorem addAll_preserves {holds : Sink σ → Prop} {artifacts : List Artifact} {sink : Sink σ}
    (hAdd : ∀ sink, holds sink → ∀ a ∈ artifacts, holds (sink.add medium a).1)
    (h : holds sink) : holds (sink.addAll medium artifacts).1 := by
  induction artifacts generalizing sink with
  | nil => exact h
  | cons a rest ih =>
      have hFirst := hAdd sink h a List.mem_cons_self
      rw [addAll]
      rcases hNext : sink.add medium a with ⟨next, _ | failure⟩ <;> rw [hNext] at hFirst
      · exact ih (fun sink hSink b hb => hAdd sink hSink b (List.mem_cons_of_mem _ hb)) hFirst
      · exact hFirst

end Sink

namespace Call

variable {σ : Type} (medium : Medium σ)

/-- The artifacts that a call is about to add. -/
def offers : Call → List Artifact
  | add a => [a]
  | run r files signal request =>
      match Run.readied r files signal request with
      | .ok result => result.artifacts
      | .error _ => []

/-- What becomes of a sink with any medium. -/
def performOn : Call → Sink σ → Sink σ
  | add a, sink => (sink.add medium a).1
  | run r files signal request, sink => (Run.deliver medium r files signal request sink).1

/-- A new sink after a session of calls. -/
def sinkOn (start : σ) (calls : List Call) : Sink σ :=
  calls.foldl (fun sink call => call.performOn medium sink) { state := start }

/-- A call adds what it offers. -/
theorem performOn_eq (call : Call) (sink : Sink σ) :
    call.performOn medium sink = (sink.addAll medium call.offers).1 := by
  cases call with
  | add a =>
      rw [performOn, offers, Sink.addAll]
      rcases sink.add medium a with ⟨next, _ | failure⟩ <;> rfl
  | run r files signal request =>
      rw [performOn, offers, Run.deliver_eq]
      cases Run.readied r files signal request with
      | error failure => rfl
      | ok result =>
          dsimp only
          rcases sink.addAll medium result.artifacts with ⟨next, _ | failure⟩ <;> rfl

theorem sinkOn_concat (start : σ) (calls : List Call) (call : Call) :
    sinkOn medium start (calls ++ [call]) = call.performOn medium (sinkOn medium start calls) := by
  simp [sinkOn]

variable {medium}

/-- The run: what every artifact that is added preserves, a session preserves. -/
theorem sinkOn_preserves {holds : Sink σ → Prop} {start : σ} {calls : List Call}
    (hStart : holds { state := start })
    (hAdd : ∀ sink, holds sink → ∀ call ∈ calls, ∀ a ∈ call.offers, holds (sink.add medium a).1) :
    holds (sinkOn medium start calls) := by
  induction calls using List.reverseRecOn with
  | nil => exact hStart
  | append_singleton calls call ih =>
      have hBefore := ih fun sink hSink other hOther =>
        hAdd sink hSink other (List.mem_append_left _ hOther)
      rw [sinkOn_concat, performOn_eq]
      exact Sink.addAll_preserves (fun sink hSink => hAdd sink hSink call (by simp)) hBefore

/-- A session does the same with a record and without. -/
theorem forget_sinkOn (start : σ) (calls : List Call) :
    (sinkOn medium.recording (start, []) calls).forget = sinkOn medium start calls := by
  induction calls using List.reverseRecOn with
  | nil => rfl
  | append_singleton calls call ih =>
      rw [sinkOn_concat, sinkOn_concat, performOn_eq, performOn_eq, ← ih, Sink.forget_addAll]

end Call

end EntityForge
