import EntityForge.Proofs.Delivery.Atomicity
import Mathlib.Data.Prod.Lex
import Mathlib.Logic.Relation

/-! # Runs and their hosts

A run takes its steps one after the other: it makes its generator, loads and checks the schema,
emits the code and adds the artifacts to the sink, with checkpoints in between.  Its host may cancel
it between any two steps, once and for all.  Here the steps are taken apart (`Moment.next`), so that
every way in which run and host can interleave is a path of moves (`Reaches`).

Whatever the host does, the run ends as it does under a signal that is given from some checkpoint on
(`exists_deliver_of_reaches`); what carries the induction is `Moment.Fits`, which says of each stage
what the run has found out so far.
-/

namespace EntityForge.Run

/-! ### Stages -/

/-- What a run does next, with what it has made so far. -/
inductive Stage
  | making
  | starting (g : CSharp.Generator)
  | loading (g : CSharp.Generator)
  | checking (g : CSharp.Generator) (schema : Schema)
  | emitting (g : CSharp.Generator) (schema : Schema) (warnings : List SchemaWarning)
  | returning (result : GenerationResult)
  | delivering (result : GenerationResult)
  | adding (result : GenerationResult) (rest : List Artifact)
  | ended (outcome : Except Failure GenerationResult)

namespace Stage

/-- The stage that comes after a step, or the end of the run if the step fails. -/
def after {α : Type} (next : α → Stage) : Except Failure α → Stage
  | .ok given => next given
  | .error failure => .ended (.error failure)

/-- Does the run look at the token next? -/
def isCheckpoint : Stage → Bool
  | starting _ | returning _ | delivering _ => true
  | _ => false

/-- How many parts of the run are still to come. -/
def phase : Stage → ℕ
  | making => 8
  | starting _ => 7
  | loading _ => 6
  | checking _ _ => 5
  | emitting _ _ _ => 4
  | returning _ => 3
  | delivering _ => 2
  | adding _ _ => 1
  | ended _ => 0

/-- How far the run is from its end: delivery has a step for every artifact. -/
def rank (stage : Stage) : ℕ ×ₗ ℕ :=
  toLex (stage.phase, match stage with
    | adding _ rest => rest.length
    | _ => 0)

theorem rank_lt_of_phase_lt {stage stage' : Stage} (h : stage.phase < stage'.phase) :
    stage.rank < stage'.rank :=
  Prod.Lex.toLex_lt_toLex.mpr (.inl h)

end Stage

/-- The result of a run from what the generator gives. -/
def resultOf (artifacts : List Artifact) (warnings : List SchemaWarning) : GenerationResult where
  artifacts := artifacts
  warnings := warnings.map SchemaWarning.message
  metadata := metadataOf artifacts

/-- A run at a moment: what it does next, whether its host has cancelled it, and its sink. -/
structure Moment (σ : Type) where
  stage : Stage
  cancelled : Bool
  sink : Sink σ

variable {σ : Type} {medium : Medium σ} {r : Registry} {host : Host} {request : Request}
  {signal : CancelSignal} {start : Sink σ} {m m' : Moment σ}

namespace Moment

/-- The moment at which a run begins. -/
def first (start : Sink σ) : Moment σ := ⟨.making, false, start⟩

/-- A checkpoint lets the run go on unless it is cancelled. -/
def pass (m : Moment σ) (stage : Stage) : Stage :=
  if m.cancelled then .ended (.error (.delivery .cancelled)) else stage

/-- The next step of the run. -/
def next (medium : Medium σ) (r : Registry) (host : Host) (request : Request)
    (m : Moment σ) : Moment σ :=
  match m.stage with
  | .making =>
      { m with stage := .after .starting (r.create host request.language request.settings) }
  | .starting g => { m with stage := m.pass (.loading g) }
  | .loading g =>
      let found := (Schema.load request.document).mapError Failure.ofLoadFault
      { m with stage := .after (fun
          | none => .delivering (resultOf [] [])
          | some schema => .checking g schema) found }
  | .checking g schema => { m with stage := .after (.emitting g schema) (g.check schema) }
  | .emitting g schema warnings =>
      { m with stage :=
          .after (fun artifacts => .returning (resultOf artifacts warnings)) (g.generate schema) }
  | .returning result => { m with stage := m.pass (.delivering result) }
  | .delivering result => { m with stage := m.pass (.adding result result.artifacts) }
  | .adding result [] => { m with stage := .ended (.ok result) }
  | .adding result (a :: rest) =>
      match m.sink.add medium a with
      | (sink, none) => { m with stage := .adding result rest, sink := sink }
      | (sink, some failure) => { m with stage := .ended (.error failure), sink := sink }
  | .ended _ => m

end Moment

/-- A move: the host cancels the run, or the run takes its next step. -/
inductive Move (medium : Medium σ) (r : Registry) (host : Host) (request : Request) :
    Moment σ → Moment σ → Prop
  | cancel (m : Moment σ) : Move medium r host request m { m with cancelled := true }
  | step (m : Moment σ) : Move medium r host request m (m.next medium r host request)

/-- The moments that run and host can come to. -/
abbrev Reaches (medium : Medium σ) (r : Registry) (host : Host) (request : Request) :
    Moment σ → Moment σ → Prop :=
  Relation.ReflTransGen (Move medium r host request)

/-! ### What a signal can do -/

theorem check_eq_ok {k : Nat} (h : signal k = false) : signal.check k = .ok () := by
  simp [CancelSignal.check, h]

theorem check_eq_error {k : Nat} (h : signal k = true) :
    signal.check k = .error (.delivery .cancelled) := by
  simp [CancelSignal.check, h]

/-- A generator makes an artifact for the context at least. -/
theorem isEmpty_of_generate {g : CSharp.Generator} {schema : Schema} {artifacts : List Artifact}
    (h : g.generate schema = .ok artifacts) : artifacts.isEmpty = false := by
  have hNames := CSharp.names_of_generate h
  cases artifacts with
  | nil => simp at hNames
  | cons a rest => rfl

/-- What is given passes the second checkpoint, unless there are no artifacts. -/
def secondCheckpoint {α : Type} (signal : CancelSignal) (artifacts : List Artifact) (given : α) :
    Except Failure α :=
  if artifacts.isEmpty then .ok given else (signal.check 2).map fun _ => given

theorem artifactsOf_of_first {g : CSharp.Generator} {document : Option Text}
    (hFirst : signal 1 = false) :
    artifactsOf g signal document =
      artifactsOf g CancelSignal.never document >>= fun given =>
        secondCheckpoint signal given.1 given := by
  cases hLoad : Schema.load document with
  | error fault =>
      simp only [artifactsOf, check_eq_ok hFirst, check_never, hLoad, Except.mapError, bind,
        Except.bind]
  | ok found =>
      simp only [artifactsOf, check_eq_ok hFirst, check_never, hLoad, Except.mapError, bind,
        Except.bind, pure, Except.pure]
      cases found with
      | none => rfl
      | some schema =>
          cases hCheck : g.check schema with
          | error failure => simp only [hCheck]
          | ok warnings =>
              cases hGenerate : g.generate schema with
              | error failure => simp only [hCheck, hGenerate]
              | ok artifacts =>
                  simp only [hCheck, hGenerate, secondCheckpoint, isEmpty_of_generate hGenerate]
                  cases signal.check 2 <;> rfl

/-- A run that passes its first checkpoint makes what an uncancelled run makes, and passes the
second with it if there are artifacts. -/
theorem produce_of_first (hFirst : signal 1 = false) :
    produce r host signal request =
      produce r host CancelSignal.never request >>= fun result =>
        secondCheckpoint signal result.artifacts result := by
  cases hCreate : r.create host request.language request.settings with
  | error failure => simp only [produce, hCreate, bind, Except.bind]
  | ok g =>
      rw [produce_eq hCreate, produce_eq hCreate, artifactsOf_of_first hFirst]
      cases artifactsOf g CancelSignal.never request.document with
      | error failure => rfl
      | ok given =>
          simp only [bind, Except.bind, Except.map, secondCheckpoint]
          cases given.1.isEmpty with
          | true => rfl
          | false => cases signal.check 2 <;> rfl

theorem produce_of_create_error {failure : Failure}
    (hCreate : r.create host request.language request.settings = .error failure) :
    produce r host signal request = .error failure := by
  simp only [produce, hCreate, bind, Except.bind]

theorem produce_of_first_error {g : CSharp.Generator}
    (hCreate : r.create host request.language request.settings = .ok g)
    (hFirst : signal 1 = true) :
    produce r host signal request = .error (.delivery .cancelled) := by
  simp only [produce_eq hCreate, artifactsOf, check_eq_error hFirst, bind, Except.bind, Except.map]

/-- A signal either makes no difference to what is made, or it cancels. -/
theorem produce_cases (r : Registry) (host : Host) (signal : CancelSignal)
    (request : Request) :
    produce r host signal request = produce r host CancelSignal.never request ∨
      produce r host signal request = .error (.delivery .cancelled) := by
  cases hFirst : signal 1 with
  | true =>
      cases hCreate : r.create host request.language request.settings with
      | error failure =>
          exact .inl (by rw [produce_of_create_error hCreate, produce_of_create_error hCreate])
      | ok g => exact .inr (produce_of_first_error hCreate hFirst)
  | false =>
      rw [produce_of_first hFirst]
      cases produce r host CancelSignal.never request with
      | error failure => exact .inl rfl
      | ok result =>
          simp only [bind, Except.bind, secondCheckpoint, CancelSignal.check]
          cases result.artifacts.isEmpty with
          | true => exact .inl rfl
          | false => cases signal 2 <;> simp [Except.map]

theorem readied_never_eq :
    readied r host CancelSignal.never request = produce r host CancelSignal.never request := by
  cases h : produce r host CancelSignal.never request with
  | error failure => exact readied_of_produce_error h
  | ok result =>
      rw [readied_of_produce h, check_never]
      rfl

theorem readied_cases (r : Registry) (host : Host) (signal : CancelSignal)
    (request : Request) :
    readied r host signal request = readied r host CancelSignal.never request ∨
      readied r host signal request = .error (.delivery .cancelled) := by
  rw [readied_never_eq]
  rcases produce_cases r host signal request with h | h
  · cases hProduce : produce r host signal request with
    | error failure => exact .inl (by rw [readied_of_produce_error hProduce, ← h, hProduce])
    | ok result =>
        rw [readied_of_produce hProduce, ← h, hProduce]
        cases hSignal : signal (deliveryCheckpoint result.artifacts) <;>
          simp [CancelSignal.check, hSignal, Except.map]
  · exact .inr (readied_of_produce_error h)

theorem deliver_of_readied_error {failure : Failure}
    (h : readied r host signal request = .error failure) :
    deliver medium r host signal request start = (start, .error failure) := by
  rw [deliver_eq, h]

/-! ### Signals from some checkpoint on -/

/-- The signal that is given at no checkpoint. -/
theorem fromCheckpoint_zero : CancelSignal.fromCheckpoint 0 = CancelSignal.never := by
  funext k
  simp [CancelSignal.fromCheckpoint, CancelSignal.never]

theorem fromCheckpoint_eq_false {n k : Nat} (h : k < n) :
    CancelSignal.fromCheckpoint n k = false := by
  simp only [CancelSignal.fromCheckpoint, Bool.and_eq_false_iff, decide_eq_false_iff_not]
  omega

theorem fromCheckpoint_eq_true {n : Nat} (h : 0 < n) : CancelSignal.fromCheckpoint n n = true := by
  simp only [CancelSignal.fromCheckpoint, Bool.and_eq_true, decide_eq_true_eq]
  omega

/-- The run ends as it does under a signal that is given from some checkpoint on. -/
def EndsAs (medium : Medium σ) (r : Registry) (host : Host) (request : Request)
    (start sink : Sink σ) (outcome : Except Failure GenerationResult) : Prop :=
  ∃ n, deliver medium r host (.fromCheckpoint n) request start = (sink, outcome)

theorem endsAs_of_produce_error {failure : Failure}
    (h : produce r host CancelSignal.never request = .error failure) :
    EndsAs medium r host request start start (.error failure) :=
  ⟨0, by rw [fromCheckpoint_zero, deliver_of_readied_error (readied_of_produce_error h)]⟩

theorem endsAs_of_addAll {result : GenerationResult} {sink : Sink σ} {failed : Option Failure}
    (hReady : readied r host CancelSignal.never request = .ok result)
    (hAdded : start.addAll medium result.artifacts = (sink, failed)) :
    EndsAs medium r host request start sink (match failed with
      | none => .ok result
      | some failure => .error failure) := by
  refine ⟨0, ?_⟩
  rw [fromCheckpoint_zero, deliver_eq, hReady]
  cases failed <;> simp only [hAdded]

/-- A run that is cancelled before its first checkpoint. -/
theorem endsAs_cancelled_of_create {g : CSharp.Generator}
    (hCreate : r.create host request.language request.settings = .ok g) :
    EndsAs medium r host request start start (.error (.delivery .cancelled)) := by
  have hFirst : CancelSignal.fromCheckpoint 1 1 = true := by decide
  exact ⟨1, deliver_of_readied_error
    (readied_of_produce_error (produce_of_first_error hCreate hFirst))⟩

/-- A run with artifacts that is cancelled before its second checkpoint. -/
theorem endsAs_cancelled_of_artifacts {result : GenerationResult}
    (hNonempty : result.artifacts.isEmpty = false)
    (hProduce : produce r host CancelSignal.never request = .ok result) :
    EndsAs medium r host request start start (.error (.delivery .cancelled)) := by
  refine ⟨2, deliver_of_readied_error (readied_of_produce_error ?_)⟩
  have hSecond : CancelSignal.fromCheckpoint 2 2 = true := by decide
  rw [produce_of_first (by decide), hProduce]
  simp only [bind, Except.bind, secondCheckpoint, hNonempty, check_eq_error hSecond]
  rfl

/-- A run that is cancelled before its last checkpoint. -/
theorem endsAs_cancelled_of_produce {result : GenerationResult}
    (hProduce : produce r host CancelSignal.never request = .ok result) :
    EndsAs medium r host request start start (.error (.delivery .cancelled)) := by
  let last := deliveryCheckpoint result.artifacts
  have hFirst : 1 < last := by
    simp only [last, deliveryCheckpoint]
    split <;> omega
  have hSame : produce r host (.fromCheckpoint last) request = .ok result := by
    rw [produce_of_first (fromCheckpoint_eq_false hFirst), hProduce]
    simp only [bind, Except.bind, secondCheckpoint]
    split
    · rfl
    · next hNonempty =>
        have hSecond : 2 < last := by simp [last, deliveryCheckpoint, hNonempty]
        rw [check_eq_ok (fromCheckpoint_eq_false hSecond)]
        rfl
  refine ⟨last, deliver_of_readied_error ?_⟩
  rw [readied_of_produce hSame, check_eq_error (fromCheckpoint_eq_true (by omega))]
  rfl

/-! ### What a stage says -/

/-- What a run has found out when it comes to a stage, and what is in its sink. -/
def Moment.Fits (medium : Medium σ) (r : Registry) (host : Host) (request : Request)
    (start : Sink σ) (m : Moment σ) : Prop :=
  match m.stage with
  | .making => m.sink = start
  | .starting g | .loading g =>
      m.sink = start ∧ r.create host request.language request.settings = .ok g
  | .checking g schema =>
      m.sink = start ∧ r.create host request.language request.settings = .ok g ∧
        Schema.load request.document = .ok (some schema)
  | .emitting g schema warnings =>
      m.sink = start ∧ r.create host request.language request.settings = .ok g ∧
        Schema.load request.document = .ok (some schema) ∧ g.check schema = .ok warnings
  | .returning result =>
      m.sink = start ∧ result.artifacts.isEmpty = false ∧
        produce r host CancelSignal.never request = .ok result
  | .delivering result =>
      m.sink = start ∧ produce r host CancelSignal.never request = .ok result
  | .adding result rest =>
      readied r host CancelSignal.never request = .ok result ∧
        start.addAll medium result.artifacts = m.sink.addAll medium rest
  | .ended outcome => EndsAs medium r host request start m.sink outcome

/-- One step of the run. -/
theorem Moment.Fits.next (h : m.Fits medium r host request start) :
    (m.next medium r host request).Fits medium r host request start := by
  obtain ⟨stage, cancelled, sink⟩ := m
  cases stage with
  | making =>
      obtain rfl : sink = start := h
      cases hCreate : r.create host request.language request.settings with
      | error failure =>
          simp only [Moment.next, hCreate, Stage.after]
          exact endsAs_of_produce_error (produce_of_create_error hCreate)
      | ok g =>
          simp only [Moment.next, hCreate, Stage.after]
          exact ⟨rfl, hCreate⟩
  | starting g =>
      obtain ⟨rfl, hCreate⟩ := h
      cases cancelled with
      | true => exact endsAs_cancelled_of_create hCreate
      | false => exact ⟨rfl, hCreate⟩
  | loading g =>
      obtain ⟨rfl, hCreate⟩ := h
      cases hLoad : Schema.load request.document with
      | error fault =>
          simp only [Moment.next, hLoad, Except.mapError, Stage.after]
          refine endsAs_of_produce_error ?_
          simp only [produce_eq hCreate, artifactsOf, check_never, hLoad, Except.mapError, bind,
            Except.bind, Except.map]
      | ok found =>
          simp only [Moment.next, hLoad, Except.mapError, Stage.after]
          cases found with
          | none =>
              refine ⟨rfl, ?_⟩
              rw [produce_eq hCreate, artifactsOf_of_none hLoad]
              rfl
          | some schema => exact ⟨rfl, hCreate, hLoad⟩
  | checking g schema =>
      obtain ⟨rfl, hCreate, hLoad⟩ := h
      cases hCheck : g.check schema with
      | error failure =>
          simp only [Moment.next, hCheck, Stage.after]
          refine endsAs_of_produce_error ?_
          rw [produce_eq hCreate, artifactsOf_of_some hLoad, hCheck]
          rfl
      | ok warnings =>
          simp only [Moment.next, hCheck, Stage.after]
          exact ⟨rfl, hCreate, hLoad, hCheck⟩
  | emitting g schema warnings =>
      obtain ⟨rfl, hCreate, hLoad, hCheck⟩ := h
      have hProduce : produce r host CancelSignal.never request =
          (g.generate schema).map fun artifacts => resultOf artifacts warnings := by
        rw [produce_eq hCreate, artifactsOf_of_some hLoad, hCheck]
        cases g.generate schema <;> rfl
      cases hGenerate : g.generate schema with
      | error failure =>
          simp only [Moment.next, hGenerate, Stage.after]
          exact endsAs_of_produce_error (by rw [hProduce, hGenerate]; rfl)
      | ok artifacts =>
          simp only [Moment.next, hGenerate, Stage.after]
          exact ⟨rfl, isEmpty_of_generate hGenerate, by rw [hProduce, hGenerate]; rfl⟩
  | returning result =>
      obtain ⟨rfl, hNonempty, hProduce⟩ := h
      cases cancelled with
      | true => exact endsAs_cancelled_of_artifacts hNonempty hProduce
      | false => exact ⟨rfl, hProduce⟩
  | delivering result =>
      obtain ⟨rfl, hProduce⟩ := h
      cases cancelled with
      | true => exact endsAs_cancelled_of_produce hProduce
      | false => exact ⟨readied_never_eq.trans hProduce, rfl⟩
  | adding result rest =>
      obtain ⟨hReady, hAdded⟩ := h
      cases rest with
      | nil => exact endsAs_of_addAll hReady hAdded
      | cons a rest =>
          rw [Sink.addAll] at hAdded
          cases hAdd : sink.add medium a with
          | mk kept failed =>
              cases failed with
              | none =>
                  simp only [Moment.next, hAdd] at hAdded ⊢
                  exact ⟨hReady, hAdded⟩
              | some failure =>
                  simp only [Moment.next, hAdd] at hAdded ⊢
                  exact endsAs_of_addAll hReady hAdded
  | ended outcome => exact h

theorem Moment.fits_of_reaches (h : Reaches medium r host request (.first start) m) :
    m.Fits medium r host request start := by
  induction h with
  | refl => exact (rfl : (Moment.first start).sink = start)
  | tail _ hMove ih =>
      cases hMove with
      | cancel => exact ih
      | step => exact ih.next

/-- Whatever the host does, a run that has ended did so as it does under a signal that is given
from some checkpoint on. -/
theorem exists_deliver_of_reaches {outcome : Except Failure GenerationResult}
    (h : Reaches medium r host request (.first start) m) (hEnd : m.stage = .ended outcome) :
    EndsAs medium r host request start m.sink outcome := by
  have hFits := Moment.fits_of_reaches h
  rw [Moment.Fits, hEnd] at hFits
  exact hFits

/-! ### Every run ends -/

theorem Stage.phase_after_lt {α : Type} {next : α → Stage} {bound : ℕ} (hBound : 0 < bound)
    (hNext : ∀ a, (next a).phase < bound) (given : Except Failure α) :
    (Stage.after next given).phase < bound := by
  cases given with
  | error failure => exact hBound
  | ok a => exact hNext a

theorem Moment.phase_pass_lt {stage : Stage} {bound : ℕ} (hBound : 0 < bound)
    (hStage : stage.phase < bound) : (m.pass stage).phase < bound := by
  rw [Moment.pass]
  split
  · exact hBound
  · exact hStage

/-- Each step of the run brings it nearer to its end; what the host does changes no rank. -/
theorem Moment.rank_next_lt (h : ∀ outcome, m.stage ≠ .ended outcome) :
    (m.next medium r host request).stage.rank < m.stage.rank := by
  obtain ⟨stage, cancelled, sink⟩ := m
  cases stage with
  | adding result rest =>
      cases rest with
      | nil => exact Stage.rank_lt_of_phase_lt (by simp [Moment.next, Stage.phase])
      | cons a rest =>
          simp only [Moment.next]
          split
          · exact Prod.Lex.toLex_lt_toLex.mpr (.inr ⟨rfl, Nat.lt_succ_self _⟩)
          · exact Stage.rank_lt_of_phase_lt (by simp [Stage.phase])
  | ended outcome => exact absurd rfl (h outcome)
  | starting g | returning result | delivering result =>
      exact Stage.rank_lt_of_phase_lt
        (phase_pass_lt (by simp [Stage.phase]) (by simp [Stage.phase]))
  | loading g =>
      refine Stage.rank_lt_of_phase_lt (Stage.phase_after_lt (by simp [Stage.phase]) ?_ _)
      intro found
      cases found <;> simp [Stage.phase]
  | making | checking g schema | emitting g schema warnings =>
      exact Stage.rank_lt_of_phase_lt
        (Stage.phase_after_lt (by simp [Stage.phase]) (by simp [Stage.phase]) _)

/-! ### Cancelled runs -/

theorem Moment.stage_next_of_checkpoint (hCheckpoint : m.stage.isCheckpoint = true)
    (hCancelled : m.cancelled = true) :
    (m.next medium r host request).stage = .ended (.error (.delivery .cancelled)) := by
  obtain ⟨stage, cancelled, sink⟩ := m
  obtain rfl : cancelled = true := hCancelled
  cases stage with
  | starting g | returning result | delivering result => rfl
  | making | loading g | checking g schema | emitting g schema warnings | adding result rest
    | ended outcome => cases hCheckpoint

theorem Moment.next_of_ended {outcome : Except Failure GenerationResult}
    (h : m.stage = .ended outcome) : m.next medium r host request = m := by
  rw [Moment.next, h]

/-- A run that comes to a checkpoint after it was cancelled ends there. -/
theorem cancelled_of_checkpoint {outcome : Except Failure GenerationResult}
    (hCheckpoint : m.stage.isCheckpoint = true) (hCancelled : m.cancelled = true)
    (h : Reaches medium r host request m m') (hEnd : m'.stage = .ended outcome) :
    outcome = .error (.delivery .cancelled) := by
  have hStay : (m'.stage = m.stage ∧ m'.cancelled = true) ∨
      m'.stage = .ended (.error (.delivery .cancelled)) := by
    clear hEnd
    induction h with
    | refl => exact .inl ⟨rfl, hCancelled⟩
    | tail _ hMove ih =>
        cases hMove with
        | cancel => exact ih.imp_left fun h => ⟨h.1, rfl⟩
        | step =>
            rcases ih with ⟨hStage, hSet⟩ | hEnded
            · exact .inr (Moment.stage_next_of_checkpoint (hStage ▸ hCheckpoint) hSet)
            · exact .inr (by rw [Moment.next_of_ended hEnded, hEnded])
  rcases hStay with ⟨hStage, -⟩ | hEnded
  · rw [hEnd] at hStage
    rw [← hStage] at hCheckpoint
    cases hCheckpoint
  · rw [hEnd] at hEnded
    cases hEnded
    rfl

/-! ### All or nothing -/

theorem generate_of_readied {result : GenerationResult}
    (h : readied r host signal request = .ok result) :
    generate r host signal request = .ok result := by
  rw [generate, produce_of_readied h]

/-- A run that delivers to a new sink delivers all that an uncancelled run makes, or nothing; and it
fails only because it was cancelled or as an uncancelled run does. -/
theorem deliver_cases {sink : Sink (List Artifact)} {outcome : Except Failure GenerationResult}
    (h : deliver Medium.list r host signal request { state := [] } = (sink, outcome)) :
    (∃ result, outcome = .ok result ∧ readied r host CancelSignal.never request = .ok result ∧
      sink = ⟨result.names, result.artifacts⟩) ∨
    ∃ failure, outcome = .error failure ∧ sink = { state := [] } ∧
      (failure = .delivery .cancelled ∨
        readied r host CancelSignal.never request = .error failure) := by
  rcases readied_cases r host signal request with hSame | hCancelled
  · cases hReady : readied r host CancelSignal.never request with
    | error failure =>
        rw [deliver_of_readied_error (hSame.trans hReady)] at h
        cases h
        exact .inr ⟨failure, rfl, rfl, .inr rfl⟩
    | ok result =>
        have hAdd : Sink.addAll Medium.list { state := [] } result.artifacts =
            (⟨result.names, result.artifacts⟩, none) :=
          Sink.addAll_of_new (nodup_names_of_readied hReady) fun b _ => List.not_mem_nil
        rw [deliver_eq, hSame, hReady] at h
        simp only [hAdd] at h
        cases h
        exact .inl ⟨result, rfl, rfl, rfl⟩
  · rw [deliver_of_readied_error hCancelled] at h
    cases h
    exact .inr ⟨_, rfl, rfl, .inl rfl⟩

/-- Whatever a signal does, the artifacts of a result are none or all. -/
theorem artifacts_of_generate {result : GenerationResult}
    (h : generate r host signal request = .ok result) :
    result.artifacts = [] ∨ generate r host CancelSignal.never request = .ok result := by
  cases hProduce : produce r host signal request with
  | error failure =>
      rw [generate, hProduce] at h
      simp only at h
      split at h
      · cases h
        exact .inl rfl
      · cases h
  | ok produced =>
      rcases produce_cases r host signal request with hSame | hCancelled
      · refine .inr ?_
        rw [← h, generate, generate, ← hSame]
      · rw [hProduce] at hCancelled
        cases hCancelled

/-- Run and host in any interleaving, with a new sink that collects.  The run comes to its end.  It
ends as it does under a signal that is given from some checkpoint on: with a result, all artifacts
that an uncancelled run gives having been delivered in order; or with a failure and nothing
delivered, because it was cancelled or as an uncancelled run fails.  If it comes to a checkpoint
after it was cancelled, it ends as cancelled.  Nor does a result, under any signal, have some of the
artifacts only. -/
theorem interleaving_all_or_nothing {m : Moment (List Artifact)}
    (hRun : Reaches Medium.list r host request (.first { state := [] }) m) :
    ((∀ outcome, m.stage ≠ .ended outcome) →
      (m.next Medium.list r host request).stage.rank < m.stage.rank) ∧
    (∀ outcome, m.stage = .ended outcome →
      (∃ n, deliver Medium.list r host (.fromCheckpoint n) request { state := [] } =
        (m.sink, outcome)) ∧
      ((∃ result, outcome = .ok result ∧
          generate r host CancelSignal.never request = .ok result ∧
          m.sink.state = result.artifacts ∧ m.sink.delivered = result.names) ∨
        ∃ failure, outcome = .error failure ∧ m.sink = { state := [] } ∧
          (failure = .delivery .cancelled ∨
            deliver Medium.list r host CancelSignal.never request { state := [] } =
              ({ state := [] }, .error failure))) ∧
      ∀ c, Reaches Medium.list r host request (.first { state := [] }) c →
        Reaches Medium.list r host request c m → c.stage.isCheckpoint = true →
        c.cancelled = true →
          outcome = .error (.delivery .cancelled) ∧ m.sink = { state := [] }) ∧
    ∀ signal result, generate r host signal request = .ok result →
      result.artifacts = [] ∨ generate r host CancelSignal.never request = .ok result := by
  refine ⟨Moment.rank_next_lt, fun outcome hEnd => ?_, fun signal result => artifacts_of_generate⟩
  obtain ⟨n, hDeliver⟩ := exists_deliver_of_reaches hRun hEnd
  refine ⟨⟨n, hDeliver⟩, ?_, fun c _ hFrom hCheckpoint hCancelled => ?_⟩
  · rcases deliver_cases hDeliver with ⟨result, rfl, hReady, hSink⟩ | ⟨failure, rfl, hSink, hWhy⟩
    · exact .inl ⟨result, rfl, generate_of_readied hReady, by rw [hSink], by rw [hSink]⟩
    · exact .inr ⟨failure, rfl, hSink, hWhy.imp_right deliver_of_readied_error⟩
  · have hOutcome := cancelled_of_checkpoint hCheckpoint hCancelled hFrom hEnd
    refine ⟨hOutcome, ?_⟩
    rcases deliver_cases hDeliver with ⟨result, hResult, -⟩ | ⟨failure, -, hSink, -⟩
    · rw [hOutcome] at hResult
      cases hResult
    · exact hSink

/-- A run that nobody cancels comes to its second checkpoint with what the generator gives. -/
theorem reaches_returning {g : CSharp.Generator} {schema : Schema} {warnings : List SchemaWarning}
    {artifacts : List Artifact}
    (hCreate : r.create host request.language request.settings = .ok g)
    (hLoad : Schema.load request.document = .ok (some schema))
    (hCheck : g.check schema = .ok warnings) (hGenerate : g.generate schema = .ok artifacts) :
    Reaches medium r host request (.first start)
      ⟨.returning (resultOf artifacts warnings), false, start⟩ := by
  have hStep : ∀ stage stage' : Stage,
      Moment.next medium r host request ⟨stage, false, start⟩ = ⟨stage', false, start⟩ →
      Reaches medium r host request (.first start) ⟨stage, false, start⟩ →
      Reaches medium r host request (.first start) ⟨stage', false, start⟩ :=
    fun _ _ hNext h => hNext ▸ h.tail (.step _)
  refine hStep (.emitting g schema warnings) _ ?_ <| hStep (.checking g schema) _ ?_ <|
    hStep (.loading g) _ ?_ <| hStep (.starting g) _ rfl <| hStep .making _ ?_ .refl
  · simp only [Moment.next, hGenerate, Stage.after]
  · simp only [Moment.next, hCheck, Stage.after]
  · simp only [Moment.next, hLoad, Except.mapError, Stage.after]
  · simp only [Moment.next, hCreate, Stage.after]

/-- A run over one entity that is cancelled when its code has been emitted. -/
theorem interleaving_all_or_nothing_singleDocument :
    ∃ m : Moment (List Artifact),
      Reaches Medium.list Registry.builtin {} { document := some singleDocument }
        (.first { state := [] }) m ∧
      m.stage = .ended (.error (.delivery .cancelled)) ∧ m.sink = { state := [] } := by
  have hGenerate : standardGenerator.generate singleSchema =
      .ok (CSharp.pages standardGenerator singleSchema.entities) :=
    CSharp.generate_eq isBuiltin_standardGenerator
      (CSharp.checkSchema_eq_ok_iff.mp check_singleSchema).2.1
  have hMade : Reaches Medium.list Registry.builtin {} { document := some singleDocument }
      (.first { state := [] }) ⟨.returning _, false, _⟩ :=
    reaches_returning create_standardGenerator load_singleDocument check_singleSchema hGenerate
  have hCancelled := hMade.tail (.cancel _)
  have hEnded := hCancelled.tail (.step _)
  have hLaw := (interleaving_all_or_nothing hEnded).2.1 _ rfl
  exact ⟨_, hEnded, rfl, (hLaw.2.2 _ hCancelled (.single (.step _)) rfl rfl).2⟩

end EntityForge.Run
