import EntityForge.Failure
import EntityForge.Proofs.FirstFault

/-! # How an operation breaks down

A run reports failures of five families as its result; a breakdown belongs to none of them.
`BreaksFor x P` says all that there is to say of an operation in this respect: the causes for which
it breaks down are those of which `P` holds, and all other failures of it are of a family.  It is
proved of an operation from its steps, one after the other (`BreaksFor.bind`).
-/

namespace EntityForge

universe u

/-- The families of failures that a run reports. -/
inductive FailureFamily
  | schema
  | generator
  | settings
  | template
  | registry
  deriving DecidableEq, Repr

/-- The family of a failure, if a run reports it. -/
def Failure.family? : Failure → Option FailureFamily
  | .json .. => some .schema
  | .document _ => some .schema
  | .duplicates _ => some .schema
  | .schema _ => some .schema
  | .unrecognizedType .. => some .schema
  | .delivery _ => some .generator
  | .settings _ => some .settings
  | .template _ => some .template
  | .registry _ => some .registry
  | .source _ => none
  | .fileNotFound _ => none
  | .breakdown _ => none

/-- The failures that a run reports are those of a family. -/
theorem isReported_iff {failure : Failure} :
    failure.isReported = true ↔ failure.family?.isSome = true := by
  cases failure <;> simp [Failure.isReported, Failure.family?]

/-- The operation breaks down for the causes of which `P` holds, and fails in no other way than
with a failure of a family. -/
structure BreaksFor {α : Type u} (x : Except Failure α) (P : Breakdown → Prop) : Prop where
  breakdown_iff : ∀ cause, x = .error (.breakdown cause) ↔ P cause
  family : ∀ failure, x = .error failure →
    failure.family?.isSome = true ∨ ∃ cause, failure = .breakdown cause

/-- The operation never breaks down. -/
abbrev IsSteady {α : Type u} (x : Except Failure α) : Prop := BreaksFor x fun _ => False

theorem isSteady_ok {α : Type u} (a : α) : IsSteady (.ok a) :=
  ⟨fun _ => iff_of_false (by simp) id, fun _ h => absurd h (by simp)⟩

theorem isSteady_error {α : Type u} {failure : Failure} (h : failure.family?.isSome = true) :
    IsSteady (.error failure : Except Failure α) := by
  refine ⟨fun cause => ⟨fun hCause => ?_, False.elim⟩, fun _ hFailure => ?_⟩
  · cases hCause
    cases h
  · cases hFailure
    exact .inl h

/-- An operation whose failures are all reported never breaks down. -/
theorem isSteady_of_isReported {α : Type u} {x : Except Failure α}
    (h : ∀ failure, x = .error failure → failure.isReported = true) : IsSteady x := by
  cases x with
  | ok a => exact isSteady_ok a
  | error failure => exact isSteady_error (isReported_iff.mp (h failure rfl))

theorem breaksFor_error {α : Type u} (cause : Breakdown) :
    BreaksFor (.error (.breakdown cause) : Except Failure α) fun other => other = cause := by
  refine ⟨fun other => ⟨fun h => ?_, fun h => by rw [h]⟩, fun _ h => ?_⟩
  · cases h
    rfl
  · cases h
    exact .inr ⟨cause, rfl⟩

namespace BreaksFor

theorem congr {α : Type u} {x : Except Failure α} {P Q : Breakdown → Prop} (h : BreaksFor x P)
    (hSame : ∀ cause, P cause ↔ Q cause) : BreaksFor x Q :=
  ⟨fun cause => (h.breakdown_iff cause).trans (hSame cause), h.family⟩

/-- An operation of two steps breaks down with the first, or with the second on what the first
gives. -/
theorem bind {α β : Type u} {x : Except Failure α} {next : α → Except Failure β}
    {P : Breakdown → Prop} {Q : α → Breakdown → Prop} (h : BreaksFor x P)
    (hNext : ∀ a, x = .ok a → BreaksFor (next a) (Q a)) :
    BreaksFor (x >>= next) fun cause => P cause ∨ ∃ a, x = .ok a ∧ Q a cause := by
  refine ⟨fun cause => ?_, fun failure hFailure => ?_⟩
  · rw [bind_eq_error_iff]
    refine or_congr (h.breakdown_iff cause) (exists_congr fun a => and_congr_right fun hFirst => ?_)
    exact (hNext a hFirst).breakdown_iff cause
  · rcases bind_eq_error_iff.mp hFailure with hFirst | ⟨a, hFirst, hSecond⟩
    · exact h.family failure hFirst
    · exact (hNext a hFirst).family failure hSecond

/-- What is done with a result cannot break down. -/
theorem bind_ok {α β : Type u} {x : Except Failure α} {next : α → Except Failure β}
    {P : Breakdown → Prop} (h : BreaksFor x P) (hNext : ∀ a, x = .ok a → IsSteady (next a)) :
    BreaksFor (x >>= next) P :=
  (h.bind hNext).congr fun cause => by simp

/-- After a step that cannot break down, an operation breaks down as what follows. -/
theorem ok_bind {α β : Type u} {x : Except Failure α} {next : α → Except Failure β}
    {Q : α → Breakdown → Prop} (h : IsSteady x)
    (hNext : ∀ a, x = .ok a → BreaksFor (next a) (Q a)) :
    BreaksFor (x >>= next) fun cause => ∃ a, x = .ok a ∧ Q a cause :=
  (h.bind hNext).congr fun cause => by simp

/-- What is made of a result cannot break down. -/
theorem map {α β : Type u} {x : Except Failure α} {f : α → β} {P : Breakdown → Prop}
    (h : BreaksFor x P) : BreaksFor (x.map f) P where
  breakdown_iff cause := map_eq_error_iff.trans (h.breakdown_iff cause)
  family failure hFailure := h.family failure (map_eq_error_iff.mp hFailure)

end BreaksFor

end EntityForge
