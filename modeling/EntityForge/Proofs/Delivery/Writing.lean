import EntityForge.Proofs.Delivery.Atomicity
import Mathlib

/-! # Writing into a directory

A sink that writes into a directory makes the directory and opens a file for each artifact.  Only
the faults of the system in opening and filling the file are foreseen; `WriteBreaks` lists what else
can be wrong with one artifact, on any disk, and `WritingBreaks` follows the artifacts of a run up
to the first with which something is.
-/

namespace EntityForge

namespace Disk

variable {σ : Type} {disk : Disk σ} {directory : Path} {state : σ} {a : Artifact}
  {cause : Breakdown}

/-- Writing an artifact into a directory breaks down: the directory cannot be made, the file cannot
be opened for a cause that is no fault of the system, the artifact has no bytes, or the file cannot
be filled for such a cause. -/
inductive WriteBreaks (disk : Disk σ) (directory : Path) (state : σ) (a : Artifact) :
    Breakdown → Prop
  | directory {made : σ} {cause : Breakdown}
      (hMake : disk.makeDirectories state directory = (made, some cause)) :
      WriteBreaks disk directory state a cause
  | file {made opened : σ} {cause : Breakdown}
      (hMake : disk.makeDirectories state directory = (made, none))
      (hOpen : disk.openFile made (directory.child a.name) = (opened, some cause))
      (hForeign : ∀ fault, cause ≠ .file fault) : WriteBreaks disk directory state a cause
  | content {made opened : σ} {run : Utf8.SurrogateRun}
      (hMake : disk.makeDirectories state directory = (made, none))
      (hOpen : disk.openFile made (directory.child a.name) = (opened, none))
      (hEncode : Utf8.encode a.content = .error run) :
      WriteBreaks disk directory state a (.unencodable run)
  | filling {made opened filled : σ} {bytes : Bytes} {cause : Breakdown}
      (hMake : disk.makeDirectories state directory = (made, none))
      (hOpen : disk.openFile made (directory.child a.name) = (opened, none))
      (hEncode : Utf8.encode a.content = .ok bytes)
      (hFill : disk.fill opened (directory.child a.name) bytes = (filled, some cause))
      (hForeign : ∀ fault, cause ≠ .file fault) : WriteBreaks disk directory state a cause

/-- Writing artifacts one after the other breaks down with one of them, in the state that there is
after those before it. -/
inductive WritingBreaks (disk : Disk σ) (directory : Path) :
    σ → List Artifact → Breakdown → Prop
  | here {state : σ} {a : Artifact} {rest : List Artifact} {cause : Breakdown}
      (hBreaks : WriteBreaks disk directory state a cause) :
      WritingBreaks disk directory state (a :: rest) cause
  | later {state written : σ} {a : Artifact} {rest : List Artifact} {cause : Breakdown}
      (hWrite : disk.writeInto directory state a = (written, none))
      (hRest : WritingBreaks disk directory written rest cause) :
      WritingBreaks disk directory state (a :: rest) cause

/-- The causes of a breakdown are those that are no faults of the system. -/
theorem failureAt_eq_breakdown_iff {path : Path} {found : Breakdown} :
    failureAt path found = .breakdown cause ↔ found = cause ∧ ∀ fault, cause ≠ .file fault := by
  cases found with
  | file fault =>
      simp only [failureAt, reduceCtorEq, false_iff, not_and, not_forall, not_not]
      rintro rfl
      exact ⟨fault, rfl⟩
  | _ =>
      simp only [failureAt, Failure.breakdown.injEq, iff_self_and]
      rintro rfl fault
      simp

theorem writeInto_eq_breakdown_iff :
    (disk.writeInto directory state a).2 = some (.breakdown cause) ↔
      WriteBreaks disk directory state a cause := by
  constructor
  · intro h
    unfold writeInto at h
    split at h
    · next hMake =>
        cases h
        exact .directory hMake
    · next hMake =>
        dsimp only at h
        split at h
        · next hOpen =>
            obtain ⟨rfl, hForeign⟩ := failureAt_eq_breakdown_iff.mp (Option.some.inj h)
            exact .file hMake hOpen hForeign
        · next hOpen =>
            split at h
            · next hEncode =>
                cases h
                exact .content hMake hOpen hEncode
            · next hEncode =>
                split at h
                · next hFill =>
                    obtain ⟨rfl, hForeign⟩ := failureAt_eq_breakdown_iff.mp (Option.some.inj h)
                    exact .filling hMake hOpen hEncode hFill hForeign
                · cases h
  · rintro (hMake | ⟨hMake, hOpen, hForeign⟩ | ⟨hMake, hOpen, hEncode⟩ |
      ⟨hMake, hOpen, hEncode, hFill, hForeign⟩)
    · simp only [writeInto, hMake]
    · simp only [writeInto, hMake, hOpen]
      exact congrArg some (failureAt_eq_breakdown_iff.mpr ⟨rfl, hForeign⟩)
    · simp only [writeInto, hMake, hOpen, hEncode]
    · simp only [writeInto, hMake, hOpen, hEncode, hFill]
      exact congrArg some (failureAt_eq_breakdown_iff.mpr ⟨rfl, hForeign⟩)

/-- Adding artifacts with new names to a sink breaks down as writing them does. -/
theorem addAll_eq_breakdown_iff {sink : Sink σ} {artifacts : List Artifact}
    (hNodup : (artifacts.map Artifact.name).Nodup)
    (hNew : ∀ b ∈ artifacts, b.name ∉ sink.delivered) :
    (sink.addAll (disk.medium directory) artifacts).2 = some (.breakdown cause) ↔
      WritingBreaks disk directory sink.state artifacts cause := by
  induction artifacts generalizing sink with
  | nil =>
      refine iff_of_false (by simp [Sink.addAll]) ?_
      intro h
      cases h
  | cons a rest ih =>
      obtain ⟨hFirst, hRest⟩ := List.nodup_cons.mp hNodup
      obtain ⟨hNewFirst, hNewRest⟩ := List.forall_mem_cons.mp hNew
      have hHere : (disk.writeInto directory sink.state a).2 = some (.breakdown cause) ↔
          WriteBreaks disk directory sink.state a cause := writeInto_eq_breakdown_iff
      cases hWrite : disk.writeInto directory sink.state a with
      | mk written failed =>
          rw [hWrite] at hHere
          simp only [Sink.addAll, Sink.add, if_neg hNewFirst, medium, hWrite]
          cases failed with
          | some failure =>
              rw [hHere]
              constructor
              · exact .here
              · intro h
                cases h with
                | here hBreaks => exact hBreaks
                | later hOther => rw [hWrite] at hOther; cases hOther
          | none =>
              have hNext : ∀ b ∈ rest, b.name ∉ sink.delivered ++ [a.name] := by
                intro b hb hMem
                rcases List.mem_append.mp hMem with hOld | hSame
                · exact hNewRest b hb hOld
                · exact hFirst (List.mem_map.mpr ⟨b, hb, List.mem_singleton.mp hSame⟩)
              refine (ih hRest hNext).trans ⟨.later hWrite, ?_⟩
              intro h
              cases h with
              | here hBreaks => exact absurd (hHere.mpr hBreaks) (by simp)
              | later hOther hMore =>
                  rw [hWrite] at hOther
                  cases hOther
                  exact hMore

end Disk

end EntityForge
