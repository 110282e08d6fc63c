import EntityForge.Template.Library
import EntityForge.Proofs.FirstFault

/-! # Engines in use

Calls are answered in turn, each after those before it.  `Renderer.Manages r calls` says that all of
them get a text, and `renderAll_eq_error_iff` at which call an engine ends that does not manage them
all.  An engine is forgetful if it answers every call as if there had been none before; then the
order of calls does not matter, and the engine is the same at any time.

The library is such an engine as long as no template in it turns a list round.
-/

namespace EntityForge.Template

namespace Renderer

variable {r : Renderer} {call : Call} {calls : List Call}

/-! ### Calls in turn -/

/-- The engine has a text for every one of these calls in turn. -/
def Manages (r : Renderer) (calls : List Call) : Prop :=
  ∀ before call after, calls = before ++ call :: after → ∃ code, r.answer before call = .ok code

theorem manages_nil : r.Manages [] := by
  intro before call after h
  simp at h

theorem manages_cons_iff :
    r.Manages (call :: calls) ↔
      (∃ code, r.answer [] call = .ok code) ∧ (r.after [call]).Manages calls := by
  constructor
  · intro h
    refine ⟨h [] call calls rfl, fun before other after hSplit => ?_⟩
    exact h (call :: before) other after (by rw [hSplit, List.cons_append])
  · rintro ⟨hFirst, hRest⟩ before other after hSplit
    cases before with
    | nil =>
        obtain ⟨rfl, -⟩ := List.cons.inj hSplit
        exact hFirst
    | cons first before =>
        obtain ⟨rfl, rfl⟩ := List.cons.inj hSplit
        exact hRest before other after rfl

theorem render_eq_ok_iff {code : Text} :
    r.render call.name call.given = .ok code ↔ r.answer [] call = .ok code :=
  mapError_eq_ok_iff

/-- Calls in turn fail at the first that the engine has no text for. -/
theorem renderAll_eq_error_iff {failure : Failure} :
    r.renderAll (calls.map .ok) = .error failure ↔
      ∃ before call after fault, calls = before ++ call :: after ∧ r.Manages before ∧
        r.answer before call = .error fault ∧ fault.failure call.name = failure := by
  induction calls generalizing r with
  | nil => simp [renderAll]
  | cons first rest ih =>
      have hStep : r.renderAll ((first :: rest).map .ok) = .error failure ↔
          r.render first.name first.given = .error failure ∨
            ∃ code, r.answer [] first = .ok code ∧
              (r.after [first]).renderAll (rest.map .ok) = .error failure := by
        rw [List.map_cons, renderAll]
        simp [bind_eq_error_iff, pure, Except.pure, render_eq_ok_iff]
      rw [hStep, render, mapError_eq_error_iff, ih]
      constructor
      · rintro (⟨fault, hFault, hFailure⟩ |
          ⟨code, hFirst, before, call, after, fault, hSplit, hBefore, hFault, hFailure⟩)
        · exact ⟨[], first, rest, fault, rfl, manages_nil, hFault, hFailure⟩
        · exact ⟨first :: before, call, after, fault, by rw [hSplit, List.cons_append],
            manages_cons_iff.mpr ⟨⟨code, hFirst⟩, hBefore⟩, hFault, hFailure⟩
      · rintro ⟨before, call, after, fault, hSplit, hBefore, hFault, hFailure⟩
        cases before with
        | nil =>
            obtain ⟨rfl, -⟩ := List.cons.inj hSplit
            exact .inl ⟨fault, hFault, hFailure⟩
        | cons other before =>
            obtain ⟨rfl, rfl⟩ := List.cons.inj hSplit
            obtain ⟨⟨code, hFirst⟩, hMore⟩ := manages_cons_iff.mp hBefore
            exact .inr ⟨code, hFirst, before, call, after, fault, rfl, hMore, hFault, hFailure⟩

/-- As many texts come back as there were calls. -/
theorem length_of_renderAll {requests : List (Except Failure Call)} {codes : List Text}
    (h : r.renderAll requests = .ok codes) : codes.length = requests.length := by
  induction requests generalizing r codes with
  | nil =>
      cases h
      rfl
  | cons request rest ih =>
      rw [renderAll] at h
      obtain ⟨call, -, hCode⟩ := bind_eq_ok_iff.mp h
      obtain ⟨code, -, hRest⟩ := bind_eq_ok_iff.mp hCode
      obtain ⟨more, hMore, hCodes⟩ := bind_eq_ok_iff.mp hRest
      cases hCodes
      rw [List.length_cons, List.length_cons, ih hMore]

/-! ### Engines that are always the same -/

/-- A forgetful engine is the same after any calls. -/
theorem IsForgetful.after_eq (h : r.IsForgetful) (calls : List Call) : r.after calls = r := by
  have hAnswer : (fun past call => r.answer (calls ++ past) call) = r.answer := by
    funext past call
    rw [h (calls ++ past) call, h past call]
  rw [after, hAnswer]

/-- A forgetful engine answers each of some calls on its own. -/
theorem IsForgetful.renderAll_eq (h : r.IsForgetful) (requests : List (Except Failure Call)) :
    r.renderAll requests =
      requests.mapM fun request => request >>= fun call => r.render call.name call.given := by
  induction requests with
  | nil => rfl
  | cons request rest ih =>
      rw [renderAll, List.mapM_cons, bind_assoc]
      refine congrArg _ (funext fun call => ?_)
      rw [h.after_eq, ih]

end Renderer

end EntityForge.Template

/-! ### The library as an engine -/

namespace EntityForge.TemplateLibrary

open Template

/-- No template of the library turns a list round. -/
def LeavesLists (library : TemplateLibrary) : Prop :=
  ∀ name nodes, library.find name = .ok (.found nodes) → ∀ node ∈ nodes, node.reversed? = none

variable {library : TemplateLibrary}

theorem isTurnedAfter_of_leavesLists (h : library.LeavesLists) (name : Text) (past : List Call) :
    library.isTurnedAfter name past = false := by
  rw [isTurnedAfter]
  split
  · next nodes hFind =>
      have hNone : (nodes.any fun node => node.reversed?.isSome) = false := by
        simpa using h name nodes hFind
      rw [hNone, if_neg Bool.false_ne_true]
  · rfl

theorem isForgetful_of_leavesLists (h : library.LeavesLists) : library.renderer.IsForgetful := by
  intro past call
  simp only [renderer, isTurnedAfter_of_leavesLists h]

/-- What such a library answers does not depend on what was asked before. -/
theorem render_of_leavesLists (h : library.LeavesLists) (name : Text) (given : Variables) :
    library.renderer.render name given =
      (library.perform false ⟨name, given⟩).1.mapError (EngineFault.failure name) := by
  simp only [Renderer.render, renderer, isTurnedAfter_of_leavesLists h]

end EntityForge.TemplateLibrary
