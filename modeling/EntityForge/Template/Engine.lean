import EntityForge.Failure

/-! # Template engines

Templates are rendered by an engine. Nothing is taken for granted of its language: an engine is any
function from a call to an answer, where the answer may depend on all calls before, since a template
can change what it is given and what is given again. Three of its faults are foreseen and become
faults of templates; for any other cause it breaks off.
-/

namespace EntityForge.Template

/-- A call of an engine: the name of a template, and what it is given for its variables. -/
structure Call where
  name : Text
  given : Variables

/-- Why an engine gives no text: there is no template of that name, it is malformed, it reaches for
what it is not given, or there is a cause that nobody foresees. -/
inductive EngineFault
  | missing (reason : Text)
  | malformed (reason : Text)
  | undefined (reason : Text)
  | other (cause : Breakdown)

/-- The failure of rendering the template of that name. -/
def EngineFault.failure (name : Text) : EngineFault → Failure
  | .missing reason => .template (.missing name reason)
  | .malformed reason => .template (.malformed name reason)
  | .undefined reason => .template (.undefined name reason)
  | .other cause => .breakdown cause

/-- An engine with templates at hand: what it answers to a call after all calls before it, which
come in order, and whether it knows a template of a name. -/
structure Renderer where
  answer : List Call → Call → Except EngineFault Text
  knows : Text → Except Breakdown Bool

namespace Renderer

/-- The engine as it is after further calls. -/
def after (r : Renderer) (calls : List Call) : Renderer :=
  { r with answer := fun past call => r.answer (calls ++ past) call }

/-- Renders the template of that name. -/
def render (r : Renderer) (name : Text) (given : Variables) : Except Failure Text :=
  (r.answer [] ⟨name, given⟩).mapError (EngineFault.failure name)

/-- Renders for calls in turn, up to the first that fails or that there is no call for. -/
def renderAll (r : Renderer) : List (Except Failure Call) → Except Failure (List Text)
  | [] => .ok []
  | request :: rest => do
      let call ← request
      let code ← r.render call.name call.given
      let codes ← (r.after [call]).renderAll rest
      return code :: codes

/-- An engine whose answers do not depend on the calls before. -/
def IsForgetful (r : Renderer) : Prop := ∀ past call, r.answer past call = r.answer [] call

@[simp]
theorem after_nil (r : Renderer) : r.after [] = r := rfl

@[simp]
theorem after_after (r : Renderer) (calls more : List Call) :
    (r.after calls).after more = r.after (calls ++ more) := by
  simp only [after, List.append_assoc]

end Renderer

end EntityForge.Template
