import EntityForge.Template.Render
import Mathlib.Data.List.Basic

/-! # Rendering node by node

The text of a sequence of nodes is the text of one node after the other, and the text of a loop is
that of its body for one item after the other.  The lemmas here say so for templates all of whose
nodes can be rendered; they take the place of the definitions in everything that follows.
-/

namespace EntityForge.Template

variable {markup : Bool} {scope : Scope}

@[simp]
theorem plain_string (t : Text) : (Value.string t).plain = t := by
  rw [Value.plain]

theorem spell_value (v : Value) : (Datum.value v).spell = .ok v.plain := by
  rw [Datum.spell, Datum.plain?]

/-! ### Expressions -/

/-- A name that no loop binds stands for what the template is given. -/
theorem eval_name {n : Text} {d : Datum} (hLoops : scope.loops.lookup? n = none)
    (hGiven : scope.given.lookup? n = some d) : (Expr.name n).eval scope = .ok d := by
  simp only [Expr.eval, hLoops, hGiven, Option.none_or]

/-- What is in scope in the body of a loop. -/
def Scope.inLoop (scope : Scope) (target : Text) (items : List Datum) (item : Datum) (index : Nat) :
    Scope :=
  { scope with loops := (target, item) :: (loopName, .loop items index) :: scope.loops }

/-- In the body of a loop its variable stands for the item. -/
theorem eval_target {target : Text} {items : List Datum} {item : Datum} {index : Nat} :
    (Expr.name target).eval (scope.inLoop target items item index) = .ok item := by
  simp [Expr.eval, Scope.inLoop, Entries.lookup?]

/-- In the body of a loop any other name stands for what it stands for around the loop. -/
theorem eval_name_inLoop {n target : Text} {items : List Datum} {item : Datum} {index : Nat}
    (hTarget : target ≠ n) (hState : loopName ≠ n) :
    (Expr.name n).eval (scope.inLoop target items item index) = (Expr.name n).eval scope := by
  simp only [Expr.eval, Scope.inLoop, Entries.lookup?, hTarget, hState, if_false]

theorem eval_attribute {e : Expr} {d part : Datum} {n : Text} (h : e.eval scope = .ok d)
    (hPart : d.getAttribute n = .ok part) : (Expr.attribute e n).eval scope = .ok part := by
  rw [Expr.eval, h]
  exact hPart

theorem eval_comment {e : Expr} {style : Text} {v : Value} (h : e.eval scope = .ok (.value v)) :
    (Expr.comment e style).eval scope = .ok (.value (.string (commentLines style v.plain))) := by
  rw [Expr.eval, h]
  simp only [bind, Except.bind, spell_value]
  rfl

/-! ### Nodes -/

theorem renderAll_nil : renderAll markup scope [] = .ok [] := by
  rw [renderAll]

theorem renderAll_cons {node : Node} {rest : List Node} {front back : Text}
    (hFront : node.render markup scope = .ok front)
    (hBack : renderAll markup scope rest = .ok back) :
    renderAll markup scope (node :: rest) = .ok (front ++ back) := by
  rw [renderAll, hFront, hBack]
  rfl

theorem render_data (t : Text) : (Node.data t).render markup scope = .ok t := by
  rw [Node.render]

theorem render_print {e : Expr} {v : Value} (h : e.eval scope = .ok (.value v)) :
    (Node.print e).render false scope = .ok v.plain := by
  rw [Node.render, h]
  simp only [bind, Except.bind, spell_value]
  rfl

theorem render_branch {e : Expr} {d : Datum} {yes no : List Node} (h : e.eval scope = .ok d) :
    (Node.branch e yes no).render markup scope =
      if d.isTruthy then renderAll markup scope yes else renderAll markup scope no := by
  rw [Node.render, h]
  rfl

/-- A body that renders each of some items, wherever it stands, renders all of them in order. -/
theorem mapM_zipIdx {α : Type} {toDatum : α → Datum} {xs : List α} {piece : α → Text}
    (body : Datum → Nat → Except RenderFault Text)
    (hBody : ∀ x ∈ xs, ∀ index, body (toDatum x) index = .ok (piece x)) (first : Nat) :
    ((xs.map toDatum).zipIdx first).mapM (fun entry => body entry.1 entry.2) =
      .ok (xs.map piece) := by
  induction xs generalizing first with
  | nil => rfl
  | cons x rest ih =>
      have hRest := ih (fun y hy => hBody y (List.mem_cons_of_mem _ hy)) (first + 1)
      rw [List.map_cons, List.zipIdx_cons, List.mapM_cons, hBody x List.mem_cons_self, hRest]
      rfl

/-- A loop renders its body for every item in order. -/
theorem render_loop {α : Type} {target : Text} {e : Expr} {d : Datum} {body : List Node}
    (toDatum : α → Datum) (xs : List α) (piece : α → Text) (hEval : e.eval scope = .ok d)
    (hItems : d.items? = some (xs.map toDatum))
    (hBody : ∀ x ∈ xs, ∀ index,
      renderAll markup (scope.inLoop target (xs.map toDatum) (toDatum x) index) body =
        .ok (piece x)) :
    (Node.loop target e body).render markup scope = .ok (xs.flatMap piece) := by
  have hTexts := mapM_zipIdx (fun item index =>
    renderAll markup (scope.inLoop target (xs.map toDatum) item index) body) hBody 0
  rw [List.flatMap_def, Node.render, hEval]
  simp only [bind, Except.bind, hItems, pure, Except.pure]
  simp only [Scope.inLoop] at hTexts
  rw [hTexts]

/-- A list that is turned round is found turned round. -/
theorem lookup?_turnIn (given : Variables) (name : Text) :
    (turnIn given name).lookup? name = (given.lookup? name).map Datum.turned := by
  induction given with
  | nil => rfl
  | cons entry rest ih =>
      obtain ⟨n, d⟩ := entry
      by_cases h : n = name
      · simp [turnIn, Entries.lookup?, h]
      · simp only [turnIn, List.map_cons, Entries.lookup?, if_neg h]
        exact ih

/-- A template that turns no list round has the text of its nodes, and leaves all lists as they
are. -/
theorem renderTop_of_none {nodes : List Node} (h : ∀ node ∈ nodes, node.reversed? = none) :
    renderTop markup scope nodes = (renderAll markup scope nodes, fun _ => false) := by
  induction nodes with
  | nil => rw [renderTop, renderAll]
  | cons node rest ih =>
      obtain ⟨hNode, hRest⟩ := List.forall_mem_cons.mp h
      rw [renderTop, renderAll, hNode, ih hRest]
      cases node.render markup scope with
      | error fault => rfl
      | ok front => cases renderAll markup scope rest <;> rfl

end EntityForge.Template
