import EntityForge.Naming.Escaping

/-! # Memories of names

A name that is emitted is remembered with its emitted form, and the next time that form is looked
up.  All that is ever remembered of a name is what its rule makes of it (`NameMemo.Recalls`), so
names are emitted in any sequence as without a memory (`NameMemo.Recalls.emitAll`).
-/

namespace EntityForge.NameMemo

/-- A memory that holds nothing but what a rule makes of names. -/
structure Recalls (memo : NameMemo) (rule : NamingRule) : Prop where
  rule_eq : memo.rule = rule
  known : ∀ name emitted, memo.known.lookup? name = some emitted → emitted = rule.escape name

variable {memo : NameMemo} {rule : NamingRule}

theorem recalls_empty (rule : NamingRule) : Recalls { rule } rule where
  rule_eq := rfl
  known := by
    intro name emitted h
    cases h

theorem emit_of_known {name emitted : Text} (h : memo.known.lookup? name = some emitted) :
    memo.emit true name = (emitted, memo) := by
  rw [emit, h]
  rfl

theorem emit_of_unknown {name : Text} (h : memo.known.lookup? name = none) :
    memo.emit true name =
      (memo.rule.escape name,
        { memo with known := memo.known.put name (memo.rule.escape name) }) := by
  rw [emit, h]
  rfl

/-- A name may be remembered with what the rule makes of it. -/
theorem Recalls.put (h : memo.Recalls rule) (name : Text) :
    Recalls { memo with known := memo.known.put name (memo.rule.escape name) } rule where
  rule_eq := h.rule_eq
  known := by
    intro other emitted hOther
    by_cases hSame : other = name
    · subst hSame
      rw [Entries.lookup?_put_self, Option.some.injEq] at hOther
      rw [← hOther, h.rule_eq]
    · rw [Entries.lookup?_put_of_ne _ _ hSame] at hOther
      exact h.known other emitted hOther

/-- One step: a name is emitted as without a memory, which stays right. -/
theorem Recalls.emit (h : memo.Recalls rule) (escaping : Bool) (name : Text) :
    (memo.emit escaping name).1 = rule.emit escaping name ∧
      (memo.emit escaping name).2.Recalls rule := by
  cases escaping with
  | false => exact ⟨rfl, h⟩
  | true =>
      cases hKnown : memo.known.lookup? name with
      | some emitted =>
          rw [emit_of_known hKnown]
          exact ⟨h.known name emitted hKnown, h⟩
      | none =>
          rw [emit_of_unknown hKnown]
          exact ⟨congrArg (NamingRule.escape · name) h.rule_eq, h.put name⟩

/-- The emitted forms of names in order, each with or without escaping, and the memory after
them. -/
def emitAll (memo : NameMemo) : List (Bool × Text) → List Text × NameMemo
  | [] => ([], memo)
  | (escaping, name) :: rest =>
      let (emitted, memo) := memo.emit escaping name
      let (more, memo) := emitAll memo rest
      (emitted :: more, memo)

/-- The run: the names of any sequence are emitted as without a memory. -/
theorem Recalls.emitAll (h : memo.Recalls rule) (requests : List (Bool × Text)) :
    (memo.emitAll requests).1 = requests.map fun request => rule.emit request.1 request.2 := by
  induction requests generalizing memo with
  | nil => rfl
  | cons request rest ih =>
      obtain ⟨hEmitted, hNext⟩ := h.emit request.1 request.2
      rw [NameMemo.emitAll, List.map_cons, ← hEmitted, ← ih hNext]

/-- After the names of any sequence the memory is right. -/
theorem Recalls.after_emitAll (h : memo.Recalls rule) (requests : List (Bool × Text)) :
    (memo.emitAll requests).2.Recalls rule := by
  induction requests generalizing memo with
  | nil => exact h
  | cons request rest ih => exact ih (h.emit request.1 request.2).2

end EntityForge.NameMemo
