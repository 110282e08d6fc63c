/-! # Repeated keys

The items of a list whose key has come before, each key being reported once, at its second
occurrence.
-/

namespace EntityForge

universe u v

/-- The items whose key is among `seen`, one for each key that is not yet `reported`. -/
def repeatedFrom {α : Type u} {β : Type v} [DecidableEq β] (key : α → β) (seen reported : List β) :
    List α → List α
  | [] => []
  | item :: rest =>
      let k := key item
      if k ∈ seen ∧ k ∉ reported then
        item :: repeatedFrom key (k :: seen) (k :: reported) rest
      else repeatedFrom key (k :: seen) reported rest

/-- The items whose key has come before, each key reported at its second occurrence. -/
def repeated {α : Type u} {β : Type v} [DecidableEq β] (key : α → β) (items : List α) : List α :=
  repeatedFrom key [] [] items

end EntityForge
