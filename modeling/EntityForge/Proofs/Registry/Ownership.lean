import EntityForge.Proofs.Registry.History
import Mathlib

/-! # Who owns a name

A registration refuses an alias that is a registered language, and an alias that another language
has.  It does not look for its own name among the aliases.  So an alias is lost to a language that
is registered under it later, although the list of aliases goes on to show it: a name keeps its
owner exactly as long as no other language has that name (`owner_kept_iff`).
-/

namespace EntityForge.Registry

variable {r : Registry} {name language x owner : Text}

/-- The aliases that are listed for a language are those that it owns. -/
theorem lookup?_of_mem_aliasesOf (h : r.IsConsistent) (hMem : name ∈ r.aliasesOf language) :
    name.lower = name ∧ r.aliases.lookup? name = some language.lower := by
  have hEntry := mem_aliasesOf_iff.mp hMem
  exact ⟨h.aliases_low name (List.mem_map_of_mem hEntry),
    Entries.lookup?_of_mem h.aliases_nodup hEntry⟩

/-- A listed alias stands for its language exactly if there is no language of that name. -/
theorem resolve_alias_iff (h : r.IsConsistent) (hMem : name ∈ r.aliasesOf language) :
    r.resolve name = .ok language.lower ↔ name ∉ r.languages := by
  obtain ⟨hLow, hOwner⟩ := lookup?_of_mem_aliasesOf h hMem
  rw [resolve_eq_ok_iff, hLow]
  constructor
  · rintro (⟨-, hSelf⟩ | ⟨hFree, -⟩)
    · exact absurd hSelf.symm (h.owner_ne name _ hOwner)
    · exact hFree
  · exact fun hFree => .inr ⟨hFree, hOwner⟩

/-- What becomes of a name as more is registered. -/
theorem resolve_grown_iff {s : Registry} (hGrows : r.Grows s) (hOwner : r.resolve x = .ok owner) :
    s.resolve x = .ok owner ↔ (x.lower ∈ s.languages → x.lower = owner) := by
  rw [resolve_of_grows hGrows hOwner, Except.ok.injEq]
  by_cases hLanguage : x.lower ∈ s.languages <;> simp [hLanguage]

/-- After any history: a name that stands for a language stands for the same language after any
further registrations exactly if no other language has that name by then, and else for that one; and
an alias that is listed for a language stands for it exactly if no language has that name. -/
theorem owner_kept_iff (calls : List Registration) :
    (∀ x owner, (after calls).resolve x = .ok owner → ∀ more,
      ((after (calls ++ more)).resolve x = .ok owner ↔
        (x.lower ∈ (after (calls ++ more)).languages → x.lower = owner)) ∧
      (x.lower ∈ (after (calls ++ more)).languages →
        (after (calls ++ more)).resolve x = .ok x.lower)) ∧
    ∀ language, ∀ name ∈ (after calls).aliasesOf language,
      ((after calls).resolve name = .ok language.lower ↔ name ∉ (after calls).languages) := by
  refine ⟨fun x owner hOwner more => ?_, fun language name hMem => ?_⟩
  · have hGrows := grows_after calls more
    refine ⟨resolve_grown_iff hGrows hOwner, fun hLanguage => ?_⟩
    rw [resolve_of_grows hGrows hOwner, if_pos hLanguage]
  · exact resolve_alias_iff (isConsistent_after calls) hMem

/-- C# with an alias. -/
def aliased : Registration := { language := text "csharp", aliases := [text "cs"] }

/-- A language that is named like the alias. -/
def namesake : Registration := { language := text "CS" }

/-- With another language beside it, C# keeps its alias. -/
theorem owner_kept_iff_aliased :
    (after ([aliased] ++ [{ language := text "java" }])).resolve (text "Cs") =
        .ok (text "csharp") ∧
      text "cs" ∈ (after [aliased]).aliasesOf (text "csharp") ∧
      (after [aliased]).resolve (text "cs") = .ok (text "csharp") := by
  have hOwner : (after [aliased]).resolve (text "Cs") = .ok (text "csharp") := by rfl
  have hMem : text "cs" ∈ (after [aliased]).aliasesOf (text "csharp") := by decide +kernel
  refine ⟨((owner_kept_iff [aliased]).1 _ _ hOwner _).1.mpr ?_, hMem,
    ((owner_kept_iff [aliased]).2 _ _ hMem).mpr (by decide +kernel)⟩
  exact fun hLanguage => absurd (mem_languages_iff.mp hLanguage) (by decide +kernel)

/-- The alias is lost to the language that is registered under its name, and it is still listed for
the language that it has been registered for. -/
theorem owner_lost_namesake :
    (after [aliased]).resolve (text "cs") = .ok (text "csharp") ∧
      (after [aliased]).outcome namesake = .ok () ∧
      (after [aliased, namesake]).resolve (text "cs") = .ok (text "cs") ∧
      text "cs" ∈ (after [aliased, namesake]).aliasesOf (text "csharp") :=
  ⟨by rfl, by rfl, by rfl, by decide +kernel⟩

end EntityForge.Registry
