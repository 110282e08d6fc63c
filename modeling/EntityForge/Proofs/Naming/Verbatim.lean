import EntityForge.Proofs.Naming.Emitted

/-! # Identifiers as they are written

An identifier is written as it is or verbatim, that is behind an at sign, and exactly the texts that
are so written pass the naming rule of C# (`isValid_iff`).  A keyword is an identifier by its
spelling, so what is wrong with a name is at most one of two things: it is no identifier or it is a
keyword.  Escaping mends the second (`isProper_emitName`).
-/

namespace EntityForge.CSharp

/-- An identifier as it may be written: as it is, or verbatim. -/
def IsWrittenIdentifier (name : Text) : Prop :=
  ∃ word : Text, word.isIdentifier = true ∧ (name = word ∨ name = .char '@' :: word)

theorem isValid_iff {name : Text} :
    namingRule.isValid name = true ↔ IsWrittenIdentifier name := by
  have hMark : ∀ rest : Text, Text.isIdentifier (.char '@' :: rest) = false := by
    intro rest
    rw [Text.isIdentifier, show CodePoint.isIdentifierStart (.char '@') = false by decide,
      Bool.false_and]
  cases name with
  | nil =>
      refine iff_of_false (by decide) ?_
      rintro ⟨word, hWord, rfl | h⟩
      · exact absurd hWord (by decide)
      · cases h
  | cons first rest =>
      rw [NamingRule.isValid, unmarked_cons]
      by_cases hFirst : first = .char '@'
      · subst hFirst
        rw [if_pos rfl]
        constructor
        · exact fun h => ⟨rest, h, .inr rfl⟩
        · rintro ⟨word, hWord, rfl | h⟩
          · rw [hMark] at hWord
            exact absurd hWord (by simp)
          · rw [(List.cons.inj h).2]
            exact hWord
      · rw [if_neg hFirst]
        constructor
        · exact fun h => ⟨first :: rest, h, .inl rfl⟩
        · rintro ⟨word, hWord, rfl | h⟩
          · exact hWord
          · exact absurd (List.cons.inj h).1 hFirst

instance (name : Text) : Decidable (IsWrittenIdentifier name) := decidable_of_iff _ isValid_iff

theorem isKeyword_iff {name : Text} : isKeyword name = true ↔ name ∈ keywords.map text := by
  simp [isKeyword, NamingRule.isReserved, NamingRule.key, NamingRule.keyFor, namingRule,
    NamingRule.make]

/-- A keyword is spelled like an identifier. -/
theorem isWrittenIdentifier_of_mem_keywords {name : Text} (h : name ∈ keywords.map text) :
    IsWrittenIdentifier name := by
  have hKeywords : ∀ word ∈ keywords.map text, word.isIdentifier = true := by decide +kernel
  exact ⟨name, hKeywords name h, .inl rfl⟩

/-- No keyword is written verbatim. -/
theorem head_ne_of_isKeyword {name : Text} (h : isKeyword name = true) :
    name.head? ≠ some (.char '@') := by
  have hKeywords : ∀ word ∈ keywords.map text, word.head? ≠ some (.char '@') := by decide +kernel
  exact hKeywords name (isKeyword_iff.mp h)

/-! ### Names that code can show -/

/-- A name as code may show it: a written identifier that is no keyword. -/
structure IsProper (name : Text) : Prop where
  isWritten : IsWrittenIdentifier name
  not_keyword : name ∉ keywords.map text

theorem isFreeIdentifier_iff {name : Text} : isFreeIdentifier name = true ↔ IsProper name := by
  rw [isFreeIdentifier, Bool.and_eq_true, Bool.not_eq_true', isValid_iff, ← Bool.not_eq_true,
    isKeyword_iff]
  exact ⟨fun h => ⟨h.1, h.2⟩, fun h => ⟨h.1, h.2⟩⟩

/-- A written identifier is emitted as a proper name if it is no keyword or keywords are
escaped. -/
theorem isProper_emitName {escaping : Bool} {name : Text} (hWritten : IsWrittenIdentifier name)
    (hKeyword : escaping = true ∨ isKeyword name = false) : IsProper (emitName escaping name) := by
  rw [emitName_eq]
  split
  · next h =>
      have hName : isKeyword name = true := (Bool.and_eq_true_iff.mp h).2
      refine ⟨?_, fun hMem => ?_⟩
      · obtain ⟨word, hWord, hPlain | hMarked⟩ := hWritten
        · exact ⟨word, hWord, .inr (by rw [hPlain])⟩
        · exact absurd (by rw [hMarked, List.head?_cons]) (head_ne_of_isKeyword hName)
      · exact absurd rfl (head_ne_of_isKeyword (isKeyword_iff.mpr hMem))
  · next h =>
      refine ⟨hWritten, fun hMem => h ?_⟩
      rw [isKeyword_iff.mpr hMem, Bool.and_true]
      exact hKeyword.resolve_right (by simp [isKeyword_iff.mpr hMem])

end EntityForge.CSharp
