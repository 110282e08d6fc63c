import EntityForge.Proofs.CSharp.Announcements

/-! # Letters, digits and numerals in names

A name should be a letter or an underscore, followed by letters, decimal digits and underscores,
perhaps behind an at sign.  `IsNameOver` is this grammar for any class of letters.  The names that
pass the naming rule of C# are those of the grammar if every numeral that is no decimal digit counts
as a letter (`isValid_iff_isNameOver`), so also superscripts, fractions and circled numbers.

Letters, decimal digits and these numerals have no code point in common, which is compared table by
table (`CodeRanges.areApart`).  So the names that pass against the grammar for letters proper are
those that hold such a numeral (`isNameOver_isLetter_iff`), and no other name is judged wrongly.
-/

namespace EntityForge

namespace CodeRanges

/-- Have two tables no number in common?  Both are gone through once. -/
def areApart : CodeRanges → CodeRanges → Bool
  | [], _ => true
  | r :: rest, others =>
      let later := others.dropWhile fun s => s.2 < r.1
      later.head?.all (fun s => r.2 < s.1) && areApart rest later

variable {ranges others : CodeRanges} {n bound : Nat}

/-- A number is still found if the ranges that end before it are left out. -/
theorem has_dropWhile (hBound : bound ≤ n) (h : ranges.has n = true) :
    has (ranges.dropWhile fun s => s.2 < bound) n = true := by
  induction ranges with
  | nil => exact h
  | cons s rest ih =>
      rw [List.dropWhile_cons]
      split
      · next hEnd =>
          have hBefore : ¬ n ≤ s.2 := by
            have hLast : s.2 < bound := by simpa using hEnd
            omega
          rw [has, if_neg hBefore] at h
          split at h
          · cases h
          · exact ih h
      · exact h

/-- A number in front of the first range is in none. -/
theorem has_of_head (hHead : ranges.head?.all (fun s => bound < s.1) = true) (h : n ≤ bound) :
    ranges.has n = false := by
  cases ranges with
  | nil => rfl
  | cons s rest =>
      have hFirst : bound < s.1 := by simpa using hHead
      rw [has, if_pos (by omega)]

/-- A number of one table is none of the other. -/
theorem has_eq_false_of_areApart (hApart : areApart ranges others = true)
    (h : ranges.has n = true) : others.has n = false := by
  induction ranges generalizing others with
  | nil => cases h
  | cons r rest ih =>
      simp only [areApart, Bool.and_eq_true] at hApart
      obtain ⟨hHead, hRest⟩ := hApart
      by_contra hOther
      rw [has] at h
      split at h
      · cases h
      · next hFirst =>
          have hLater := has_dropWhile (Nat.le_of_not_lt hFirst) (eq_true_of_ne_false hOther)
          split at h
          · next hLast => simp [has_of_head hHead hLast] at hLater
          · simp [ih hRest h] at hLater

end CodeRanges

namespace CodePoint

variable {p : CodePoint}

/-- The tables of letters, decimal digits and other numerals have no number in common. -/
theorem tables_areApart :
    CodeRanges.areApart Text.letterRanges Text.decimalRanges = true ∧
      CodeRanges.areApart Text.otherNumeralRanges Text.decimalRanges = true ∧
      CodeRanges.areApart Text.letterRanges Text.otherNumeralRanges = true := by
  decide +kernel

theorem not_isDecimal_of_isLetter (h : p.isLetter = true) : p.isDecimal = false :=
  CodeRanges.has_eq_false_of_areApart tables_areApart.1 h

theorem not_isDecimal_of_isOtherNumeral (h : p.isOtherNumeral = true) : p.isDecimal = false :=
  CodeRanges.has_eq_false_of_areApart tables_areApart.2.1 h

theorem not_isOtherNumeral_of_isLetter (h : p.isLetter = true) : p.isOtherNumeral = false :=
  CodeRanges.has_eq_false_of_areApart tables_areApart.2.2 h

/-- A letter, or a numeral that is no decimal digit. -/
def isLetterOrNumeral (p : CodePoint) : Bool := p.isLetter || p.isOtherNumeral

theorem isWord_iff :
    p.isWord = true ↔ p.isLetterOrNumeral = true ∨ p.isDecimal = true ∨ p = .char '_' := by
  simp only [isWord, isLetterOrNumeral, Bool.or_eq_true, beq_iff_eq]
  tauto

theorem isIdentifierStart_iff :
    p.isIdentifierStart = true ↔ p.isLetterOrNumeral = true ∨ p = .char '_' := by
  rw [isIdentifierStart, Bool.and_eq_true, Bool.not_eq_true', isWord_iff]
  constructor
  · rintro ⟨hLetter | hDecimal | hMark, hStart⟩
    · exact .inl hLetter
    · simp [hDecimal] at hStart
    · exact .inr hMark
  · rintro (hLetter | rfl)
    · refine ⟨.inl hLetter, ?_⟩
      rcases Bool.or_eq_true_iff.mp hLetter with h | h
      · exact not_isDecimal_of_isLetter h
      · exact not_isDecimal_of_isOtherNumeral h
    · decide

end CodePoint

namespace Text

/-- A letter or an underscore, followed by letters, decimal digits and underscores, for a class of
letters. -/
def IsWordOver (letter : CodePoint → Bool) (t : Text) : Prop :=
  ∃ first rest, t = first :: rest ∧ (letter first = true ∨ first = .char '_') ∧
    ∀ p ∈ rest, letter p = true ∨ p.isDecimal = true ∨ p = .char '_'

variable {t : Text}

theorem isIdentifier_iff :
    t.isIdentifier = true ↔ t.IsWordOver CodePoint.isLetterOrNumeral := by
  cases t with
  | nil => simp [isIdentifier, IsWordOver]
  | cons first rest =>
      simp only [isIdentifier, Bool.and_eq_true, List.all_eq_true, CodePoint.isWord_iff,
        CodePoint.isIdentifierStart_iff]
      constructor
      · exact fun h => ⟨first, rest, rfl, h⟩
      · rintro ⟨_, _, ⟨⟩, h⟩
        exact h

/-- The words of letters proper are those that hold no other numeral. -/
theorem isWordOver_isLetter_iff :
    t.IsWordOver CodePoint.isLetter ↔
      t.IsWordOver CodePoint.isLetterOrNumeral ∧ ∀ p ∈ t, p.isOtherNumeral = false := by
  have hMark : CodePoint.isOtherNumeral (.char '_') = false := by decide
  have hDecimal : ∀ p : CodePoint, p.isDecimal = true → p.isOtherNumeral = false := by
    intro p hp
    by_contra h
    simp [CodePoint.not_isDecimal_of_isOtherNumeral (eq_true_of_ne_false h)] at hp
  constructor
  · rintro ⟨first, rest, rfl, hFirst, hRest⟩
    refine ⟨⟨first, rest, rfl, ?_, fun p hp => ?_⟩, List.forall_mem_cons.mpr ⟨?_, fun p hp => ?_⟩⟩
    · exact hFirst.imp_left fun h => Bool.or_eq_true_iff.mpr (.inl h)
    · exact (hRest p hp).imp_left fun h => Bool.or_eq_true_iff.mpr (.inl h)
    · rcases hFirst with h | rfl
      · exact CodePoint.not_isOtherNumeral_of_isLetter h
      · exact hMark
    · rcases hRest p hp with h | h | rfl
      · exact CodePoint.not_isOtherNumeral_of_isLetter h
      · exact hDecimal p h
      · exact hMark
  · rintro ⟨⟨first, rest, rfl, hFirst, hRest⟩, hNone⟩
    obtain ⟨hFirstNone, hRestNone⟩ := List.forall_mem_cons.mp hNone
    refine ⟨first, rest, rfl, ?_, fun p hp => ?_⟩
    · simpa [CodePoint.isLetterOrNumeral, hFirstNone] using hFirst
    · simpa [CodePoint.isLetterOrNumeral, hRestNone p hp] using hRest p hp

end Text

namespace CSharp

/-- A word over a class of letters, perhaps behind an at sign. -/
def IsNameOver (letter : CodePoint → Bool) (name : Text) : Prop :=
  ∃ word : Text, word.IsWordOver letter ∧ (name = word ∨ name = .char '@' :: word)

variable {name : Text}

/-- The names that pass the naming rule. -/
theorem isValid_iff_isNameOver :
    namingRule.isValid name = true ↔ IsNameOver CodePoint.isLetterOrNumeral name := by
  simp only [isValid_iff, IsWrittenIdentifier, IsNameOver, Text.isIdentifier_iff]

/-- Of the names that pass, the grammar for letters proper has those that hold no other numeral. -/
theorem isNameOver_isLetter_iff :
    IsNameOver CodePoint.isLetter name ↔
      IsNameOver CodePoint.isLetterOrNumeral name ∧ ∀ p ∈ name, p.isOtherNumeral = false := by
  have hMark : CodePoint.isOtherNumeral (.char '@') = false := by decide
  constructor
  · rintro ⟨word, hWord, hName⟩
    obtain ⟨hNumeral, hNone⟩ := Text.isWordOver_isLetter_iff.mp hWord
    refine ⟨⟨word, hNumeral, hName⟩, ?_⟩
    rcases hName with rfl | rfl
    · exact hNone
    · exact List.forall_mem_cons.mpr ⟨hMark, hNone⟩
  · rintro ⟨⟨word, hWord, hName⟩, hNone⟩
    refine ⟨word, Text.isWordOver_isLetter_iff.mpr ⟨hWord, ?_⟩, hName⟩
    rcases hName with rfl | rfl
    · exact hNone
    · exact (List.forall_mem_cons.mp hNone).2

/-- Every name of a schema that passes the check passes the naming rule. -/
theorem isValid_of_mem_suppliedNames {s : Settings} {schema : Schema}
    {warnings : List SchemaWarning} (hCheck : checkSchema s schema = .ok warnings) :
    ∀ n ∈ suppliedNames schema, namingRule.isValid n.declared = true := by
  rw [forall_mem_suppliedNames]
  intro e he
  have hNamed := isNamedWell_of_checkSchema hCheck e he
  exact ⟨hNamed.name.isValid, hNamed.tableName.isValid, fun p hp => (hNamed.property p hp).isValid⟩

/-- A name passes the naming rule exactly if it is of the grammar in which every numeral that is no
decimal digit counts as a letter, and is of the grammar for letters proper exactly if it passes and
holds no such numeral. Where it names an entity, a table or a property of a schema that passes the
check, it is of the first grammar, and of the second one if it holds no such numeral. -/
theorem isValid_iff_grammar (name : Text) :
    (namingRule.isValid name = true ↔ IsNameOver CodePoint.isLetterOrNumeral name) ∧
      (IsNameOver CodePoint.isLetter name ↔
        namingRule.isValid name = true ∧ ∀ p ∈ name, p.isOtherNumeral = false) ∧
      ∀ (g : Generator) (schema : Schema) (warnings : List SchemaWarning),
        g.check schema = .ok warnings → name ∈ (suppliedNames schema).map SuppliedName.declared →
        IsNameOver CodePoint.isLetterOrNumeral name ∧
          (IsNameOver CodePoint.isLetter name ↔ ∀ p ∈ name, p.isOtherNumeral = false) := by
  refine ⟨isValid_iff_isNameOver, ?_, fun g schema warnings hCheck hName => ?_⟩
  · rw [isNameOver_isLetter_iff, isValid_iff_isNameOver]
  · obtain ⟨n, hn, rfl⟩ := List.mem_map.mp hName
    have hValid := isValid_iff_isNameOver.mp (isValid_of_mem_suppliedNames hCheck n hn)
    exact ⟨hValid, by rw [isNameOver_isLetter_iff, and_iff_right hValid]⟩

/-- A schema whose names hold letters and decimal digits of several scripts. -/
def scriptsSchema : Schema := ⟨[
  ⟨text "Größe٣", text "@Größen", [
    { name := text "ключ_1", typeName := text "int", isPrimaryKey := true }]⟩]⟩

/-- The schema passes the check, and its names are of the grammar. -/
theorem isValid_iff_grammar_scriptsSchema :
    Generator.check ⟨{}, builtinLibrary⟩ scriptsSchema = .ok [] ∧
      ∀ n ∈ suppliedNames scriptsSchema, IsNameOver CodePoint.isLetter n.declared := by
  have hCheck : Generator.check ⟨{}, builtinLibrary⟩ scriptsSchema = .ok [] := rfl
  have hNone : ∀ n ∈ suppliedNames scriptsSchema,
      ∀ p ∈ n.declared, p.isOtherNumeral = false := by
    decide
  exact ⟨hCheck, fun n hn =>
    ((isValid_iff_grammar n.declared).2.2 _ _ _ hCheck (List.mem_map_of_mem hn)).2.mpr (hNone n hn)⟩

/-- A schema with an entity that is named by a superscript. -/
def superscriptSchema : Schema := ⟨[
  ⟨text "²", text "Items", [
    { name := text "Id", typeName := text "int", isPrimaryKey := true }]⟩]⟩

/-- The name passes the naming rule and the schema passes the check, though the name holds no letter
and no decimal digit. -/
theorem superscriptSchema_passes :
    Generator.check ⟨{}, builtinLibrary⟩ superscriptSchema = .ok [] ∧
      namingRule.isValid (text "²") = true ∧
      (∀ p ∈ text "²", p.isLetter = false ∧ p.isDecimal = false ∧ p ≠ .char '_') ∧
      ¬ IsNameOver CodePoint.isLetter (text "²") := by
  refine ⟨rfl, by decide, by decide, fun h => ?_⟩
  exact absurd ((isNameOver_isLetter_iff.mp h).2 _ (.head _)) (by decide)

end CSharp

end EntityForge
