import EntityForge.Proofs.Text.Lower
import EntityForge.Proofs.Text.Stripped
import EntityForge.Schema.ScalarType

/-! # Declared type names

A declared type name is looked up in full Unicode lower case, without the blanks around it.  Lower
case is coarser than the case of ASCII letters, but not for these spellings: they are in ASCII, and
none of them has a `k` (`spelling_plain`), the only text in ASCII that something outside ASCII
becomes.  So a name is recognized exactly if it is a spelling in ASCII, and no name with a
look-alike in it is (`recognized_iff_spelled`).
-/

namespace EntityForge.ScalarType

variable {declared : Text} {t : ScalarType}

/-- The spellings are in ASCII and in lower case, and have no `k`. -/
theorem spelling_plain : ∀ spelling ∈ t.spellings,
    (text spelling).IsAscii ∧ CodePoint.char 'k' ∉ text spelling ∧
      (text spelling).map CodePoint.asciiLower = text spelling := by
  cases t <;> decide

/-- No spelling is found under a type that is tried before its own. -/
theorem find?_spelling : ∀ spelling ∈ t.spellings,
    (all.find? fun u => u.spellings.any fun other => text other = text spelling) = some t := by
  cases t <;> decide +kernel

theorem ofName?_eq_some_iff :
    ofName? declared = some t ↔ ∃ spelling ∈ t.spellings, declared.strip.lower = text spelling := by
  rw [ofName?]
  constructor
  · intro h
    have hFound := List.find?_some h
    obtain ⟨spelling, hMem, hKey⟩ := List.any_eq_true.mp hFound
    exact ⟨spelling, hMem, (of_decide_eq_true hKey).symm⟩
  · rintro ⟨spelling, hMem, hKey⟩
    rw [hKey]
    exact find?_spelling spelling hMem

/-- A text in ASCII that is a spelling of a type up to the case of its letters. -/
structure Spells (word : Text) (t : ScalarType) : Prop where
  isAscii : word.IsAscii
  sameLetters : ∃ spelling ∈ t.spellings, word.SameLetters (text spelling)

theorem ofName?_eq_some_iff_spells :
    ofName? declared = some t ↔ ∃ word, declared.StripsTo word ∧ Spells word t := by
  have hSpelled : ∀ spelling ∈ t.spellings, declared.strip.lower = text spelling ↔
      declared.strip.IsAscii ∧ declared.strip.SameLetters (text spelling) := by
    intro spelling hMem
    obtain ⟨hAscii, hKelvin, hLow⟩ := spelling_plain spelling hMem
    exact Text.lower_eq_iff hAscii hKelvin hLow
  rw [ofName?_eq_some_iff]
  constructor
  · rintro ⟨spelling, hMem, hKey⟩
    obtain ⟨hAscii, hSame⟩ := (hSpelled spelling hMem).mp hKey
    exact ⟨declared.strip, Text.stripsTo_strip declared, hAscii, spelling, hMem, hSame⟩
  · rintro ⟨word, hStrips, hAscii, spelling, hMem, hSame⟩
    rw [← Text.stripsTo_iff.mp hStrips] at hAscii hSame
    exact ⟨spelling, hMem, (hSpelled spelling hMem).mpr ⟨hAscii, hSame⟩⟩

/-- No code point of a recognized name is a look-alike: those of the spelling are in ASCII, and
those around it are blank. -/
theorem not_isLookAlike_of_ofName? (h : ofName? declared = some t) :
    ∀ p ∈ declared, ¬ p.IsLookAlike := by
  obtain ⟨word, hStrips, hSpells⟩ := ofName?_eq_some_iff_spells.mp h
  obtain ⟨front, back, rfl, hFront, hBack⟩ := hStrips.around
  intro p hp hAlike
  have hOpen := hAlike.isBlank_eq_false
  rcases List.mem_append.mp hp with hp | hp
  · simp [hFront p hp] at hOpen
  · rcases List.mem_append.mp hp with hp | hp
    · exact hAlike.not_isAscii (hSpells.isAscii p hp)
    · simp [hBack p hp] at hOpen

/-- A declared type name is recognized exactly if without the blanks around it it is in ASCII and,
up to the case of its letters, a spelling of a type, and it then asks for that type.  A name with a
code point from outside ASCII that has ASCII in its lower case is not recognized. -/
theorem recognized_iff_spelled (declared : Text) :
    ((ofName? declared).isSome = true ↔ ∃ word t, declared.StripsTo word ∧ Spells word t) ∧
      (∀ word t, declared.StripsTo word → Spells word t → ofName? declared = some t) ∧
      ∀ p ∈ declared, p.IsLookAlike → ofName? declared = none := by
  refine ⟨?_, fun word t hStrips hSpells => ?_, fun p hp hAlike => ?_⟩
  · rw [Option.isSome_iff_exists, exists_comm]
    exact exists_congr fun t => ofName?_eq_some_iff_spells
  · exact ofName?_eq_some_iff_spells.mpr ⟨word, hStrips, hSpells⟩
  · refine Option.eq_none_iff_forall_ne_some.mpr fun t ht => ?_
    exact not_isLookAlike_of_ofName? ht p hp hAlike

/-- With capitals and between blanks from outside ASCII a spelling is recognized; with a dotted
capital I in it, whose lower case begins with an `i`, it is not. -/
theorem recognized_iff_spelled_bigint :
    ((text "\u3000BigInt\u0085").StripsTo (text "BigInt") ∧ Spells (text "BigInt") .long ∧
        ofName? (text "\u3000BigInt\u0085") = some .long) ∧
      CodePoint.char 'İ' ∈ text "bİgint" ∧ (CodePoint.char 'İ').IsLookAlike ∧
        ofName? (text "bİgint") = none := by
  have hStrips : (text "\u3000BigInt\u0085").StripsTo (text "BigInt") :=
    Text.stripsTo_iff.mpr (by decide)
  have hSpells : Spells (text "BigInt") .long := ⟨by decide, "bigint", by decide, by decide⟩
  have hMem : CodePoint.char 'İ' ∈ text "bİgint" := by decide
  have hAlike : (CodePoint.char 'İ').IsLookAlike := CodePoint.isLookAlike_iff.mpr (.inl rfl)
  exact ⟨⟨hStrips, hSpells, (recognized_iff_spelled _).2.1 _ _ hStrips hSpells⟩, hMem, hAlike,
    (recognized_iff_spelled _).2.2 _ hMem hAlike⟩

end EntityForge.ScalarType
