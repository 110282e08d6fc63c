import EntityForge.CSharp.Member
import EntityForge.Proofs.Text.Lines

/-! # What an emitted name holds

A name that passes the naming rule of C# consists of word code points, perhaps behind one at sign,
and it is emitted as it is or behind an at sign.  Word code points are never white space
(`not_isBlank_of_isWord`), so an emitted name is one unbroken word; the same goes for dotted
names, whose full stops are no white space either.
-/

namespace EntityForge

/-- No word code point is white space. -/
theorem CodePoint.not_isBlank_of_isWord {p : CodePoint} (h : p.isWord = true) :
    p.isBlank = false := by
  have hTable : ∀ r ∈ Text.blankRanges, ∀ k < r.2 + 1 - r.1,
      (CodePoint.ofNat (r.1 + k)).isWord = false := by decide +kernel
  by_contra hBlank
  obtain ⟨r, hr, hFirst, hLast⟩ := CodeRanges.exists_of_has (eq_true_of_ne_false hBlank)
  have hPlace : r.1 + (p.toNat - r.1) = p.toNat := by omega
  have hWord := hTable r hr (p.toNat - r.1) (by omega)
  rw [hPlace, CodePoint.ofNat_toNat, h] at hWord
  exact absurd hWord (by simp)

namespace Text

/-- A text that is not empty and holds no white space. -/
structure IsSolid (t : Text) : Prop where
  ne_nil : t ≠ []
  not_blank : ∀ p ∈ t, p.isBlank = false

instance (t : Text) : Decidable t.IsSolid :=
  decidable_of_iff (t ≠ [] ∧ ∀ p ∈ t, p.isBlank = false)
    ⟨fun h => ⟨h.1, h.2⟩, fun h => ⟨h.1, h.2⟩⟩

namespace IsSolid

theorem not_mem {t : Text} (h : t.IsSolid) {p : CodePoint} (hp : p.isBlank = true) : p ∉ t := by
  intro hm
  exact absurd (h.not_blank p hm) (by simp [hp])

theorem isLine {t : Text} (h : t.IsSolid) : t.IsLine :=
  ⟨h.not_mem (by decide), fun p hp => h.not_blank p (List.mem_of_getLast? hp)⟩

theorem isFullLine {t : Text} (h : t.IsSolid) : t.IsFullLine := ⟨h.ne_nil, h.isLine⟩

end IsSolid

theorem isWord_of_mem_of_isIdentifier {t : Text} (h : t.isIdentifier = true) :
    ∀ p ∈ t, p.isWord = true := by
  cases t with
  | nil => simp
  | cons first rest =>
      simp only [isIdentifier, CodePoint.isIdentifierStart, Bool.and_eq_true, List.all_eq_true] at h
      intro p hp
      rcases List.mem_cons.mp hp with rfl | hp
      · exact h.1.1
      · exact h.2 p hp

/-- What a text holds is the separator or belongs to a piece between separators. -/
theorem mem_splitOn_of_mem (sep : CodePoint) {p : CodePoint} {t : Text} (h : p ∈ t) :
    p = sep ∨ ∃ piece ∈ splitOn sep t, p ∈ piece := by
  induction t with
  | nil => simp at h
  | cons q rest ih =>
      by_cases hq : q = sep
      · rw [hq, splitOn_cons_self]
        rcases List.mem_cons.mp h with rfl | hp
        · exact .inl hq
        · exact (ih hp).imp_right fun ⟨piece, hm, hp⟩ => ⟨piece, List.mem_cons_of_mem _ hm, hp⟩
      · obtain ⟨piece, pieces, he⟩ := List.exists_cons_of_ne_nil (splitOn_ne_nil sep rest)
        have hSplit : splitOn sep (q :: rest) = (q :: piece) :: pieces := by
          simp [splitOn, hq, he]
        rw [hSplit]
        rcases List.mem_cons.mp h with rfl | hp
        · exact .inr ⟨p :: piece, by simp, by simp⟩
        · rw [he] at ih
          rcases ih hp with hSep | ⟨found, hFound, hp⟩
          · exact .inl hSep
          · rcases List.mem_cons.mp hFound with rfl | hFound
            · exact .inr ⟨q :: found, by simp, List.mem_cons_of_mem _ hp⟩
            · exact .inr ⟨found, List.mem_cons_of_mem _ hFound, hp⟩

end Text

namespace CSharp

/-- A code point that an emitted name can hold: a word code point or the escape mark. -/
def isNameCode (p : CodePoint) : Bool := p.isWord || p == .char '@'

theorem not_isBlank_of_isNameCode {p : CodePoint} (h : isNameCode p = true) :
    p.isBlank = false := by
  simp only [isNameCode, Bool.or_eq_true, beq_iff_eq] at h
  rcases h with h | rfl
  · exact CodePoint.not_isBlank_of_isWord h
  · decide

theorem unmarked_cons (p : CodePoint) (rest : Text) :
    namingRule.unmarked (p :: rest) = if p = .char '@' then rest else p :: rest := by
  by_cases hp : p = .char '@'
  · subst hp
    rfl
  · have hFront : namingRule.front = [.char '@'] := rfl
    simp [NamingRule.unmarked, hFront, Text.startsWith, hp, Ne.symm hp]

/-- A valid name holds name code points, and at least one. -/
theorem isNameCode_of_isValid {name : Text} (h : namingRule.isValid name = true) :
    name ≠ [] ∧ ∀ p ∈ name, isNameCode p = true := by
  cases name with
  | nil => exact absurd h (by decide)
  | cons first rest =>
      refine ⟨by simp, fun p hp => ?_⟩
      rw [NamingRule.isValid, unmarked_cons] at h
      by_cases hMark : first = .char '@'
      · rw [if_pos hMark] at h
        rcases List.mem_cons.mp hp with rfl | hp
        · simp [isNameCode, hMark]
        · simp [isNameCode, Text.isWord_of_mem_of_isIdentifier h p hp]
      · rw [if_neg hMark] at h
        simp [isNameCode, Text.isWord_of_mem_of_isIdentifier h p hp]

/-- A name is emitted as it is or behind an at sign. -/
theorem emitName_eq (escaping : Bool) (name : Text) :
    emitName escaping name =
      if escaping && isKeyword name then .char '@' :: name else name := by
  have hFront : namingRule.front = [.char '@'] := rfl
  have hBack : namingRule.back = [] := rfl
  cases escaping <;>
    simp [emitName, NamingRule.emit, NamingRule.escape, isKeyword, hFront, hBack]

theorem isNameCode_of_mem_emitName {escaping : Bool} {name : Text}
    (h : namingRule.isValid name = true) : ∀ p ∈ emitName escaping name, isNameCode p = true := by
  intro p hp
  rw [emitName_eq] at hp
  split at hp
  · rcases List.mem_cons.mp hp with rfl | hp
    · decide
    · exact (isNameCode_of_isValid h).2 p hp
  · exact (isNameCode_of_isValid h).2 p hp

theorem isSolid_emitName (escaping : Bool) {name : Text} (h : namingRule.isValid name = true) :
    (emitName escaping name).IsSolid := by
  refine ⟨?_, fun p hp => not_isBlank_of_isNameCode (isNameCode_of_mem_emitName h p hp)⟩
  rw [emitName_eq]
  split
  · simp
  · exact (isNameCode_of_isValid h).1

theorem isSolid_of_isFreeIdentifier {name : Text} (h : isFreeIdentifier name = true) :
    name.IsSolid := by
  have hValid : namingRule.isValid name = true := by
    simp only [isFreeIdentifier, Bool.and_eq_true] at h
    exact h.1
  exact isSolid_emitName false hValid

theorem isSolid_of_isDottedName {name : Text} (h : isDottedName name = true) : name.IsSolid := by
  have hPieces : ∀ piece ∈ Text.splitOn '.' name, piece.IsSolid := fun piece hp =>
    isSolid_of_isFreeIdentifier (List.all_eq_true.mp h piece hp)
  refine ⟨?_, fun p hp => ?_⟩
  · rintro rfl
    exact (hPieces [] (by simp)).ne_nil rfl
  · rcases Text.mem_splitOn_of_mem '.' hp with rfl | ⟨piece, hPiece, hp⟩
    · decide
    · exact (hPieces piece hPiece).not_blank p hp

end CSharp

end EntityForge
