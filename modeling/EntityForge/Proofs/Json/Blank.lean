import EntityForge.Json.Reader
import EntityForge.Proofs.Text.Lines
import EntityForge.Text.Blank

/-! # Blank documents

No value begins with white space of any script, once the blanks between tokens are skipped; so a
document that can be read is not blank.
-/

namespace EntityForge.Json

theorem ne_of_isBlank {p : CodePoint} {c : Char} (h : p.isBlank = true)
    (hc : (CodePoint.char c).isBlank = false) : p ≠ .char c := by
  rintro rfl
  rw [h] at hc
  cases hc

theorem isDigit_of_isBlank {p : CodePoint} (h : p.isBlank = true) : p.isDigit = false := by
  have hTable : ∀ r ∈ Text.blankRanges, r.2 < 0x30 ∨ 0x39 < r.1 := by decide
  obtain ⟨r, hr, hFirst, hLast⟩ := CodeRanges.exists_of_has h
  have hRange := hTable r hr
  simp only [CodePoint.isDigit, Bool.and_eq_false_iff, decide_eq_false_iff_not]
  omega

section

variable {p : CodePoint}

theorem find?_words_of_isBlank (h : p.isBlank = true) (rest : Text) :
    (words.find? fun word => word.1.isPrefixOf (p :: rest)) = none := by
  have hWords : ∀ word ∈ words, word.1.head?.any (fun c => !c.isBlank) = true := by decide
  rw [List.find?_eq_none]
  intro word hWord hPrefix
  have hHead := hWords word hWord
  cases hText : word.1 with
  | nil => simp [hText] at hHead
  | cons c t =>
      rw [hText, List.isPrefixOf_iff_prefix, List.cons_prefix_cons] at hPrefix
      simp [hText, hPrefix.1, h] at hHead

theorem numeral?_of_isBlank (h : p.isBlank = true) (rest : Text) : numeral? (p :: rest) = none := by
  have hMinus : p ≠ .char '-' := ne_of_isBlank h (by decide)
  have hZero : p ≠ .char '0' := ne_of_isBlank h (by decide)
  have hWhole : wholePart (p :: rest) = [] := by
    simp [wholePart, hZero, digitsOf, isDigit_of_isBlank h]
  simp [numeral?, hMinus, hWhole]

/-- No value begins with white space. -/
theorem readValue_of_isBlank (h : p.isBlank = true) (rest : Text) :
    readValue (p :: rest) = fail .value (p :: rest) := by
  have hQuote : p ≠ .char '"' := ne_of_isBlank h (by decide)
  have hBracket : p ≠ .char '[' := ne_of_isBlank h (by decide)
  have hBrace : p ≠ .char '\x7b' := ne_of_isBlank h (by decide)
  rw [readValue]
  · rw [readScalar, find?_words_of_isBlank h]
    simp only [numeral?_of_isBlank h]
  all_goals simp [hQuote, hBracket, hBrace]

end

theorem readValue_nil : readValue [] = fail .value [] := by
  rw [readValue]
  · rfl
  all_goals simp

/-- A document that can be read is not blank. -/
theorem not_isBlank_of_read {document : Text} {value : Value} (h : read document = .ok value) :
    document.isBlank = false := by
  by_contra hBlank
  have hAll : ∀ p ∈ document, p.isBlank = true := by
    simpa [Text.isBlank] using hBlank
  have hFault : readValue (skipSpace document) = fail .value (skipSpace document) := by
    cases hSkip : skipSpace document with
    | nil => exact readValue_nil
    | cons p rest =>
        have hMem : p ∈ document :=
          (List.dropWhile_suffix isSpace).subset (by rw [← skipSpace, hSkip]; simp)
        exact readValue_of_isBlank (hAll p hMem) rest
  unfold read at h
  split at h
  · cases h
  · simp only [hFault, fail, reduceCtorEq] at h

end EntityForge.Json
