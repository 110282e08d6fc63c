import EntityForge.CSharp.Keyword
import EntityForge.Proofs.Naming.Memory

/-! # When escaping once is enough

A reserved word is escaped once, and what comes out is not looked up again.  So it may be a reserved
word itself: with the words `a` and `a_` and a low line as back mark, `a` is emitted as `a_`
(`emitted_reserved_markedWord`).  Nothing else can go wrong: a name that is emitted is reserved, and
would be emitted differently the next time, exactly if both the name and its escaped form are
reserved words (`NamingRule.StaysReserved`).

A rule that observes case can be judged by its words alone (`forall_not_staysReserved_iff`); one
that ignores case cannot.
-/

namespace EntityForge

namespace NamingRule

variable {rule : NamingRule} {name : Text}

/-- A name that escaping does not save: it is a reserved word, and so is its escaped form. -/
structure StaysReserved (rule : NamingRule) (name : Text) : Prop where
  plain : rule.isReserved name = true
  escaped : rule.isReserved (rule.front ++ name ++ rule.back) = true

instance (rule : NamingRule) (name : Text) : Decidable (rule.StaysReserved name) :=
  decidable_of_iff (rule.isReserved name = true ∧
      rule.isReserved (rule.front ++ name ++ rule.back) = true)
    ⟨fun h => ⟨h.1, h.2⟩, fun h => ⟨h.1, h.2⟩⟩

theorem isReserved_escape_iff : rule.isReserved (rule.escape name) = true ↔
    rule.StaysReserved name := by
  rw [escape]
  split
  · next hPlain => exact ⟨fun h => ⟨hPlain, h⟩, fun h => h.escaped⟩
  · next hPlain => exact ⟨fun h => absurd h hPlain, fun h => absurd h.plain hPlain⟩

/-- With a mark, escaping leaves alone what is no reserved word, and nothing else. -/
theorem escape_eq_self_iff (hMark : rule.front ≠ [] ∨ rule.back ≠ []) :
    rule.escape name = name ↔ rule.isReserved name = false := by
  rw [escape]
  split
  · next hPlain =>
      refine iff_of_false (fun h => ?_) (by simp [hPlain])
      have hLength := congrArg List.length h
      simp only [List.length_append] at hLength
      rcases hMark with hFront | hBack
      · exact hFront (List.length_eq_zero_iff.mp (by omega))
      · exact hBack (List.length_eq_zero_iff.mp (by omega))
  · next hPlain => exact iff_of_true rfl (Bool.eq_false_iff.mpr hPlain)

/-- If case is observed, no name stays reserved if no reserved word does. -/
theorem forall_not_staysReserved_iff {words : List Text} {front back : Text} :
    (∀ name, ¬ (make words front back true).StaysReserved name) ↔
      ∀ word ∈ words, (make words front back true).front ++ word ++
        (make words front back true).back ∉ words := by
  have hReserved : ∀ name, (make words front back true).isReserved name = true ↔ name ∈ words := by
    intro name
    simp [isReserved, make, key, keyFor]
  constructor
  · intro h word hWord hEscaped
    exact h word ⟨(hReserved _).mpr hWord, (hReserved _).mpr hEscaped⟩
  · intro h name hStays
    exact h name ((hReserved _).mp hStays.plain) ((hReserved _).mp hStays.escaped)

-- If case is ignored, the words do not tell: a sigma is lowered in one way at the end of a name and
-- in another one in front of the mark.
example :
    let rule := make [text "aς", text "aσb"] [] (text "b") false
    (∀ word ∈ rule.reserved, ¬ rule.StaysReserved word) ∧ rule.StaysReserved (text "aΣ") := by
  decide +kernel

end NamingRule

/-- With any reserved words and any mark, case observed or not, and whatever names were emitted
before: a name is emitted as no reserved word, and is emitted unchanged the next time, exactly
unless it is a reserved word whose escaped form is one as well. If case is observed, there is no
such name exactly if there is none among the reserved words. -/
theorem emitted_safe_iff {words : List Text} {front back : Text} {caseSensitive : Bool}
    (hMark : (NamingRule.make words front back caseSensitive).front ≠ [] ∨
      (NamingRule.make words front back caseSensitive).back ≠ [])
    (earlier : List (Bool × Text)) :
    let rule := NamingRule.make words front back caseSensitive
    let memo := (NameMemo.emitAll { rule } earlier).2
    (∀ name,
      let (emitted, after) := memo.emit true name
      (rule.isReserved emitted = false ↔ ¬ rule.StaysReserved name) ∧
        ((after.emit true emitted).1 = emitted ↔ ¬ rule.StaysReserved name)) ∧
    (caseSensitive = true →
      ((∀ name, ¬ rule.StaysReserved name) ↔
        ∀ word ∈ words, rule.front ++ word ++ rule.back ∉ words)) := by
  intro rule memo
  have hMemo : memo.Recalls rule := (NameMemo.recalls_empty rule).after_emitAll earlier
  refine ⟨fun name => ?_, ?_⟩
  · obtain ⟨hEmitted, hAfter⟩ := hMemo.emit true name
    have hAgain := (hAfter.emit true (rule.escape name)).1
    have hSafe : rule.isReserved (rule.escape name) = false ↔ ¬ rule.StaysReserved name := by
      rw [← NamingRule.isReserved_escape_iff, Bool.not_eq_true]
    simp only [hEmitted, NamingRule.emit, if_true] at hAgain ⊢
    rw [hAgain, NamingRule.escape_eq_self_iff hMark]
    exact ⟨hSafe, hSafe⟩
  · rintro rfl
    exact NamingRule.forall_not_staysReserved_iff

/-- No keyword of C# is one behind an at sign. So with a keyword emitted before, every name is
emitted as no keyword, and unchanged the next time. -/
theorem emitted_safe_iff_keywords :
    let memo := (NameMemo.emitAll { rule := CSharp.namingRule } [(true, text "class")]).2
    memo.known = [(text "class", text "@class")] ∧
      (∀ word ∈ CSharp.keywords.map text, text "@" ++ word ++ [] ∉ CSharp.keywords.map text) ∧
      ∀ name,
        let (emitted, after) := memo.emit true name
        CSharp.namingRule.isReserved emitted = false ∧ (after.emit true emitted).1 = emitted := by
  intro memo
  have hMark : CSharp.namingRule.front ≠ [] ∨ CSharp.namingRule.back ≠ [] := .inl (by decide)
  have hWords : ∀ word ∈ CSharp.keywords.map text,
      text "@" ++ word ++ [] ∉ CSharp.keywords.map text := by decide
  obtain ⟨hNames, hJudged⟩ := emitted_safe_iff hMark [(true, text "class")]
  have hNone := (hJudged rfl).mpr hWords
  exact ⟨by decide, hWords, fun name =>
    ⟨(hNames name).1.mpr (hNone name), (hNames name).2.mpr (hNone name)⟩⟩

/-- Two reserved words, one of which is the other one escaped. -/
def markedWordRule : NamingRule := .make [text "a", text "a_"] [] (text "_") true

/-- The first is emitted as the second, which is reserved and is emitted differently itself. -/
theorem emitted_reserved_markedWord :
    let memo : NameMemo := { rule := markedWordRule }
    markedWordRule.back ≠ [] ∧
      (memo.emit true (text "a")).1 = text "a_" ∧
      markedWordRule.isReserved (text "a_") = true ∧
      ((memo.emit true (text "a")).2.emit true (text "a_")).1 = text "a__" := by
  decide

end EntityForge
