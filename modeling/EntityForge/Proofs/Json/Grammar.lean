import EntityForge.Json.Reader
import EntityForge.Proofs.Value.Rebuilt

/-! # What a document spells out

`Spells input value rest` says that a value is spelled out at the head of a document: it is the
grammar, with one rule for each way to go on.  Here an object has all its members in the order of
the text, names that come back included.  The reader finds the same value with each object
collapsed: the last member of a name stays, at the place of the first (`read_eq_ok_iff`).

Each reader is first described by what it does before it goes on (`finds_readItems_iff`,
`finds_readMembers_iff`, and one law for each way in which a value begins).  From the grammar to the
reader the induction is then on the derivation, and the other way on the length of what is left to
read; what is read already is carried along.
-/

namespace EntityForge

namespace Json

/-! ### One step of the readers -/

/-- A reader finds a value at the head of its input, and `rest` follows it. -/
def Finds {α : Type} {input : Text} (result : Result α input) (value : α) (rest : Text) : Prop :=
  ∃ shorter, result = .ok ⟨value, rest, shorter⟩

section

variable {input rest : Text}

/-- Reading the items of a list: one value, and then the closing bracket or a comma and more. -/
theorem finds_readItems_iff {read values : List Value} :
    Finds (readItems read input) values rest ↔
      ∃ value after, Finds (readValue input) value after ∧
        (skipSpace after = .char ']' :: rest ∧ values = (value :: read).reverse ∨
          ∃ next, skipSpace after = .char ',' :: next ∧
            Finds (readItems (value :: read) (skipSpace next)) values rest) := by
  constructor
  · rintro ⟨shorter, h⟩
    rw [readItems.eq_def] at h
    split at h
    · cases h
    · next value after hAfter hValue =>
        refine ⟨value, after, ⟨hAfter, hValue⟩, ?_⟩
        split at h
        · next hEnd =>
            cases h
            exact .inl ⟨hEnd, rfl⟩
        · next next hComma =>
            split at h
            · cases h
            · next hMore =>
                cases h
                exact .inr ⟨next, hComma, _, hMore⟩
        · cases h
  · rintro ⟨value, after, ⟨hAfter, hValue⟩, hNext⟩
    rw [readItems.eq_def, hValue]
    dsimp only
    rcases hNext with ⟨hEnd, rfl⟩ | ⟨next, hComma, hShorter, hMore⟩
    · split
      · next hSkip =>
          rw [hEnd] at hSkip
          cases hSkip
          exact ⟨_, rfl⟩
      · next hSkip =>
          rw [hEnd] at hSkip
          cases hSkip
      · next hOther _ => exact absurd hEnd (hOther rest)
    · split
      · next hSkip =>
          rw [hComma] at hSkip
          cases hSkip
      · next hSkip =>
          rw [hComma] at hSkip
          cases hSkip
          rw [hMore]
          exact ⟨_, rfl⟩
      · next hOther => exact absurd hComma (hOther next)

/-- A string is quoted at the head of a text, behind the opening quote. -/
def Quotes (input quoted rest : Text) : Prop :=
  Finds (readString (.char '"' :: input) [] input) quoted rest

/-- A member begins at the head of a text with its name and a colon; `rest` begins with its
value. -/
def Names (input name rest : Text) : Prop :=
  ∃ quoted afterName afterColon, input = .char '"' :: quoted ∧ Quotes quoted name afterName ∧
    skipSpace afterName = .char ':' :: afterColon ∧ rest = skipSpace afterColon

/-- Reading the members of an object: one member, and then the closing brace or a comma and more. -/
theorem finds_readMembers_iff {read members : Entries Value} :
    Finds (readMembers read input) members rest ↔
      ∃ name start value after, Names input name start ∧ Finds (readValue start) value after ∧
        (skipSpace after = .char '\x7d' :: rest ∧ members = read.put name value ∨
          ∃ next, skipSpace after = .char ',' :: next ∧
            Finds (readMembers (read.put name value) (skipSpace next)) members rest) := by
  constructor
  · rintro ⟨shorter, h⟩
    rw [readMembers.eq_def] at h
    split at h
    · split at h
      · cases h
      · next _ text _ name afterName hAfter hName =>
          split at h
          · next afterColon hColon =>
              split at h
              · cases h
              · next value after hShorter hValue =>
                  refine ⟨name, _, value, after, ⟨text, afterName, afterColon, rfl, ⟨hAfter, hName⟩,
                    hColon, rfl⟩, ⟨hShorter, hValue⟩, ?_⟩
                  split at h
                  · next hEnd =>
                      cases h
                      exact .inl ⟨hEnd, rfl⟩
                  · next next hComma =>
                      split at h
                      · cases h
                      · next hMore =>
                          cases h
                          exact .inr ⟨next, hComma, _, hMore⟩
                  · cases h
          · cases h
    · cases h
  · rintro ⟨name, start, value, after, ⟨text, afterName, afterColon, rfl, ⟨hAfter, hName⟩, hColon,
      rfl⟩, ⟨hShorter, hValue⟩, hNext⟩
    rw [readMembers, hName]
    dsimp only
    split
    · next hSkip =>
        rw [hColon] at hSkip
        cases hSkip
        rw [hValue]
        dsimp only
        rcases hNext with ⟨hEnd, rfl⟩ | ⟨next, hComma, hLeft, hMore⟩
        · split
          · next hSkip =>
              rw [hEnd] at hSkip
              cases hSkip
              exact ⟨_, rfl⟩
          · next hSkip =>
              rw [hEnd] at hSkip
              cases hSkip
          · next hOther _ => exact absurd hEnd (hOther rest)
        · split
          · next hSkip =>
              rw [hComma] at hSkip
              cases hSkip
          · next hSkip =>
              rw [hComma] at hSkip
              cases hSkip
              rw [hMore]
              exact ⟨_, rfl⟩
          · next hOther => exact absurd hComma (hOther next)
    · next hOther => exact absurd hColon (hOther afterColon)

theorem finds_readValue_quote_iff {value : Value} :
    Finds (readValue (.char '"' :: input)) value rest ↔
      ∃ quoted, Quotes input quoted rest ∧ value = .string quoted := by
  constructor
  · rintro ⟨shorter, h⟩
    rw [readValue] at h
    split at h
    · cases h
    · next hQuoted =>
        cases h
        exact ⟨_, ⟨_, hQuoted⟩, rfl⟩
  · rintro ⟨quoted, ⟨shorter, hQuoted⟩, rfl⟩
    rw [readValue, hQuoted]
    exact ⟨_, rfl⟩

theorem finds_readValue_bracket_iff {value : Value} :
    Finds (readValue (.char '[' :: input)) value rest ↔
      skipSpace input = .char ']' :: rest ∧ value = .list [] ∨
        (∀ after, skipSpace input ≠ .char ']' :: after) ∧
          ∃ items, Finds (readItems [] (skipSpace input)) items rest ∧ value = .list items := by
  constructor
  · rintro ⟨shorter, h⟩
    rw [readValue] at h
    split at h
    · next hEnd =>
        cases h
        exact .inl ⟨hEnd, rfl⟩
    · next hOther =>
        split at h
        · cases h
        · next hItems =>
            cases h
            exact .inr ⟨hOther, _, ⟨_, hItems⟩, rfl⟩
  · intro h
    rw [readValue]
    rcases h with ⟨hEnd, rfl⟩ | ⟨hOther, items, ⟨shorter, hItems⟩, rfl⟩
    · split
      · next hSkip =>
          rw [hEnd] at hSkip
          cases hSkip
          exact ⟨_, rfl⟩
      · next hNone => exact absurd hEnd (hNone rest)
    · split
      · next hSkip => exact absurd hSkip (hOther _)
      · rw [hItems]
        exact ⟨_, rfl⟩

theorem finds_readValue_brace_iff {value : Value} :
    Finds (readValue (.char '\x7b' :: input)) value rest ↔
      skipSpace input = .char '\x7d' :: rest ∧ value = .object [] ∨
        (∀ after, skipSpace input ≠ .char '\x7d' :: after) ∧
          ∃ members, Finds (readMembers [] (skipSpace input)) members rest ∧
            value = .object members := by
  constructor
  · rintro ⟨shorter, h⟩
    rw [readValue] at h
    split at h
    · next hEnd =>
        cases h
        exact .inl ⟨hEnd, rfl⟩
    · next hOther =>
        split at h
        · cases h
        · next hMembers =>
            cases h
            exact .inr ⟨hOther, _, ⟨_, hMembers⟩, rfl⟩
  · intro h
    rw [readValue]
    rcases h with ⟨hEnd, rfl⟩ | ⟨hOther, members, ⟨shorter, hMembers⟩, rfl⟩
    · split
      · next hSkip =>
          rw [hEnd] at hSkip
          cases hSkip
          exact ⟨_, rfl⟩
      · next hNone => exact absurd hEnd (hNone rest)
    · split
      · next hSkip => exact absurd hSkip (hOther _)
      · rw [hMembers]
        exact ⟨_, rfl⟩

/-- Does a text begin like a string, a list or an object? -/
def Opens (input : Text) : Prop :=
  ∃ after, input = .char '"' :: after ∨ input = .char '[' :: after ∨ input = .char '\x7b' :: after

theorem readValue_of_not_opens (h : ¬ Opens input) : readValue input = readScalar input := by
  rw [readValue.eq_def]
  split
  · next after => exact absurd ⟨after, .inl rfl⟩ h
  · next after => exact absurd ⟨after, .inr (.inl rfl)⟩ h
  · next after => exact absurd ⟨after, .inr (.inr rfl)⟩ h
  · rfl

end

/-! ### The grammar -/

mutual

/-- A value is spelled out at the head of `input`, and `rest` follows it. -/
inductive Spells : Text → Value → Text → Prop
  | string {input quoted rest : Text} (hQuotes : Quotes input quoted rest) :
      Spells (.char '"' :: input) (.string quoted) rest
  | noItems {input rest : Text} (hEnd : skipSpace input = .char ']' :: rest) :
      Spells (.char '[' :: input) (.list []) rest
  | items {input rest : Text} {items : List Value}
      (hItems : SpellsItems (skipSpace input) items rest) :
      Spells (.char '[' :: input) (.list items) rest
  | noMembers {input rest : Text} (hEnd : skipSpace input = .char '\x7d' :: rest) :
      Spells (.char '\x7b' :: input) (.object []) rest
  | members {input rest : Text} {members : Entries Value}
      (hMembers : SpellsMembers (skipSpace input) members rest) :
      Spells (.char '\x7b' :: input) (.object members) rest
  | scalar {input rest : Text} {value : Value} (hOpens : ¬ Opens input)
      (hScalar : Finds (readScalar input) value rest) : Spells input value rest

/-- Items are spelled out at the head of `input`, up to the closing bracket. -/
inductive SpellsItems : Text → List Value → Text → Prop
  | last {input after rest : Text} {value : Value} (hValue : Spells input value after)
      (hEnd : skipSpace after = .char ']' :: rest) : SpellsItems input [value] rest
  | more {input after next rest : Text} {value : Value} {items : List Value}
      (hValue : Spells input value after) (hComma : skipSpace after = .char ',' :: next)
      (hItems : SpellsItems (skipSpace next) items rest) : SpellsItems input (value :: items) rest

/-- Members are spelled out at the head of `input`, up to the closing brace. -/
inductive SpellsMembers : Text → Entries Value → Text → Prop
  | last {input name start after rest : Text} {value : Value} (hName : Names input name start)
      (hValue : Spells start value after) (hEnd : skipSpace after = .char '\x7d' :: rest) :
      SpellsMembers input [(name, value)] rest
  | more {input name start after next rest : Text} {value : Value} {members : Entries Value}
      (hName : Names input name start) (hValue : Spells start value after)
      (hComma : skipSpace after = .char ',' :: next)
      (hMembers : SpellsMembers (skipSpace next) members rest) :
      SpellsMembers input ((name, value) :: members) rest

end

/-- The document spells that value out, between blanks. -/
def IsWritten (document : Text) (value : Value) : Prop :=
  (∀ after, document ≠ .char '\uFEFF' :: after) ∧
    ∃ rest, Spells (skipSpace document) value rest ∧ skipSpace rest = []

/-! ### From the grammar to the reader -/

theorem not_finds_readScalar_bracket {after rest : Text} {value : Value} :
    ¬ Finds (readScalar (.char ']' :: after)) value rest := by
  rintro ⟨shorter, h⟩
  have hFault : readScalar (.char ']' :: after) = fail .value (.char ']' :: after) := rfl
  rw [hFault] at h
  cases h

theorem ne_bracket_of_spellsItems {input rest : Text} {items : List Value}
    (h : SpellsItems input items rest) (after : Text) : input ≠ .char ']' :: after := by
  have hSpells : ∃ value next, Spells input value next := by
    cases h with
    | last hValue => exact ⟨_, _, hValue⟩
    | more hValue => exact ⟨_, _, hValue⟩
  obtain ⟨value, next, hValue⟩ := hSpells
  rintro rfl
  cases hValue with
  | scalar _ hScalar => exact not_finds_readScalar_bracket hScalar

theorem ne_brace_of_spellsMembers {input rest : Text} {members : Entries Value}
    (h : SpellsMembers input members rest) (after : Text) : input ≠ .char '\x7d' :: after := by
  have hNames : ∃ name start, Names input name start := by
    cases h with
    | last hName => exact ⟨_, _, hName⟩
    | more hName => exact ⟨_, _, hName⟩
  obtain ⟨name, start, quoted, _, _, rfl, -⟩ := hNames
  simp

/-- Neither a word nor a numeral is a list or an object. -/
theorem collapsed_of_readScalar {input rest : Text} {value : Value}
    (h : Finds (readScalar input) value rest) : value.collapsed = value := by
  have hWords : ∀ word ∈ words, word.2.collapsed = word.2 := by
    simp [words, Value.collapsed, Value.rebuilt]
  obtain ⟨shorter, h⟩ := h
  rw [readScalar] at h
  split at h
  · next word value hFound =>
      split at h
      · cases h
        exact hWords _ (List.mem_of_find?_eq_some hFound)
      · cases h
  · split at h
    · cases h
    · next numeral length _ =>
        split at h
        · cases h
        · next value hValue =>
            split at h
            · cases h
              rw [Numeral.value] at hValue
              split at hValue
              · split at hValue <;> cases hValue
                rfl
              · cases hValue
                rfl
            · cases h

mutual

theorem finds_readValue_of_spells {input rest : Text} {value : Value} :
    Spells input value rest → Finds (readValue input) value.collapsed rest
  | .string hQuotes => finds_readValue_quote_iff.mpr ⟨_, hQuotes, rfl⟩
  | .noItems hEnd => finds_readValue_bracket_iff.mpr (.inl ⟨hEnd, rfl⟩)
  | .items hItems =>
      finds_readValue_bracket_iff.mpr
        (.inr ⟨ne_bracket_of_spellsItems hItems, _, finds_readItems_of_spells [] hItems, rfl⟩)
  | .noMembers hEnd => finds_readValue_brace_iff.mpr (.inl ⟨hEnd, rfl⟩)
  | .members hMembers =>
      finds_readValue_brace_iff.mpr
        (.inr ⟨ne_brace_of_spellsMembers hMembers, _, finds_readMembers_of_spells [] hMembers, rfl⟩)
  | .scalar hOpens hScalar => by
      rw [readValue_of_not_opens hOpens, collapsed_of_readScalar hScalar]
      exact hScalar

theorem finds_readItems_of_spells {input rest : Text} {items : List Value} (read : List Value) :
    SpellsItems input items rest →
      Finds (readItems read input) (read.reverse ++ Value.rebuiltItems Entries.ofPairs items) rest
  | .last hValue hEnd =>
      finds_readItems_iff.mpr
        ⟨_, _, finds_readValue_of_spells hValue, .inl ⟨hEnd, (List.reverse_cons).symm⟩⟩
  | @SpellsItems.more _ _ _ _ value _ hValue hComma hItems => by
      have hMore := finds_readItems_of_spells (value.collapsed :: read) hItems
      rw [List.reverse_cons, List.append_assoc] at hMore
      exact finds_readItems_iff.mpr
        ⟨_, _, finds_readValue_of_spells hValue, .inr ⟨_, hComma, hMore⟩⟩

theorem finds_readMembers_of_spells {input rest : Text} {members : Entries Value}
    (read : Entries Value) :
    SpellsMembers input members rest →
      Finds (readMembers read input)
        (read.putAll (Value.rebuiltMembers Entries.ofPairs members)) rest
  | .last hName hValue hEnd =>
      finds_readMembers_iff.mpr
        ⟨_, _, _, _, hName, finds_readValue_of_spells hValue, .inl ⟨hEnd, rfl⟩⟩
  | .more hName hValue hComma hMembers =>
      finds_readMembers_iff.mpr
        ⟨_, _, _, _, hName, finds_readValue_of_spells hValue,
          .inr ⟨_, hComma, finds_readMembers_of_spells _ hMembers⟩⟩

end

/-! ### From the reader to the grammar -/

theorem length_of_finds {α : Type} {input rest : Text} {result : Result α input} {value : α}
    (h : Finds result value rest) : rest.length < input.length := h.1

theorem length_of_names {input name start : Text} (h : Names input name start) :
    start.length < input.length := by
  obtain ⟨quoted, afterName, afterColon, rfl, hName, hColon, rfl⟩ := h
  have hQuoted := length_of_finds hName
  have hColonLength := length_of_skipSpace hColon
  have hStart := length_skipSpace_le afterColon
  simp only [List.length_cons] at hColonLength ⊢
  omega

mutual

theorem exists_spells_of_readValue {input rest : Text} {value : Value}
    (h : Finds (readValue input) value rest) :
    ∃ written, Spells input written rest ∧ written.collapsed = value := by
  by_cases hOpens : Opens input
  · obtain ⟨text, rfl | rfl | rfl⟩ := hOpens
    · obtain ⟨quoted, hQuotes, rfl⟩ := finds_readValue_quote_iff.mp h
      exact ⟨_, .string hQuotes, rfl⟩
    · rcases finds_readValue_bracket_iff.mp h with ⟨hEnd, rfl⟩ | ⟨-, items, hItems, rfl⟩
      · exact ⟨_, .noItems hEnd, rfl⟩
      · obtain ⟨written, hWritten, rfl⟩ := exists_spells_of_readItems hItems
        exact ⟨_, .items hWritten, rfl⟩
    · rcases finds_readValue_brace_iff.mp h with ⟨hEnd, rfl⟩ | ⟨-, members, hMembers, rfl⟩
      · exact ⟨_, .noMembers hEnd, rfl⟩
      · obtain ⟨written, hWritten, rfl⟩ := exists_spells_of_readMembers hMembers
        exact ⟨_, .members hWritten, rfl⟩
  · rw [readValue_of_not_opens hOpens] at h
    exact ⟨value, .scalar hOpens h, collapsed_of_readScalar h⟩
termination_by (input.length, 0)
decreasing_by
  all_goals
    have hSkip := length_skipSpace_le text
    apply Prod.Lex.left
    subst_vars
    rw [List.length_cons]
    omega

theorem exists_spells_of_readItems {input rest : Text} {read values : List Value}
    (h : Finds (readItems read input) values rest) :
    ∃ written, SpellsItems input written rest ∧
      read.reverse ++ Value.rebuiltItems Entries.ofPairs written = values := by
  obtain ⟨value, after, hValue, hNext⟩ := finds_readItems_iff.mp h
  have hAfter := length_of_finds hValue
  obtain ⟨first, hFirst, rfl⟩ := exists_spells_of_readValue hValue
  rcases hNext with ⟨hEnd, rfl⟩ | ⟨next, hComma, hMore⟩
  · exact ⟨[first], .last hFirst hEnd, (List.reverse_cons).symm⟩
  · obtain ⟨written, hWritten, rfl⟩ := exists_spells_of_readItems hMore
    refine ⟨first :: written, .more hFirst hComma hWritten, ?_⟩
    rw [List.reverse_cons, List.append_assoc]
    rfl
termination_by (input.length, 1)
decreasing_by
  · apply Prod.Lex.right
    omega
  · have hNextLength := length_of_skipSpace hComma
    have hSkip := length_skipSpace_le next
    apply Prod.Lex.left
    simp only [List.length_cons] at hNextLength
    omega

theorem exists_spells_of_readMembers {input rest : Text} {read members : Entries Value}
    (h : Finds (readMembers read input) members rest) :
    ∃ written, SpellsMembers input written rest ∧
      read.putAll (Value.rebuiltMembers Entries.ofPairs written) = members := by
  obtain ⟨name, start, value, after, hName, hValue, hNext⟩ := finds_readMembers_iff.mp h
  have hStart := length_of_names hName
  have hAfter := length_of_finds hValue
  obtain ⟨first, hFirst, rfl⟩ := exists_spells_of_readValue hValue
  rcases hNext with ⟨hEnd, rfl⟩ | ⟨next, hComma, hMore⟩
  · exact ⟨[(name, first)], .last hName hFirst hEnd, rfl⟩
  · obtain ⟨written, hWritten, rfl⟩ := exists_spells_of_readMembers hMore
    exact ⟨(name, first) :: written, .more hName hFirst hComma hWritten, rfl⟩
termination_by (input.length, 1)
decreasing_by
  · apply Prod.Lex.left
    omega
  · have hNextLength := length_of_skipSpace hComma
    have hSkip := length_skipSpace_le next
    apply Prod.Lex.left
    simp only [List.length_cons] at hNextLength
    omega

end

/-- The reader finds what the grammar spells, with each object collapsed. -/
theorem finds_readValue_iff {input rest : Text} {value : Value} :
    Finds (readValue input) value rest ↔
      ∃ written, Spells input written rest ∧ written.collapsed = value := by
  constructor
  · exact exists_spells_of_readValue
  · rintro ⟨written, hWritten, rfl⟩
    exact finds_readValue_of_spells hWritten

/-- Reading a document gives what is written in it, with each object collapsed. -/
theorem read_eq_ok_iff {document : Text} {value : Value} :
    read document = .ok value ↔
      ∃ written, IsWritten document written ∧ written.collapsed = value := by
  constructor
  · intro h
    unfold read at h
    split at h
    · cases h
    · next hMark =>
        split at h
        · cases h
        · next value rest hShorter hValue =>
            split at h
            · next hRest =>
                cases h
                obtain ⟨written, hWritten, rfl⟩ := finds_readValue_iff.mp ⟨hShorter, hValue⟩
                exact ⟨written, ⟨hMark, rest, hWritten, hRest⟩, rfl⟩
            · cases h
  · rintro ⟨written, ⟨hMark, rest, hWritten, hRest⟩, rfl⟩
    obtain ⟨hShorter, hValue⟩ := finds_readValue_of_spells hWritten
    unfold read
    split
    · next after => exact absurd rfl (hMark after)
    · simp only [hValue, hRest]

/-! ### Plain names -/

/-- A string without quotes, backslashes and control characters is quoted as it is. -/
theorem finds_readString_plain {quoted : Text} (opening read rest : Text)
    (hPlain : ∀ p ∈ quoted, p ≠ .char '"' ∧ p ≠ .char '\\' ∧ 0x1F < p.toNat) :
    Finds (readString opening read (quoted ++ .char '"' :: rest)) (read.reverse ++ quoted)
      rest := by
  induction quoted generalizing read with
  | nil =>
      rw [List.nil_append, readString, List.append_nil]
      exact ⟨_, rfl⟩
  | cons p quoted ih =>
      obtain ⟨hQuote, hBackslash, hControl⟩ := hPlain p List.mem_cons_self
      obtain ⟨hShorter, hMore⟩ := ih (p :: read) fun q hq => hPlain q (List.mem_cons_of_mem _ hq)
      rw [List.cons_append, readString, if_neg (Nat.not_le.mpr hControl), hMore]
      · rw [List.reverse_cons, List.append_assoc]
        exact ⟨_, rfl⟩
      all_goals simp [hQuote, hBackslash]

theorem names_plain {name rest : Text}
    (hPlain : ∀ p ∈ name, p ≠ .char '"' ∧ p ≠ .char '\\' ∧ 0x1F < p.toNat)
    (hRest : skipSpace rest = rest) :
    Names (.char '"' :: (name ++ .char '"' :: .char ':' :: rest)) name rest :=
  ⟨_, .char ':' :: rest, rest, rfl, finds_readString_plain _ [] _ hPlain, rfl, hRest.symm⟩

/-! ### Names that come back -/

/-- The names of a document that is an object are different. -/
theorem nodup_names_of_read {document : Text} {members : Entries Value}
    (h : read document = .ok (.object members)) : members.names.Nodup := by
  obtain ⟨written, -, hCollapsed⟩ := read_eq_ok_iff.mp h
  cases written with
  | object all =>
      rw [Value.collapsed, Value.rebuilt, Value.object.injEq] at hCollapsed
      have hNone : (Entries.names ([] : Entries Value)).Nodup := List.nodup_nil
      rw [← hCollapsed]
      exact Entries.nodup_names_putAll hNone _
  | _ => cases hCollapsed

end Json

end EntityForge
