import EntityForge.Proofs.CSharp.LineEndings
import EntityForge.Proofs.Naming.Emitted
import EntityForge.Proofs.Text.Numeral

/-! # The types in the context class

The context class names two types that a language setting can choose: its base class and the type of
its options.  Such a setting should be a text that is a dotted name; without it, or with nothing as
its value, a standard type should be named (`TypeSetting.Means`).  But the check of the setting
looks only at how the value is spelled, and the value is written as it is spelled.

So the question is which values that are no texts are spelled like names.  Numerals begin with a
digit or a minus sign, lists and objects with a bracket, and no name begins so; what remains are
words (`IsSpelledAsName`): those for nothing, for the truth values, and for the numbers that are not
finite and have no sign.  A setting with one of these values is accepted and the word is written, a
setting with any other value that is no text is refused (`written_as_meant_iff`): as unusable, or,
if what the settings are refused for cannot be spelled out at all, with another fault in its place.
-/

namespace EntityForge

/-! ### First code points -/

namespace Binary64

theorem beginsAsNumeral_plainDigits {digits : Text} (h : digits.beginsAsNumeral = true)
    (lead : Int) : (plainDigits digits lead).beginsAsNumeral = true := by
  rw [plainDigits]
  split
  · rfl
  · cases digits with
    | nil => cases h
    | cons p rest => exact h

theorem beginsAsNumeral_scientificDigits {digits : Text} (h : digits.beginsAsNumeral = true)
    (layout : Layout) (lead : Int) :
    (scientificDigits layout digits lead).beginsAsNumeral = true := by
  cases digits with
  | nil => cases h
  | cons p rest => exact h

/-- The numeral of a finite number begins with a digit or a minus sign. -/
theorem beginsAsNumeral_numeral (layout : Layout) (negative : Bool) (mantissa : Nat)
    (exponent : Int) :
    (numeral layout (.finite negative mantissa exponent)).beginsAsNumeral = true := by
  have hSigned : ∀ t : Text, t.beginsAsNumeral = true →
      ((if negative then text "-" else []) ++ t).beginsAsNumeral = true := by
    intro t ht
    cases negative with
    | false => exact ht
    | true => rfl
  cases mantissa with
  | zero => exact hSigned _ rfl
  | succ m =>
      have hDigits := Text.beginsAsNumeral_ofNat (shortest (m + 1) exponent).digits
      refine hSigned _ ?_
      split
      · exact beginsAsNumeral_plainDigits hDigits _
      · exact beginsAsNumeral_scientificDigits hDigits _ _

end Binary64

namespace CSharp

open Generator

/-- A dotted name begins with the at sign or as an identifier does. -/
theorem isIdentifierStart_of_isDottedName {p : CodePoint} {rest : Text}
    (h : isDottedName (p :: rest) = true) : p = .char '@' ∨ p.isIdentifierStart = true := by
  rw [isDottedName] at h
  by_cases hDot : p = .char '.'
  · subst hDot
    rw [Text.splitOn_cons_self, List.all_cons, Bool.and_eq_true] at h
    exact absurd h.1 (by decide)
  · obtain ⟨piece, pieces, -, hSplit⟩ := Text.splitOn_cons_of_ne hDot rest
    rw [hSplit, List.all_cons, Bool.and_eq_true, isFreeIdentifier, Bool.and_eq_true,
      NamingRule.isValid, unmarked_cons] at h
    by_cases hMark : p = .char '@'
    · exact .inl hMark
    · rw [if_neg hMark, Text.isIdentifier, Bool.and_eq_true] at h
      exact .inr h.1.1.1

theorem not_isIdentifierStart_of_isNumeralCode {p : CodePoint} (h : Text.isNumeralCode p = true) :
    p ≠ .char '@' ∧ p.isIdentifierStart = false := by
  simp only [Text.isNumeralCode, Bool.or_eq_true, beq_iff_eq] at h
  rcases h with hDigit | rfl
  · simp only [CodePoint.isDigit, Bool.and_eq_true, decide_eq_true_eq] at hDigit
    have hDecimal : p.isDecimal = true := by
      rw [CodePoint.isDecimal, Text.decimalRanges, CodeRanges.has, if_neg (by omega),
        if_pos hDigit.2]
    refine ⟨?_, by simp [CodePoint.isIdentifierStart, hDecimal]⟩
    rintro rfl
    exact absurd hDigit.2 (by decide)
  · decide

/-- No dotted name begins as a numeral does. -/
theorem not_isDottedName_of_beginsAsNumeral {t : Text} (h : t.beginsAsNumeral = true) :
    ¬ isDottedName t = true := by
  intro hName
  cases t with
  | nil => cases h
  | cons p rest =>
      obtain ⟨hMark, hStart⟩ := not_isIdentifierStart_of_isNumeralCode h
      rcases isIdentifierStart_of_isDottedName hName with he | hFirst
      · exact hMark he
      · simp [hStart] at hFirst

/-! ### Values that are spelled like names -/

/-- The values that are no texts but are spelled like names. -/
inductive IsSpelledAsName : Value → Prop
  | nothing : IsSpelledAsName .null
  | truth (b : Bool) : IsSpelledAsName (.bool b)
  | notNumber : IsSpelledAsName (.float .nan)
  | infinity : IsSpelledAsName (.float (.infinite false))

/-- A value is spelled like a dotted name if it is a text that is one, or one of the values that
are spelled by a word. -/
theorem isDottedName_plain_iff {value : Value} :
    isDottedName value.plain = true ↔
      (∃ name, value = .string name ∧ isDottedName name = true) ∨ IsSpelledAsName value := by
  -- the values that are spelled with a bracket in front
  have hBracket : ∀ (p : CodePoint) (rest : Text), p = .char '[' ∨ p = .char '\x7b' →
      isDottedName (p :: rest) ≠ true := by
    intro p rest hp h
    rcases hp with rfl | rfl <;>
      exact absurd (isIdentifierStart_of_isDottedName h) (by decide)
  constructor
  · intro h
    cases value with
    | null => exact .inr .nothing
    | bool b => exact .inr (.truth b)
    | int n =>
        exact absurd h (not_isDottedName_of_beginsAsNumeral (Text.beginsAsNumeral_ofInt n))
    | float x =>
        cases x with
        | nan => exact .inr .notNumber
        | infinite negative =>
            cases negative with
            | false => exact .inr .infinity
            | true => exact absurd h (by decide)
        | finite negative mantissa exponent =>
            exact absurd h (not_isDottedName_of_beginsAsNumeral
              (Binary64.beginsAsNumeral_numeral Value.floatLayout negative mantissa exponent))
    | string name => exact .inl ⟨name, rfl, h⟩
    | list items => exact absurd h (hBracket _ _ (.inl rfl))
    | object members => exact absurd h (hBracket _ _ (.inr rfl))
  · rintro (⟨name, rfl, h⟩ | h)
    · exact h
    · cases h with
      | nothing => decide
      | truth b => cases b <;> decide
      | notNumber => decide
      | infinity => decide

/-! ### Settings that name types -/

/-- The language settings that name a type of the context class. -/
inductive TypeSetting
  | baseClass
  | optionsType

namespace TypeSetting

/-- The name of the setting. -/
def key : TypeSetting → Text
  | .baseClass => baseClassKey
  | .optionsType => optionsTypeKey

/-- The type that is named without the setting. -/
def standard : TypeSetting → Text
  | .baseClass => text "DbContext"
  | .optionsType => text "DbContextOptions"

/-- The template variable that holds the type. -/
def variableName : TypeSetting → Text
  | .baseClass => text "base_class"
  | .optionsType => text "options_type"

/-- The value of the setting, if it has one. -/
def given? (t : TypeSetting) (s : Settings) : Option Value := s.custom.lookup? t.key

/-- The type as it is written. -/
def written (t : TypeSetting) (s : Settings) : Text := typeNameSetting s t.key t.standard

/-- The line of the context class in which a type stands: that of the class or that of its
constructor. -/
def line (t : TypeSetting) (s : Settings) (name : Text) : Text :=
  match t with
  | .baseClass => s.indent ++ text "public partial class " ++ s.contextName ++ text " : " ++ name
  | .optionsType =>
      s.indent ++ s.indent ++ text "public " ++ s.contextName ++ text "(" ++ name ++ text "<" ++
        s.contextName ++ text "> options)"

/-- The type that settings mean: the text that they give, if it is a dotted name, or the standard
one if they give nothing. -/
inductive Means (t : TypeSetting) (s : Settings) : Text → Prop
  | given {name : Text} (hGiven : t.given? s = some (.string name))
      (hName : isDottedName name = true) : Means t s name
  | absent (hGiven : t.given? s = none) : Means t s t.standard
  | nothing (hGiven : t.given? s = some .null) : Means t s t.standard

variable {t : TypeSetting} {s : Settings} {value : Value}

theorem written_of_given (h : t.given? s = some value) : t.written s = value.plain := by
  rw [given?] at h
  rw [written, typeNameSetting, h, Option.getD_some]

theorem isDottedName_written (t : TypeSetting) (h : IsUsable s) :
    isDottedName (t.written s) = true := by
  cases t with
  | baseClass => exact h.baseClass
  | optionsType => exact h.optionsType

/-- A usable setting is a dotted name, or is spelled as one. -/
theorem isText_or_isSpelledAsName (hs : IsUsable s) (h : t.given? s = some value) :
    (∃ name, value = .string name ∧ isDottedName name = true) ∨ IsSpelledAsName value := by
  rw [← isDottedName_plain_iff, ← written_of_given h]
  exact t.isDottedName_written hs

/-- In usable settings a type is written as it is meant exactly if the setting is missing or a
text. -/
theorem means_written_iff (hs : IsUsable s) :
    t.Means s (t.written s) ↔ ∀ value, t.given? s = some value → value.text?.isSome = true := by
  -- no word for a value that is no text is the standard type
  have hStandard : Value.plain .null ≠ t.standard := by
    cases t <;> decide
  constructor
  · intro hMeans value hValue
    have hWritten := written_of_given hValue
    generalize t.written s = name at hMeans hWritten
    cases hMeans with
    | given hGiven =>
        rw [hValue] at hGiven
        cases hGiven
        rfl
    | absent hGiven => simp [hValue] at hGiven
    | nothing hGiven =>
        rw [hValue] at hGiven
        cases hGiven
        exact absurd hWritten.symm hStandard
  · intro hTexts
    cases hGiven : t.given? s with
    | none =>
        have hWritten : t.written s = t.standard := by
          rw [given?] at hGiven
          rw [written, typeNameSetting, hGiven]
          rfl
        rw [hWritten]
        exact .absent hGiven
    | some value =>
        have hText := hTexts value hGiven
        cases value with
        | string name =>
            have hName := t.isDottedName_written hs
            rw [written_of_given hGiven] at hName ⊢
            exact .given hGiven hName
        | _ => cases hText

/-- A setting that is not spelled as a name is found to be a problem. -/
theorem settingProblems_ne_nil (h : t.given? s = some value)
    (hName : ¬ isDottedName value.plain = true) : settingProblems s ≠ [] := by
  have hProblem : typeNameProblem s.custom t.key ≠ [] := by
    rw [given?] at h
    rw [typeNameProblem, h]
    cases value with
    | null => exact absurd (isDottedName_plain_iff.mpr (.inr .nothing)) hName
    | _ => simpa using hName
  intro hNone
  simp only [settingProblems, List.append_eq_nil_iff] at hNone
  cases t with
  | baseClass => exact hProblem hNone.1.2
  | optionsType => exact hProblem hNone.2

end TypeSetting

/-- The language settings of a draft of settings are an object. -/
theorem custom_of_settings? {d : Draft} {s : Settings} (h : d.settings? = .ok s) :
    d .custom = .object s.custom := by
  obtain ⟨hKinds, rfl⟩ := Settings.settings?_eq_ok_iff.mp h
  exact (congrFun (Settings.toDraft_coerce hKinds) .custom).symm

/-- What a draft of settings can be refused for can be spelled out: the values of its settings, and
those of the language settings that name types. -/
structure IsSpeakable (depth : Option Nat) (d : Draft) (members : Entries Value) : Prop where
  setting : ∀ setting, setting ≠ .custom → (d setting).spellingFault? depth = none
  type : ∀ (t : TypeSetting) (value : Value), members.lookup? t.key = some value →
    value.spellingFault? depth = none

namespace IsSpeakable

variable {depth : Option Nat} {d : Draft} {members : Entries Value}

theorem kindProblems (h : IsSpeakable depth d members) (hCustom : d .custom = .object members) :
    Settings.unspellable? depth ((Settings.kindProblems d.entries).map .kind) = none := by
  rw [Settings.unspellable?, List.findSome?_eq_none_iff]
  simp only [List.forall_mem_map]
  intro problem hProblem
  obtain ⟨setting, -, hMisfit⟩ := List.mem_filterMap.mp hProblem
  rw [Settings.lookup?_entries, Settings.ofLabel?_label, Option.map_some] at hMisfit
  dsimp only at hMisfit
  split at hMisfit
  · cases hMisfit
  · next hKind =>
      cases hMisfit
      -- the language settings are an object, which is of their kind
      refine h.setting setting fun hCustomary => hKind ?_
      rw [hCustomary, hCustom]
      rfl

theorem commonProblems (h : IsSpeakable depth d members) {s : Settings}
    (hSettings : d.settings? = .ok s) : Settings.unspellable? depth s.commonProblems = none := by
  obtain ⟨hKinds, rfl⟩ := Settings.settings?_eq_ok_iff.mp hSettings
  have hIndent : (Value.int d.coerce.indentSize).spellingFault? depth = none := by
    have hSize : d .indentSize = .int d.coerce.indentSize :=
      (congrFun (Settings.toDraft_coerce hKinds) .indentSize).symm
    rw [← hSize]
    exact h.setting _ (by decide)
  rw [Settings.unspellable?, List.findSome?_eq_none_iff]
  intro problem hProblem
  cases problem with
  | indentNotPositive size =>
      have hSame : size = d.coerce.indentSize := by
        simp only [Settings.commonProblems, List.mem_append] at hProblem
        rcases hProblem with ((hProblem | hProblem) | hProblem) | hProblem <;> split at hProblem <;>
          simp_all
      rw [hSame]
      exact hIndent
  | typeName setting found =>
      exact absurd hProblem (by simp [Settings.commonProblems])
  | kind problem => exact absurd hProblem (by simp [Settings.commonProblems])
  | _ => rfl

theorem settingProblems (h : IsSpeakable depth d members) {s : Settings}
    (hMembers : s.custom = members) :
    Settings.unspellable? depth (settingProblems s) = none := by
  have hType : ∀ t : TypeSetting, ∀ problem ∈ typeNameProblem s.custom t.key,
      problem.spellingFault? depth = none := by
    intro t problem hProblem
    rw [typeNameProblem] at hProblem
    split at hProblem
    · cases hProblem
    · cases hProblem
    · next value _ hValue =>
        split at hProblem
        · cases hProblem
        · rw [List.mem_singleton.mp hProblem]
          exact h.type t value (hMembers ▸ hValue)
  rw [Settings.unspellable?, List.findSome?_eq_none_iff]
  intro problem hProblem
  simp only [CSharp.settingProblems, List.mem_append] at hProblem
  rcases hProblem with ((hNamespace | hContext) | hBase) | hOptions
  · split at hNamespace
    · cases hNamespace
    · rw [List.mem_singleton.mp hNamespace]
      rfl
  · split at hContext
    · cases hContext
    · rw [List.mem_singleton.mp hContext]
      rfl
  · exact hType .baseClass problem hBase
  · exact hType .optionsType problem hOptions

end IsSpeakable

/-- A draft with a setting for a type that is not spelled as a name is refused. -/
theorem ofDraft_of_not_isDottedName (host : Host) {d : Draft} {members : Entries Value}
    {t : TypeSetting} {value : Value} (hCustom : d .custom = .object members)
    (hValue : members.lookup? t.key = some value) (hName : ¬ isDottedName value.plain = true) :
    ∃ problems, Generator.ofDraft host d =
        .error (Settings.refused host.machine.depth problems (.unusable problems)) ∧
      (IsSpeakable host.machine.depth d members →
        Settings.unspellable? host.machine.depth problems = none) := by
  rw [Generator.ofDraft]
  split
  · next problems hKinds =>
      refine ⟨problems.map .kind, rfl, fun h => ?_⟩
      rw [Draft.settings?] at hKinds
      split at hKinds
      · cases hKinds
      · cases hKinds
        exact h.kindProblems hCustom
  · next s hSettings =>
      have hMembers := custom_of_settings? hSettings
      rw [hCustom] at hMembers
      cases hMembers
      rw [Generator.make]
      split
      · split
        · next hNone => exact absurd hNone (TypeSetting.settingProblems_ne_nil hValue hName)
        · exact ⟨_, rfl, fun h => h.settingProblems rfl⟩
      · exact ⟨_, rfl, fun h => h.commonProblems hSettings⟩

/-! ### What is written -/

/-- A generator names these types in the context class: any engine is given them, and the built-in
template writes them into the lines of the class and of its constructor. -/
structure NamesTypes (g : Generator) (entities : List Entity) (types : TypeSetting → Text) :
    Prop where
  handed : ∃ data : Template.Variables,
    contextCall g.settings entities =
      unlessFault (indentFailure? g.settings) ⟨contextSheetName, data⟩ ∧
    ∀ t : TypeSetting,
      (data.lookup? t.variableName).bind Template.Datum.plain? = some (types t)
  written : g.library = builtinLibrary → ∃ rest, g.contextCode entities =
    unlessFault (indentFailure? g.settings) (Text.join (text "\n")
      (openingLines g.settings contextImports ++
        TypeSetting.baseClass.line g.settings (types .baseClass) ::
          (g.settings.indent ++ text "\x7b") ::
            TypeSetting.optionsType.line g.settings (types .optionsType) :: rest))

theorem namesTypes_of_ofDraft {host : Host} {d : Draft} {g : Generator}
    (h : Generator.ofDraft host d = .ok g) (entities : List Entity) :
    NamesTypes g entities fun t => t.written g.settings where
  handed := by
    have hPlain : ∀ t : TypeSetting,
        (customOr g.settings t.key t.standard).plain? = some (t.written g.settings) := by
      intro t
      rw [customOr, Template.Datum.plain?, TypeSetting.written, typeNameSetting]
    refine ⟨contextVariables g.settings entities, contextCall_eq _ _, fun t => ?_⟩
    cases t with
    | baseClass => exact hPlain .baseClass
    | optionsType => exact hPlain .optionsType
  written hLibrary := by
    rw [contextCode_eq ⟨isUsable_of_ofDraft h, hLibrary⟩, contextLines, List.append_assoc,
      List.append_assoc]
    exact ⟨_, rfl⟩

/-- A draft in which the setting for a type is no text and not spelled like a name is refused; if
all that it can be refused for can be spelled out, it is refused as unusable. With any other draft
that makes a generator, the context class of any entities names for each setting the type that is
meant, exactly if the setting is missing or a text; any other value is one of those that are spelled
like names, and the class names its spelling. -/
theorem written_as_meant_iff (host : Host) (d : Draft) :
    (∀ (t : TypeSetting) (members : Entries Value) (value : Value),
      d .custom = .object members → members.lookup? t.key = some value →
      value.text? = none → ¬ IsSpelledAsName value →
      ∃ problems, Generator.ofDraft host d =
          .error (Settings.refused host.machine.depth problems (.unusable problems)) ∧
        (IsSpeakable host.machine.depth d members →
          Generator.ofDraft host d = .error (.settings (.unusable problems)))) ∧
    ∀ g, Generator.ofDraft host d = .ok g →
      d .custom = .object g.settings.custom ∧
      (∀ entities, NamesTypes g entities fun t => t.written g.settings) ∧
      ∀ t : TypeSetting,
        (t.Means g.settings (t.written g.settings) ↔
          ∀ value, t.given? g.settings = some value → value.text?.isSome = true) ∧
        ∀ value, t.given? g.settings = some value → value.text? = none →
          IsSpelledAsName value ∧ t.written g.settings = value.shown := by
  refine ⟨fun t members value hCustom hValue hText hSpelled => ?_, fun g hMade => ?_⟩
  · have hName : ¬ isDottedName value.plain = true := by
      intro hName
      rcases isDottedName_plain_iff.mp hName with ⟨name, rfl, -⟩ | h
      · cases hText
      · exact hSpelled h
    obtain ⟨problems, hRefused, hSpeakable⟩ :=
      ofDraft_of_not_isDottedName host hCustom hValue hName
    refine ⟨problems, hRefused, fun h => ?_⟩
    rw [hRefused, Settings.refused, hSpeakable h]
  · have hs := isUsable_of_ofDraft hMade
    refine ⟨custom_of_settings? (make_of_ofDraft hMade).1, namesTypes_of_ofDraft hMade,
      fun t => ⟨TypeSetting.means_written_iff hs, fun value hValue hText => ?_⟩⟩
    rcases TypeSetting.isText_or_isSpelledAsName hs hValue with ⟨name, rfl, -⟩ | hSpelled
    · cases hText
    · refine ⟨hSpelled, ?_⟩
      rw [TypeSetting.written_of_given hValue]
      cases hSpelled <;> rfl

/-- Settings with a value for the base class of the context class. -/
def basedOn (value : Value) : Settings := { custom := [(baseClassKey, value)] }

/-- A number is refused as a base class. The name of a class is written, and without the other
setting so is the standard type of the options. -/
theorem written_as_meant_iff_basedOn :
    (∃ problems, Generator.ofDraft {} (basedOn (.int 7)).toDraft =
      .error (.settings (.unusable problems))) ∧
    ∃ g, Generator.ofDraft {} (basedOn (.string (text "Shop.AuditContext"))).toDraft = .ok g ∧
      TypeSetting.baseClass.Means g.settings (text "Shop.AuditContext") ∧
      TypeSetting.optionsType.Means g.settings (text "DbContextOptions") ∧
      NamesTypes g [] fun t => t.written g.settings := by
  have hSpeakable : IsSpeakable none (basedOn (.int 7)).toDraft [(baseClassKey, .int 7)] := by
    refine ⟨fun setting hSetting => ?_, fun t value hValue => ?_⟩
    · cases setting with
      | custom => exact absurd rfl hSetting
      | _ => decide
    · cases t with
      | baseClass =>
          cases hValue
          decide
      | optionsType => cases hValue
  obtain ⟨problems, -, hRefused⟩ := (written_as_meant_iff {} (basedOn (.int 7)).toDraft).1
    .baseClass [(baseClassKey, .int 7)] (.int 7) rfl rfl rfl nofun
  refine ⟨⟨problems, hRefused hSpeakable⟩,
    ⟨basedOn (.string (text "Shop.AuditContext")), builtinLibrary⟩, ?_⟩
  have hMade : Generator.ofDraft {} (basedOn (.string (text "Shop.AuditContext"))).toDraft =
      .ok ⟨basedOn (.string (text "Shop.AuditContext")), builtinLibrary⟩ :=
    ofDraft_toDraft {} rfl rfl (by decide)
  obtain ⟨-, hNames, hMeans⟩ := (written_as_meant_iff _ _).2 _ hMade
  refine ⟨hMade, (hMeans .baseClass).1.mpr ?_, (hMeans .optionsType).1.mpr ?_, hNames []⟩
  · rintro _ ⟨⟩
    rfl
  · rintro _ ⟨⟩

/-- With nothing as the base class, or with a truth value, a generator is made and the context class
is derived from a class that the settings do not mean. -/
theorem word_written_as_base :
    (∀ value ∈ [Value.null, .bool true],
      Generator.ofDraft {} (basedOn value).toDraft = .ok ⟨basedOn value, builtinLibrary⟩ ∧
        contextCode ⟨basedOn value, builtinLibrary⟩ [] =
          .ok (Text.join (text "\n") (contextLines (basedOn value) []))) ∧
    TypeSetting.baseClass.line (basedOn .null) (text "None") ∈ contextLines (basedOn .null) [] ∧
    TypeSetting.baseClass.line (basedOn (.bool true)) (text "True") ∈
      contextLines (basedOn (.bool true)) [] ∧
    ¬ TypeSetting.baseClass.Means (basedOn .null) (text "None") ∧
    ∀ name, ¬ TypeSetting.baseClass.Means (basedOn (.bool true)) name := by
  refine ⟨fun value hValue => ?_, ?_, ?_, ?_, ?_⟩
  · have hOwn : settingProblems (basedOn value) = [] := by
      simp only [List.mem_cons, List.not_mem_nil, or_false] at hValue
      rcases hValue with rfl | rfl <;> decide
    have hMade := ofDraft_toDraft {} (s := basedOn value) rfl rfl hOwn
    exact ⟨hMade, contextCode_eq (isBuiltin_of_ofDraft hMade rfl) []⟩
  · decide
  · decide
  · intro h
    cases h with
    | given hGiven => cases hGiven
  · intro name h
    cases h with
    | given hGiven => cases hGiven
    | absent hGiven => cases hGiven
    | nothing hGiven => cases hGiven

end CSharp

end EntityForge
