import EntityForge.Proofs.Json.Pieces
import EntityForge.Proofs.Settings.Merging

/-! # Portable settings

Settings that are loaded from portable values have portable values (`isPortable_of_load`): every
value comes from the defaults, the file or the overrides, and merging keeps names different.
-/

namespace EntityForge

/-! ### Portable objects -/

theorem Utf8.isEncodable_text (s : String) : Utf8.IsEncodable (text s) := by
  intro p hp
  obtain ⟨c, -, rfl⟩ := List.mem_map.mp hp
  exact ⟨c, rfl⟩

namespace Value

theorem isPortable_object_iff {members : Entries Value} :
    IsPortable (.object members) ↔ members.names.Nodup ∧
      ∀ name value, (name, value) ∈ members → Utf8.IsEncodable name ∧ IsPortable value := by
  constructor
  · intro h
    cases h with
    | object hNodup hNames hValues =>
        refine ⟨hNodup, fun name value hMember => ?_⟩
        have hName : name ∈ members.names := List.mem_map.mpr ⟨_, hMember, rfl⟩
        exact ⟨hNames name hName, hValues name value hMember⟩
  · rintro ⟨hNodup, hMembers⟩
    refine .object hNodup ?_ fun name value hMember => (hMembers name value hMember).2
    intro name hName
    obtain ⟨⟨name, value⟩, hMember, rfl⟩ := List.mem_map.mp hName
    exact (hMembers name value hMember).1

theorem isPortable_empty : IsPortable (.object []) :=
  isPortable_object_iff.mpr ⟨List.nodup_nil, fun _ _ h => by cases h⟩

theorem isPortable_of_lookup? {members : Entries Value} (h : IsPortable (.object members))
    {key : Text} {value : Value} (hValue : members.lookup? key = some value) : IsPortable value :=
  ((isPortable_object_iff.mp h).2 key value (Entries.mem_of_lookup? hValue)).2

theorem isPortable_put {members : Entries Value} (h : IsPortable (.object members)) {key : Text}
    {value : Value} (hKey : Utf8.IsEncodable key) (hValue : IsPortable value) :
    IsPortable (.object (members.put key value)) := by
  obtain ⟨hNodup, hMembers⟩ := isPortable_object_iff.mp h
  refine isPortable_object_iff.mpr ⟨Entries.nodup_names_put hNodup key value, ?_⟩
  intro name other hMember
  rcases Entries.mem_of_mem_put hMember with hOld | ⟨rfl, rfl⟩
  · exact hMembers name other hOld
  · exact ⟨hKey, hValue⟩

theorem isPortable_putAll {members more : Entries Value} (h : IsPortable (.object members))
    (hMore : ∀ name value, (name, value) ∈ more → Utf8.IsEncodable name ∧ IsPortable value) :
    IsPortable (.object (members.putAll more)) := by
  induction more generalizing members with
  | nil => exact h
  | cons member rest ih =>
      obtain ⟨name, value⟩ := member
      obtain ⟨hName, hValue⟩ := hMore name value List.mem_cons_self
      exact ih (isPortable_put h hName hValue)
        fun other value hOther => hMore other value (List.mem_cons_of_mem _ hOther)

end Value

namespace Settings

open Value

section

variable {settings given merged : Entries Value}

/-! ### Merging -/

theorem isPortable_of_holds {members : Entries Value} (h : IsPortable (.object settings))
    (hMembers : Holds settings members) : IsPortable (.object members) := by
  rw [Holds] at hMembers
  cases hCustom : settings.lookup? Setting.custom.label with
  | none =>
      rw [hCustom] at hMembers
      cases hMembers
      exact isPortable_empty
  | some value =>
      rw [hCustom, Option.getD_some] at hMembers
      rw [← hMembers]
      exact isPortable_of_lookup? h hCustom

theorem isPortable_mergeOne {name : Text} {value : Value} (h : IsPortable (.object settings))
    (hName : Utf8.IsEncodable name) (hValue : IsPortable value)
    (hMerge : mergeOne settings name value = .ok merged) : IsPortable (.object merged) := by
  rcases mergeOne_cases hMerge with ⟨rfl, -⟩ | ⟨old, members, -, rfl, hOld, rfl⟩
  · exact isPortable_put h hName hValue
  · have hMembers := (isPortable_object_iff.mp hValue).2
    exact isPortable_put h hName (isPortable_putAll (isPortable_of_holds h hOld) hMembers)

theorem isPortable_merge (h : IsPortable (.object settings))
    (hGiven : ∀ name value, (name, value) ∈ given → Utf8.IsEncodable name ∧ IsPortable value)
    (hMerge : merge settings given = .ok merged) : IsPortable (.object merged) := by
  induction given generalizing settings with
  | nil =>
      cases hMerge
      exact h
  | cons entry rest ih =>
      obtain ⟨name, value⟩ := entry
      obtain ⟨next, hNext, hRest⟩ := exists_of_merge_cons hMerge
      obtain ⟨hName, hValue⟩ := hGiven name value List.mem_cons_self
      exact ih (isPortable_mergeOne h hName hValue hNext)
        (fun other value hOther => hGiven other value (List.mem_cons_of_mem _ hOther)) hRest

theorem isPortable_text (s : String) : IsPortable (.string (text s)) :=
  .string (Utf8.isEncodable_text s)

theorem isPortable_defaultsOf (language : Text) : IsPortable (.object (defaultsOf language)) := by
  rw [defaultsOf]
  split
  · have hCustom : IsPortable (.object [
        (text "context_base_class", .string (text "DbContext")),
        (text "context_options_type", .string (text "DbContextOptions"))]) := by
      refine isPortable_object_iff.mpr ⟨by decide, fun name value hMember => ?_⟩
      simp only [List.mem_cons, Prod.mk.injEq, List.not_mem_nil, or_false] at hMember
      rcases hMember with ⟨rfl, rfl⟩ | ⟨rfl, rfl⟩
      all_goals exact ⟨Utf8.isEncodable_text _, isPortable_text _⟩
    refine isPortable_object_iff.mpr ⟨by decide, fun name value hMember => ?_⟩
    simp only [List.mem_cons, Prod.mk.injEq, List.not_mem_nil, or_false] at hMember
    rcases hMember with ⟨rfl, rfl⟩ | ⟨rfl, rfl⟩ | ⟨rfl, rfl⟩ | ⟨rfl, rfl⟩ | ⟨rfl, rfl⟩ |
      ⟨rfl, rfl⟩ | ⟨rfl, rfl⟩
    all_goals refine ⟨Utf8.isEncodable_text _, ?_⟩
    all_goals first | exact isPortable_text _ | exact .bool true | exact hCustom
  · exact isPortable_put isPortable_empty (Utf8.isEncodable_text "custom") isPortable_empty

end

/-! ### Settings as a draft -/

theorem accepts_toDraft (s : Settings) (setting : Setting) :
    setting.kind.accepts (s.toDraft setting) = true := by
  have hOptional (t : Option Text) :
      Setting.Kind.optionalText.accepts (optionalValue t) = true := by
    cases t <;> rfl
  cases setting with
  | outputDir => exact hOptional s.outputDir
  | templateDir => exact hOptional s.templateDir
  | _ => rfl

section

open Setting

variable {value : Value}

theorem optionalValue_text? (h : Kind.optionalText.accepts value = true) :
    optionalValue value.text? = value := by
  cases value with
  | null => rfl
  | string t => rfl
  | _ => cases h

theorem string_textOr {default : Text} (h : Kind.text.accepts value = true) :
    .string (Draft.textOr default value) = value := by
  cases value with
  | string t => rfl
  | _ => cases h

theorem bool_boolOr {default : Bool} (h : Kind.boolean.accepts value = true) :
    .bool (Draft.boolOr default value) = value := by
  cases value with
  | bool b => rfl
  | _ => cases h

/-- A draft of values of the right kinds is the draft of its settings. -/
theorem toDraft_coerce {d : Draft}
    (h : ∀ setting : Setting, setting.kind.accepts (d setting) = true) : d.coerce.toDraft = d := by
  funext setting
  have hKind := h setting
  cases setting with
  | outputDir => exact optionalValue_text? hKind
  | templateDir => exact optionalValue_text? hKind
  | indentSize =>
      rw [toDraft, Draft.coerce]
      cases hValue : d .indentSize with
      | int n => rfl
      | _ =>
          rw [hValue] at hKind
          cases hKind
  | custom =>
      rw [toDraft, Draft.coerce]
      cases hValue : d .custom with
      | object members => rfl
      | _ =>
          rw [hValue] at hKind
          cases hKind
  | useTabs => exact bool_boolOr hKind
  | strictTypes => exact bool_boolOr hKind
  | escapeKeywords => exact bool_boolOr hKind
  | addHeader => exact bool_boolOr hKind
  | _ => exact string_textOr hKind

end

section

variable {depth : Option Nat} {merged : Entries Value} {s : Settings}

/-- Each setting but the language settings has the value that was merged, or else its default. -/
theorem toDraft_of_ofMerged (h : ofMerged depth merged = .ok s) {setting : Setting}
    (hSetting : setting ≠ .custom) : s.toDraft setting = Draft.ofEntries merged setting := by
  obtain ⟨hKinds, rfl⟩ := ofMerged_eq_ok_iff.mp h
  have hAccepts (setting : Setting) :
      setting.kind.accepts (Draft.ofEntries merged setting) = true := by
    rw [Draft.ofEntries]
    cases hValue : merged.lookup? setting.label with
    | none => exact accepts_toDraft {} setting
    | some value => exact hKinds setting value hValue
  have hDraft :
      (Draft.ofEntries merged).coerce.toDraft setting = Draft.ofEntries merged setting := by
    rw [toDraft_coerce hAccepts]
  rw [← hDraft]
  cases setting with
  | custom => exact absurd rfl hSetting
  | _ => rfl

theorem isPortable_default (setting : Setting) :
    IsPortable (({} : Settings).toDraft setting) := by
  cases setting with
  | outputDir => exact .null
  | templateDir => exact .null
  | indentSize => exact .int (by decide)
  | custom => exact isPortable_empty
  | useTabs => exact .bool _
  | strictTypes => exact .bool _
  | escapeKeywords => exact .bool _
  | addHeader => exact .bool _
  | _ => exact isPortable_text _

theorem isPortable_of_ofMerged (hMerged : IsPortable (.object merged))
    (h : ofMerged depth merged = .ok s) (setting : Setting) : IsPortable (s.toDraft setting) := by
  by_cases hSetting : setting = .custom
  · subst hSetting
    obtain ⟨members, hMembers, hCustom⟩ := custom_of_ofMerged h
    have hOthers : ∀ name value, (name, value) ∈ othersAmong merged →
        Utf8.IsEncodable name ∧ IsPortable value := by
      intro name value hMember
      exact (isPortable_object_iff.mp hMerged).2 name value (List.mem_of_mem_filter hMember)
    rw [toDraft, hCustom]
    exact isPortable_putAll (isPortable_of_holds hMerged hMembers) hOthers
  · rw [toDraft_of_ofMerged h hSetting, Draft.ofEntries]
    cases hValue : merged.lookup? setting.label with
    | none => exact isPortable_default setting
    | some value => exact isPortable_of_lookup? hMerged hValue

end

/-- Settings that are loaded from portable values are portable. -/
theorem isPortable_of_load {machine : Machine} {language : Text} {overrides : Value}
    {file : Option Text} {s : Settings} (hOverrides : IsPortable overrides)
    (hFile : ∀ fromFile, fileEntries machine file = .ok fromFile → IsPortable (.object fromFile))
    (hLoad : load machine language overrides file = .ok s) (setting : Setting) :
    IsPortable (s.toDraft setting) := by
  obtain ⟨fromFile, given, merged, hFromFile, hGiven, hMerge, hSettings⟩ := load_eq_ok_iff.mp hLoad
  have hGivenPortable : IsPortable (.object given) := by
    rcases overridesOf_cases hGiven with rfl | rfl
    · exact hOverrides
    · exact isPortable_empty
  have hAll : ∀ name value, (name, value) ∈ fromFile ++ given →
      Utf8.IsEncodable name ∧ IsPortable value := by
    intro name value hMember
    rcases List.mem_append.mp hMember with hMember | hMember
    · exact (isPortable_object_iff.mp (hFile fromFile hFromFile)).2 name value hMember
    · exact (isPortable_object_iff.mp hGivenPortable).2 name value hMember
  exact isPortable_of_ofMerged (isPortable_merge (isPortable_defaultsOf language) hAll hMerge)
    hSettings setting

end Settings

end EntityForge
