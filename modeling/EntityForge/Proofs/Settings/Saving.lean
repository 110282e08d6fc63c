import EntityForge.Proofs.Files.Tree
import EntityForge.Proofs.Settings.Portable
import EntityForge.Proofs.Value.Same
import Mathlib

/-! # Saving and reloading settings

A saved file has the language settings at its top level, beside the others.  Loaded again, it gives
the same settings exactly if no language setting has the name of a setting (`reload_iff`).

One way the file is merged into the defaults without any object of language settings
(`merge_of_notMem`), so every setting is found again, and every language setting comes back over the
defaults, which the saved settings hold already.  The other way a language setting with the name of
a setting does not come back as one: it would have to come out of an object of language settings,
and that is itself a language setting of such a name; but it could only come back as a member of
itself (`not_same_of_lookup?`).
-/

namespace EntityForge.Settings

open Value

/-- Two settings that agree up to the order of members in their values. -/
def Same (s t : Settings) : Prop := ∀ setting, Value.Same (s.toDraft setting) (t.toDraft setting)

/-- What a settings file keeps: every setting but the language settings, and these beside them. -/
def kept (s : Settings) : Entries Value :=
  Entries.putAll (s.toDraft.entries.without Setting.custom.label) s.custom

/-! ### What is kept -/

section

variable {s : Settings}

theorem put_textKeyed (members : Entries Value) (name : Text) (value : Value) :
    Json.Key.put (textKeyed members) (.string name) value = textKeyed (members.put name value) := by
  induction members with
  | nil => rfl
  | cons member rest ih =>
      obtain ⟨first, old⟩ := member
      have hKeyed : textKeyed ((first, old) :: rest) = (.string first, old) :: textKeyed rest := rfl
      rw [hKeyed, Json.Key.put, Json.Key.isSame_string, Entries.put, ih]
      by_cases h : first = name
      · simp [h, textKeyed]
      · simp [h, textKeyed]

theorem savedMembers_eq (s : Settings) :
    savedMembers s.toDraft (textKeyed s.custom) = textKeyed s.kept := by
  rw [savedMembers, kept]
  generalize s.toDraft.entries.without Setting.custom.label = members
  induction s.custom generalizing members with
  | nil => rfl
  | cons member rest ih =>
      have hKeyed : Json.Key.putAll (textKeyed members) (textKeyed (member :: rest)) =
          Json.Key.putAll (Json.Key.put (textKeyed members) (.string member.1) member.2)
            (textKeyed rest) := rfl
      rw [hKeyed, put_textKeyed, ih]
      rfl

theorem lookup?_entries (d : Draft) (key : Text) :
    d.entries.lookup? key = (Setting.ofLabel? key).map d := by
  rw [Draft.entries, Setting.ofLabel?]
  induction Setting.all with
  | nil => rfl
  | cons setting rest ih =>
      rw [List.map_cons, Entries.lookup?, List.find?_cons, ih]
      by_cases h : setting.label = key <;> simp [h]

/-- A draft is one of settings exactly if each of its values is of the right kind. -/
theorem settings?_eq_ok_iff {d : Draft} {s : Settings} :
    d.settings? = .ok s ↔
      (∀ setting : Setting, setting.kind.accepts (d setting) = true) ∧ d.coerce = s := by
  have hKinds : kindProblems d.entries = [] ↔
      ∀ setting : Setting, setting.kind.accepts (d setting) = true := by
    simp only [kindProblems_eq_nil_iff, lookup?_entries, ofLabel?_label, Option.map_some,
      Option.some.injEq, forall_eq']
  rw [← hKinds, Draft.settings?]
  split
  · next hNone => simp [hNone]
  · next hSome =>
      simp only [reduceCtorEq, false_iff, not_and]
      exact fun hNone => absurd hNone hSome

theorem names_entries (d : Draft) : d.entries.names = Setting.all.map Setting.label := by
  rw [Entries.names, Draft.entries, List.map_map]
  rfl

theorem nodup_names_beside (d : Draft) :
    (d.entries.without Setting.custom.label).names.Nodup := by
  have hNodup : d.entries.names.Nodup := by
    rw [names_entries]
    decide
  exact Entries.nodup_names_filter hNodup _

theorem nodup_names_kept (s : Settings) : s.kept.names.Nodup :=
  Entries.nodup_names_putAll (nodup_names_beside s.toDraft) s.custom

/-- A kept member is a language setting, or else a setting but the language settings. -/
theorem lookup?_kept (hNodup : s.custom.names.Nodup) (key : Text) :
    s.kept.lookup? key = (s.custom.lookup? key).or
      (if key = Setting.custom.label then none else (Setting.ofLabel? key).map s.toDraft) := by
  have hBeside : (s.toDraft.entries.without Setting.custom.label).lookup? key =
      if key = Setting.custom.label then none else (Setting.ofLabel? key).map s.toDraft := by
    rw [Entries.without,
      Entries.lookup?_filter s.toDraft.entries (fun name => decide (name ≠ Setting.custom.label)),
      lookup?_entries]
    by_cases h : key = Setting.custom.label <;> simp [h]
  rw [kept, Entries.lookup?_putAll, Entries.last?_eq_lookup?_of_nodup hNodup, hBeside]

theorem isEncodable_label (setting : Setting) : Utf8.IsEncodable setting.label := by
  cases setting <;> exact Utf8.isEncodable_text _

/-- What portable settings keep is portable. -/
theorem isPortable_kept (h : ∀ setting, IsPortable (s.toDraft setting)) :
    IsPortable (.object s.kept) := by
  have hBeside : IsPortable (.object (s.toDraft.entries.without Setting.custom.label)) := by
    refine isPortable_object_iff.mpr ⟨nodup_names_beside s.toDraft, ?_⟩
    intro name value hMember
    obtain ⟨setting, -, hSetting⟩ := List.mem_map.mp (List.mem_of_mem_filter hMember)
    cases hSetting
    exact ⟨isEncodable_label setting, h setting⟩
  have hCustom : IsPortable (.object s.custom) := h .custom
  exact isPortable_putAll hBeside (isPortable_object_iff.mp hCustom).2

end

/-! ### Reloading -/

section

variable {depth : Option Nat} {language : Text} {s t : Settings} {merged : Entries Value}

theorem ofLabel?_of_mem_defaultMembers {key : Text} (h : key ∈ (defaultMembers language).names) :
    Setting.ofLabel? key = none := by
  have hAll : ∀ name ∈ (defaultMembers language).names, Setting.ofLabel? name = none := by
    rw [defaultMembers, defaultsOf]
    split <;> decide
  exact hAll key h

/-- Settings that are loaded hold the language settings that their language comes with. -/
theorem mem_names_custom_of_load {machine : Machine} {overrides : Value} {file : Option Text}
    (hLoad : load machine language overrides file = .ok s) {key : Text}
    (hKey : key ∈ (defaultMembers language).names) : key ∈ s.custom.names := by
  obtain ⟨fromFile, given, merged, -, -, hMerge, hSettings⟩ := load_eq_ok_iff.mp hLoad
  obtain ⟨members, hMembers, hCustom⟩ := custom_of_ofMerged hSettings
  obtain ⟨old, hOld, rfl⟩ := members_of_merge hMerge hMembers
  rw [hCustom, Entries.mem_names_putAll_iff, Entries.mem_names_putAll_iff,
    hOld.unique (holds_defaultsOf language)]
  exact .inr (.inr hKey)

/-- No language setting has the name of a setting. -/
def IsApart (s : Settings) : Prop := ∀ key ∈ s.custom.names, Setting.ofLabel? key = none

theorem IsApart.lookup?_eq_none (hApart : s.IsApart) {key : Text} {setting : Setting}
    (hLabel : Setting.ofLabel? key = some setting) : s.custom.lookup? key = none := by
  rw [Entries.lookup?_eq_none_iff]
  intro hMem
  rw [hApart key hMem] at hLabel
  cases hLabel

theorem label_injective : Function.Injective Setting.label := by
  intro setting other h
  have hSetting := ofLabel?_label setting
  rw [h, ofLabel?_label, Option.some.injEq] at hSetting
  exact hSetting.symm

section

variable (hNodup : s.custom.names.Nodup) (hApart : s.IsApart)

include hNodup hApart

theorem lookup?_kept_label (setting : Setting) :
    s.kept.lookup? setting.label =
      if setting = .custom then none else some (s.toDraft setting) := by
  have hNone := hApart.lookup?_eq_none (ofLabel?_label setting)
  rw [lookup?_kept hNodup, hNone, Option.none_or, ofLabel?_label, Option.map_some]
  by_cases h : setting = .custom
  · rw [h, if_pos rfl, if_pos rfl]
  · rw [if_neg h, if_neg fun hLabel => h (label_injective hLabel)]

theorem lookup?_putAll_kept_label (setting : Setting) :
    ((defaultsOf language).putAll s.kept).lookup? setting.label =
      if setting = .custom then (defaultsOf language).lookup? Setting.custom.label
      else some (s.toDraft setting) := by
  rw [Entries.lookup?_putAll, Entries.last?_eq_lookup?_of_nodup (nodup_names_kept s),
    lookup?_kept_label hNodup hApart]
  by_cases h : setting = .custom
  · rw [h, if_pos rfl, if_pos rfl, Option.none_or]
  · rw [if_neg h, if_neg h, Option.some_or]

theorem holds_putAll_kept :
    Holds ((defaultsOf language).putAll s.kept) (defaultMembers language) := by
  rw [Holds, lookup?_putAll_kept_label hNodup hApart .custom, if_pos rfl]
  exact holds_defaultsOf language

/-- The settings that come back. -/
theorem exists_ofMerged_kept :
    ∃ t, ofMerged depth ((defaultsOf language).putAll s.kept) = .ok t := by
  refine ⟨_, ofMerged_eq_ok_iff.mpr ⟨?_, rfl⟩⟩
  intro setting value hValue
  rw [lookup?_putAll_kept_label hNodup hApart] at hValue
  by_cases h : setting = .custom
  · rw [h, if_pos rfl] at hValue
    have hObject := holds_defaultsOf language
    rw [Holds, hValue, Option.getD_some] at hObject
    rw [h, hObject]
    rfl
  · rw [if_neg h, Option.some.injEq] at hValue
    rw [← hValue]
    exact accepts_toDraft s setting

/-- Language settings without names of settings come back over the defaults. -/
theorem lookup?_custom_of_kept
    (hDefaults : ∀ key ∈ (defaultMembers language).names, key ∈ s.custom.names)
    (hSettings : ofMerged depth ((defaultsOf language).putAll s.kept) = .ok t) (key : Text) :
    t.custom.lookup? key = s.custom.lookup? key := by
  have hDistinct : ((defaultsOf language).putAll s.kept).names.Nodup :=
    Entries.nodup_names_putAll (nodup_names_defaultsOf language) s.kept
  have hHolds : Holds ((defaultsOf language).putAll s.kept) (defaultMembers language) :=
    holds_putAll_kept hNodup hApart
  rw [lookup?_custom_of_ofMerged hDistinct hSettings hHolds]
  have hDefault : s.custom.lookup? key = none → (defaultMembers language).lookup? key = none := by
    intro hNone
    rw [Entries.lookup?_eq_none_iff] at hNone ⊢
    exact fun hMem => hNone (hDefaults key hMem)
  cases hLabel : Setting.ofLabel? key with
  | some setting =>
      have hNone := hApart.lookup?_eq_none hLabel
      rw [hNone]
      exact hDefault hNone
  | none =>
      have hTop : ((defaultsOf language).putAll s.kept).lookup? key = s.custom.lookup? key := by
        rw [Entries.lookup?_putAll, Entries.last?_eq_lookup?_of_nodup (nodup_names_kept s),
          lookup?_kept hNodup, hLabel, lookup?_defaultsOf_of_ofLabel? hLabel, Option.or_none]
        simp
      rw [hTop]
      cases hValue : s.custom.lookup? key with
      | none => exact hDefault hValue
      | some value => rfl

/-- All settings come back, if no language setting has the name of a setting. -/
theorem same_of_kept
    (hDefaults : ∀ key ∈ (defaultMembers language).names, key ∈ s.custom.names)
    (hSettings : ofMerged depth ((defaultsOf language).putAll s.kept) = .ok t) : t.Same s := by
  intro setting
  by_cases h : setting = .custom
  · subst h
    exact Value.Same.of_lookup? (lookup?_custom_of_kept hNodup hApart hDefaults hSettings)
  · rw [toDraft_of_ofMerged hSettings h, Draft.ofEntries,
      lookup?_putAll_kept_label hNodup hApart, if_neg h]
    exact Value.Same.refl _

end

/-- A language setting with the name of a setting comes back only out of an object of language
settings. -/
theorem lookup?_custom_of_ofLabel? (hMerge : merge (defaultsOf language) s.kept = .ok merged)
    (hSettings : ofMerged depth merged = .ok t) {key : Text} (hKey : Setting.ofLabel? key ≠ none) :
    t.custom.lookup? key = Entries.last? (nested s.kept) key := by
  have hDistinct := nodup_names_merge (nodup_names_defaultsOf language) hMerge
  obtain ⟨members, hMembers, -⟩ := custom_of_ofMerged hSettings
  obtain ⟨old, hOld, hAll⟩ := members_of_merge hMerge hMembers
  have hDefault : (defaultMembers language).lookup? key = none := by
    rw [Entries.lookup?_eq_none_iff]
    exact fun hMem => hKey (ofLabel?_of_mem_defaultMembers hMem)
  have hSome : ¬ (Setting.ofLabel? key).isNone = true := by simpa using hKey
  rw [lookup?_custom_of_ofMerged hDistinct hSettings hMembers, if_neg hSome, hAll,
    Entries.lookup?_putAll, hOld.unique (holds_defaultsOf language), hDefault, Option.or_none]

/-- The object of language settings does not come back as one of them: it would be a member of
itself. -/
theorem custom_notMem_of_same (hPortable : IsPortable (.object s.custom))
    (hMerge : merge (defaultsOf language) s.kept = .ok merged)
    (hSettings : ofMerged depth merged = .ok t)
    (hSame : ∀ key, Option.Rel Value.Same (t.custom.lookup? key) (s.custom.lookup? key)) :
    Setting.custom.label ∉ s.custom.names := by
  intro hMem
  have hNodup : s.custom.names.Nodup := (isPortable_object_iff.mp hPortable).1
  obtain ⟨value, hValue⟩ := Entries.exists_lookup? hMem
  have hKept : s.kept.lookup? Setting.custom.label = some value := by
    rw [lookup?_kept hNodup, hValue]
    rfl
  obtain ⟨members, hMembers, -⟩ := custom_of_ofMerged hSettings
  obtain ⟨inner, rfl⟩ := exists_object_of_merge hMerge hMembers (Entries.mem_of_lookup? hKept)
  have hInner : (Entries.names inner).Nodup :=
    (isPortable_object_iff.mp (isPortable_of_lookup? hPortable hValue)).1
  have hLabel : Setting.ofLabel? Setting.custom.label ≠ none := by simp [ofLabel?_label]
  have hBack := hSame Setting.custom.label
  rw [lookup?_custom_of_ofLabel? hMerge hSettings hLabel,
    nested_of_lookup? (nodup_names_kept s) hKept, Entries.last?_eq_lookup?_of_nodup hInner,
    hValue] at hBack
  cases hFound : Entries.lookup? inner Setting.custom.label with
  | none =>
      rw [hFound] at hBack
      cases hBack
  | some found =>
      rw [hFound] at hBack
      cases hBack with
      | some hBack => exact not_same_of_lookup? hFound hBack

/-- Language settings that come back do not have names of settings. -/
theorem isApart_of_same (hPortable : IsPortable (.object s.custom))
    (hMerge : merge (defaultsOf language) s.kept = .ok merged)
    (hSettings : ofMerged depth merged = .ok t)
    (hSame : t.Same s) : s.IsApart := by
  have hCustom : ∀ key, Option.Rel Value.Same (t.custom.lookup? key) (s.custom.lookup? key) := by
    have hObject : Value.Same (.object t.custom) (.object s.custom) := hSame .custom
    cases hObject with
    | object hMembers => exact hMembers
  have hNodup : s.custom.names.Nodup := (isPortable_object_iff.mp hPortable).1
  have hNoCustom : Setting.custom.label ∉ s.kept.names := by
    have hNone := custom_notMem_of_same hPortable hMerge hSettings hCustom
    rw [← Entries.lookup?_eq_none_iff] at hNone ⊢
    rw [lookup?_kept hNodup, hNone, if_pos rfl]
    rfl
  intro key hKey
  by_contra hLabel
  obtain ⟨value, hValue⟩ := Entries.exists_lookup? hKey
  have hBack := hCustom key
  rw [lookup?_custom_of_ofLabel? hMerge hSettings hLabel, nested_of_notMem hNoCustom,
    hValue] at hBack
  cases hBack

/-- The settings that are kept come back exactly if no language setting has the name of a
setting. -/
theorem exists_same_iff (hPortable : IsPortable (.object s.custom))
    (hDefaults : ∀ key ∈ (defaultMembers language).names, key ∈ s.custom.names) :
    (∃ merged t, merge (defaultsOf language) s.kept = .ok merged ∧ ofMerged depth merged = .ok t ∧
      t.Same s) ↔ s.IsApart := by
  constructor
  · rintro ⟨merged, t, hMerge, hSettings, hSame⟩
    exact isApart_of_same hPortable hMerge hSettings hSame
  · intro hApart
    have hNodup : s.custom.names.Nodup := (isPortable_object_iff.mp hPortable).1
    have hNoCustom : Setting.custom.label ∉ s.kept.names := by
      rw [← Entries.lookup?_eq_none_iff, lookup?_kept_label hNodup hApart .custom, if_pos rfl]
    obtain ⟨t, hSettings⟩ : ∃ t, ofMerged depth ((defaultsOf language).putAll s.kept) = .ok t :=
      exists_ofMerged_kept hNodup hApart
    exact ⟨_, t, merge_of_notMem hNoCustom, hSettings,
      same_of_kept hNodup hApart hDefaults hSettings⟩

end

/-! ### Files -/

/-- A settings file of that name can be written. -/
structure IsWritable (files : FileTree) (name : Text) : Prop where
  extension : (Path.parse name).extension.lower = text ".json"
  nameable : nameFault? (Path.parse name).toText = none
  opens : ∃ opened, files.write (Path.parse name) [] = .ok opened

theorem encodePieces_of_isEncodable {pieces : List Text}
    (h : ∀ piece ∈ pieces, Utf8.IsEncodable piece) :
    ∃ bytes, encodePieces pieces = (bytes, none) ∧ Utf8.decode bytes = .ok pieces.flatten := by
  have hAll : Utf8.IsEncodable pieces.flatten := by
    intro p hp
    obtain ⟨piece, hPiece, hp⟩ := List.mem_flatten.mp hp
    exact h piece hPiece p hp
  refine ⟨_, ?_, Utf8.decodeFrom_flatMap hAll 0⟩
  clear hAll
  induction pieces with
  | nil => rfl
  | cons piece rest ih =>
      have hPiece := Utf8.encode_of_isEncodable (h piece List.mem_cons_self)
      have hRest := ih fun other hOther => h other (List.mem_cons_of_mem _ hOther)
      rw [encodePieces, hPiece]
      simp only [hRest, List.flatten_cons, List.flatMap_append]

/-- Portable settings are saved, and the file gives what is kept of them, if the document is read as
it was written. -/
theorem exists_save {files : FileTree} {name : Text} {s : Settings} (hFile : IsWritable files name)
    (hPortable : ∀ setting, IsPortable (s.toDraft setting))
    (hRead : Json.read (Json.documentPieces (textKeyed s.kept)).flatten = .ok (.object s.kept)) :
    ∃ saved, save files s.toDraft name = (saved, .ok ()) ∧
      readFile saved (Path.parse name) = .ok s.kept := by
  obtain ⟨opened, hOpened⟩ := hFile.opens
  have hExtension := Path.extension_ne_nil hFile.extension
  have hPieces : Json.ArePlain (Json.documentPieces (textKeyed s.kept)) := by
    refine Json.arePlain_documentPieces fun key value hMember => ?_
    obtain ⟨⟨label, kept⟩, hKept, hSame⟩ := List.mem_map.mp hMember
    cases hSame
    exact (isPortable_object_iff.mp (isPortable_kept hPortable)).2 label value hKept
  obtain ⟨bytes, hBytes, hDecode⟩ :=
    encodePieces_of_isEncodable fun piece hPiece => (hPieces piece hPiece).isEncodable
  obtain ⟨written, hWritten, hReadBack⟩ := FileTree.exists_write_read hExtension hOpened bytes
  have hLines := Text.unifyNewlines_of_isPlain (Text.isPlain_flatten hPieces)
  refine ⟨written, ?_, ?_⟩
  · have hMembers : additionsOf (s.toDraft .custom) = .ok (textKeyed s.custom) := rfl
    rw [save, hMembers]
    simp only [hFile.nameable, savedMembers_eq, writeFile, hOpened, hBytes, hWritten]
  · exact readFile_of_read hFile.extension hReadBack hDecode (hLines.symm ▸ hRead)

theorem load_of_readFile {machine : Machine} {language name : Text} {kept : Entries Value}
    (hName : (Path.parse name).extension ≠ [])
    (h : readFile machine (Path.parse name) = .ok kept) {t : Settings} :
    load machine language .null (some name) = .ok t ↔
      ∃ merged, merge (defaultsOf language) kept = .ok merged ∧
        ofMerged machine.depth merged = .ok t := by
  have hEntries : fileEntries machine (some name) = .ok kept := by
    cases name with
    | nil => exact absurd rfl hName
    | cons p rest => exact h
  have hNone : overridesOf .null = .ok [] := rfl
  rw [load_eq_ok_iff, hEntries, hNone]
  simp

/-- Overrides that give a setting and a language setting. -/
def plainOverrides : Value :=
  .object [(text "indent_size", .int 2), (text "k", .list [.null, .int 1])]

theorem isPortable_plainOverrides : plainOverrides.IsPortable := by
  refine isPortable_object_iff.mpr ⟨by decide, fun name value hMember => ?_⟩
  simp only [List.mem_cons, Prod.mk.injEq, List.not_mem_nil, or_false] at hMember
  rcases hMember with ⟨rfl, rfl⟩ | ⟨rfl, rfl⟩
  · exact ⟨Utf8.isEncodable_text _, .int (by decide)⟩
  · refine ⟨Utf8.isEncodable_text _, .list fun item hItem => ?_⟩
    simp only [List.mem_cons, List.not_mem_nil, or_false] at hItem
    rcases hItem with rfl | rfl
    · exact .null
    · exact .int (by decide)

theorem isWritable_empty : IsWritable {} (text "c.json") where
  extension := by decide +kernel
  nameable := by decide +kernel
  opens := ⟨_, rfl⟩

end EntityForge.Settings
