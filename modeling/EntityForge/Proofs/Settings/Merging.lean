import EntityForge.Proofs.Settings.Loading

/-! # What merged settings hold

Given settings are merged one after the other.  Most of them replace what is there
(`lookup?_merge`), and without language settings among them that is all (`merge_of_notMem`); an
object of language settings is merged with the object that is there, member by member
(`members_of_merge`).  In the end every name that is no setting becomes a language setting,
over the ones in the object (`custom_of_ofMerged`).

A file and overrides are merged in turn, which is the same as merging one list of both
(`load_eq_ok_iff`).  So a language setting that is given at the top level, in the file or in the
overrides, is found before one that is given inside an object (`lookup?_custom_of_load`).
-/

namespace EntityForge.Settings

/-- These are the language settings among settings; there are none if nothing is said of them. -/
def Holds (settings members : Entries Value) : Prop :=
  (settings.lookup? Setting.custom.label).getD (.object []) = .object members

theorem Holds.unique {settings members others : Entries Value} (h : Holds settings members)
    (hOthers : Holds settings others) : members = others := by
  rw [Holds] at h hOthers
  rw [h] at hOthers
  cases hOthers
  rfl

/-- The members of all objects of language settings that are given, one object after the other. -/
def nested (given : Entries Value) : Entries Value :=
  given.flatMap fun entry =>
    if entry.1 = Setting.custom.label then entry.2.members?.getD [] else []

theorem nested_cons (name : Text) (value : Value) (rest : Entries Value) :
    nested ((name, value) :: rest) =
      (if name = Setting.custom.label then value.members?.getD [] else []) ++ nested rest := rfl

theorem nested_append (front back : Entries Value) :
    nested (front ++ back) = nested front ++ nested back :=
  List.flatMap_append

section

variable {settings given merged : Entries Value}

/-! ### One step -/

/-- What is merged replaces what is there under its name, unless an object of language settings
meets another one. -/
theorem mergeOne_cases {name : Text} {value : Value}
    (h : mergeOne settings name value = .ok merged) :
    (merged = settings.put name value ∧
      (name = Setting.custom.label → value.members? = none)) ∨
    ∃ old members, name = Setting.custom.label ∧ value = .object members ∧ Holds settings old ∧
      merged = settings.put name (.object (old.putAll members)) := by
  unfold mergeOne at h
  split at h
  · next hName =>
      split at h
      · next members =>
          split at h
          · next old hOld =>
              cases h
              subst hName
              exact .inr ⟨old, members, rfl, rfl, hOld, rfl⟩
          · cases h
      · next hOther =>
          cases h
          refine .inl ⟨rfl, fun _ => ?_⟩
          cases value with
          | object members => exact absurd rfl (hOther members)
          | _ => rfl
  · next hName =>
      cases h
      exact .inl ⟨rfl, fun hCustom => absurd hCustom hName⟩

theorem exists_of_merge_cons {name : Text} {value : Value} {rest : Entries Value}
    (h : merge settings ((name, value) :: rest) = .ok merged) :
    ∃ next, mergeOne settings name value = .ok next ∧ merge next rest = .ok merged := by
  rw [merge] at h
  cases hNext : mergeOne settings name value with
  | error cause =>
      rw [hNext] at h
      cases h
  | ok next =>
      rw [hNext] at h
      exact ⟨next, rfl, h⟩

/-- Each step writes one value under the name that is merged. -/
theorem exists_put_of_mergeOne {name : Text} {value : Value}
    (h : mergeOne settings name value = .ok merged) :
    ∃ written, merged = settings.put name written ∧
      (name ≠ Setting.custom.label → written = value) := by
  rcases mergeOne_cases h with ⟨hPut, -⟩ | ⟨old, members, hName, -, -, hPut⟩
  · exact ⟨value, hPut, fun _ => rfl⟩
  · exact ⟨_, hPut, fun hOther => absurd hName hOther⟩

/-! ### All steps -/

theorem merge_append (front back : Entries Value) :
    merge settings (front ++ back) = merge settings front >>= fun next => merge next back := by
  induction front generalizing settings with
  | nil => rfl
  | cons entry rest ih =>
      obtain ⟨name, value⟩ := entry
      rw [List.cons_append, merge, merge]
      cases mergeOne settings name value with
      | error cause => rfl
      | ok next => exact ih

theorem nodup_names_merge (hSettings : settings.names.Nodup)
    (h : merge settings given = .ok merged) : merged.names.Nodup := by
  induction given generalizing settings with
  | nil =>
      cases h
      exact hSettings
  | cons entry rest ih =>
      obtain ⟨next, hNext, hRest⟩ := exists_of_merge_cons h
      obtain ⟨written, rfl, -⟩ := exists_put_of_mergeOne hNext
      exact ih (Entries.nodup_names_put hSettings _ _) hRest

/-- Under every other name than that of the language settings the last value given is found. -/
theorem lookup?_merge {key : Text} (hKey : key ≠ Setting.custom.label)
    (h : merge settings given = .ok merged) :
    merged.lookup? key = (Entries.last? given key).or (settings.lookup? key) := by
  induction given generalizing settings with
  | nil =>
      cases h
      rfl
  | cons entry rest ih =>
      obtain ⟨name, value⟩ := entry
      obtain ⟨next, hNext, hRest⟩ := exists_of_merge_cons h
      obtain ⟨written, rfl, hWritten⟩ := exists_put_of_mergeOne hNext
      rw [ih hRest, Entries.last?_cons, Entries.lookup?_put, Option.or_assoc]
      by_cases hName : name = key
      · subst hName
        simp [hWritten hKey]
      · simp [hName]

/-- Language settings are an object after a merge only if they were one before, and then they are
the old ones with all that are given in objects. -/
theorem members_of_merge {members : Entries Value} (h : merge settings given = .ok merged)
    (hMembers : Holds merged members) :
    ∃ old, Holds settings old ∧ members = old.putAll (nested given) := by
  induction given generalizing settings with
  | nil =>
      cases h
      exact ⟨members, hMembers, rfl⟩
  | cons entry rest ih =>
      obtain ⟨name, value⟩ := entry
      obtain ⟨next, hNext, hRest⟩ := exists_of_merge_cons h
      obtain ⟨old, hOld, hAll⟩ := ih hRest
      rw [nested_cons, hAll]
      rw [Holds] at hOld
      rcases mergeOne_cases hNext with ⟨rfl, hValue⟩ | ⟨before, given, rfl, rfl, hBefore, rfl⟩
      · by_cases hName : name = Setting.custom.label
        · subst hName
          rw [Entries.lookup?_put_self, Option.getD_some] at hOld
          rw [hOld] at hValue
          exact absurd (hValue rfl) (by simp [Value.members?])
        · rw [Entries.lookup?_put_of_ne _ _ (Ne.symm hName)] at hOld
          rw [if_neg hName, List.nil_append]
          exact ⟨old, hOld, rfl⟩
      · rw [Entries.lookup?_put_self, Option.getD_some, Value.object.injEq] at hOld
        subst hOld
        rw [if_pos rfl]
        exact ⟨before, hBefore, (Entries.putAll_append before given _).symm⟩

/-- Without language settings everything that is given is written, one after the other. -/
theorem merge_of_notMem (h : Setting.custom.label ∉ given.names) :
    merge settings given = .ok (settings.putAll given) := by
  induction given generalizing settings with
  | nil => rfl
  | cons entry rest ih =>
      obtain ⟨name, value⟩ := entry
      obtain ⟨hName, hRest⟩ := List.ne_and_not_mem_of_not_mem_cons h
      have hOne : mergeOne settings name value = .ok (settings.put name value) :=
        mergeOne_of_ne (Ne.symm hName) value
      rw [merge, hOne]
      exact ih hRest

/-- If language settings are an object in the end, each that is given is one. -/
theorem exists_object_of_merge {members : Entries Value} (h : merge settings given = .ok merged)
    (hMembers : Holds merged members) {value : Value}
    (hValue : (Setting.custom.label, value) ∈ given) : ∃ inner, value = .object inner := by
  induction given generalizing settings with
  | nil => cases hValue
  | cons entry rest ih =>
      obtain ⟨name, first⟩ := entry
      obtain ⟨next, hNext, hRest⟩ := exists_of_merge_cons h
      rcases List.mem_cons.mp hValue with hHead | hTail
      · cases hHead
        rcases mergeOne_cases hNext with ⟨rfl, -⟩ | ⟨-, inner, -, rfl, -, -⟩
        · -- the value replaced what was there, and an object was found in its place
          obtain ⟨old, hOld, -⟩ := members_of_merge hRest hMembers
          rw [Holds, Entries.lookup?_put_self, Option.getD_some] at hOld
          exact ⟨old, hOld⟩
        · exact ⟨inner, rfl⟩
      · exact ih hRest hTail

theorem nested_of_notMem (h : Setting.custom.label ∉ given.names) : nested given = [] := by
  rw [nested, List.flatMap_eq_nil_iff]
  intro entry hEntry
  have hName : entry.1 ≠ Setting.custom.label := by
    intro hName
    exact h (hName ▸ List.mem_map.mpr ⟨entry, hEntry, rfl⟩)
  rw [if_neg hName]

/-- One object of language settings among entries with different names. -/
theorem nested_of_lookup? (hNodup : given.names.Nodup) {inner : Entries Value}
    (h : given.lookup? Setting.custom.label = some (.object inner)) : nested given = inner := by
  induction given with
  | nil => cases h
  | cons entry rest ih =>
      obtain ⟨name, value⟩ := entry
      obtain ⟨hNew, hRest⟩ := List.nodup_cons.mp hNodup
      rw [Entries.lookup?] at h
      rw [nested_cons]
      by_cases hName : name = Setting.custom.label
      · subst hName
        rw [if_pos rfl, Option.some.injEq] at h
        subst h
        rw [if_pos rfl, nested_of_notMem hNew, List.append_nil]
        rfl
      · rw [if_neg hName] at h
        rw [if_neg hName, List.nil_append]
        exact ih hRest h

/-! ### What becomes of merged settings -/

theorem kindProblems_eq_nil_iff (given : Entries Value) :
    kindProblems given = [] ↔
      ∀ (setting : Setting) (value : Value), given.lookup? setting.label = some value →
        setting.kind.accepts value = true := by
  rw [kindProblems, List.filterMap_eq_nil_iff]
  constructor
  · intro h setting value hValue
    have hSetting := h setting (Setting.mem_all setting)
    rw [hValue] at hSetting
    by_contra hKind
    simp [hKind] at hSetting
  · intro h setting _
    cases hValue : given.lookup? setting.label with
    | none => rfl
    | some value => simp [h setting value hValue]

theorem ofLabel?_label (setting : Setting) : Setting.ofLabel? setting.label = some setting := by
  cases setting <;> decide

theorem lookup?_settingsAmong (given : Entries Value) (setting : Setting) :
    (settingsAmong given).lookup? setting.label = given.lookup? setting.label := by
  rw [settingsAmong, Entries.lookup?_filter given (fun name => (Setting.ofLabel? name).isSome),
    ofLabel?_label]
  rfl

theorem lookup?_othersAmong (given : Entries Value) (key : Text) :
    (othersAmong given).lookup? key =
      if (Setting.ofLabel? key).isNone then given.lookup? key else none :=
  Entries.lookup?_filter given (fun name => (Setting.ofLabel? name).isNone) key

/-- Merged settings become settings exactly if each is of its kind. -/
theorem ofMerged_eq_ok_iff {depth : Option Nat} {s : Settings} :
    ofMerged depth merged = .ok s ↔
      (∀ (setting : Setting) (value : Value), merged.lookup? setting.label = some value →
        setting.kind.accepts value = true) ∧
      s = { (Draft.ofEntries merged).coerce with
        custom := Entries.putAll (Draft.ofEntries merged).coerce.custom (othersAmong merged) } := by
  have hDraft : Draft.ofEntries (settingsAmong merged) = Draft.ofEntries merged := by
    funext setting
    rw [Draft.ofEntries, Draft.ofEntries, lookup?_settingsAmong]
  have hKinds := kindProblems_eq_nil_iff (settingsAmong merged)
  simp only [lookup?_settingsAmong] at hKinds
  rw [← hKinds, ofMerged]
  split
  · next hNone =>
      rw [hNone, hDraft, Except.ok.injEq]
      simp only [true_and]
      exact eq_comm
  · next hSome =>
      simp only [reduceCtorEq, false_iff, not_and]
      intro hNil
      exact absurd hNil hSome

theorem custom_coerce {members : Entries Value} (h : Holds merged members) :
    (Draft.ofEntries merged).coerce.custom = members := by
  have hCustom : Draft.ofEntries merged .custom = .object members := h
  rw [Draft.coerce, hCustom]
  rfl

/-- The language settings in the end: those in the object, and over them what is no setting. -/
theorem custom_of_ofMerged {depth : Option Nat} {s : Settings}
    (h : ofMerged depth merged = .ok s) :
    ∃ members, Holds merged members ∧ s.custom = members.putAll (othersAmong merged) := by
  obtain ⟨hKinds, rfl⟩ := ofMerged_eq_ok_iff.mp h
  have hHolds : ∃ members, Holds merged members := by
    cases hCustom : merged.lookup? Setting.custom.label with
    | none => exact ⟨[], by rw [Holds, hCustom]; rfl⟩
    | some value =>
        have hKind := hKinds .custom value hCustom
        cases value with
        | object members => exact ⟨members, by rw [Holds, hCustom]; rfl⟩
        | _ => cases hKind
  obtain ⟨members, hMembers⟩ := hHolds
  refine ⟨members, hMembers, ?_⟩
  dsimp only
  rw [custom_coerce hMembers]

/-- What is no setting is found at the top level first; a name of a setting is a language setting
only inside the object. -/
theorem lookup?_custom_of_ofMerged {depth : Option Nat} {s : Settings} {members : Entries Value}
    (hNodup : merged.names.Nodup) (h : ofMerged depth merged = .ok s)
    (hMembers : Holds merged members) (key : Text) :
    s.custom.lookup? key =
      if (Setting.ofLabel? key).isNone then (merged.lookup? key).or (members.lookup? key)
      else members.lookup? key := by
  obtain ⟨others, hOthers, hCustom⟩ := custom_of_ofMerged h
  have hDistinct : (othersAmong merged).names.Nodup := Entries.nodup_names_filter hNodup _
  rw [hCustom, hOthers.unique hMembers, Entries.lookup?_putAll,
    Entries.last?_eq_lookup?_of_nodup hDistinct, lookup?_othersAmong]
  by_cases hKey : (Setting.ofLabel? key).isNone = true
  · rw [if_pos hKey, if_pos hKey]
  · rw [if_neg hKey, if_neg hKey, Option.none_or]

end

/-! ### Loading -/

section

variable {machine : Machine} {language : Text} {overrides : Value} {file : Option Text}
  {s : Settings}

/-- The overrides are the members of an object, or none. -/
theorem overridesOf_cases {given : Entries Value} (h : overridesOf overrides = .ok given) :
    overrides = .object given ∨ given = [] := by
  unfold overridesOf at h
  split at h
  · cases h
    exact .inl rfl
  · split at h
    · cases h
    · cases h
      exact .inr rfl

/-- Settings are loaded from the defaults, the file and the overrides, merged in this order. -/
theorem load_eq_ok_iff :
    load machine language overrides file = .ok s ↔
      ∃ fromFile given merged, fileEntries machine file = .ok fromFile ∧
        overridesOf overrides = .ok given ∧
        merge (defaultsOf language) (fromFile ++ given) = .ok merged ∧
        ofMerged machine.depth merged = .ok s := by
  simp only [load_eq, bind_eq_ok_iff, mapError_eq_ok_iff, mergeStep_eq_ok_iff, merge_append]
  constructor
  · rintro ⟨fromFile, hFile, first, hFirst, given, hGiven, merged, hMerge, hSettings⟩
    exact ⟨fromFile, given, merged, hFile, hGiven, ⟨first, hFirst, hMerge⟩, hSettings⟩
  · rintro ⟨fromFile, given, merged, hFile, hGiven, ⟨first, hFirst, hMerge⟩, hSettings⟩
    exact ⟨fromFile, hFile, first, hFirst, given, hGiven, merged, hMerge, hSettings⟩

/-- The language settings that a language comes with. -/
def defaultMembers (language : Text) : Entries Value :=
  ((defaultsOf language).lookup? Setting.custom.label).bind Value.members? |>.getD []

theorem holds_defaultsOf (language : Text) :
    Holds (defaultsOf language) (defaultMembers language) := by
  rw [Holds, defaultMembers, defaultsOf]
  split <;> rfl

theorem nodup_names_defaultsOf (language : Text) : (defaultsOf language).names.Nodup := by
  rw [defaultsOf]
  split <;> decide

/-- The defaults of a language have only names of settings. -/
theorem lookup?_defaultsOf_of_ofLabel? {key : Text} (hKey : Setting.ofLabel? key = none) :
    (defaultsOf language).lookup? key = none := by
  rw [Entries.lookup?_eq_none_iff]
  intro hMem
  have hAll : ∀ name ∈ (defaultsOf language).names, (Setting.ofLabel? name).isSome = true := by
    rw [defaultsOf]
    split <;> decide
  have hSome := hAll key hMem
  rw [hKey] at hSome
  cases hSome

/-- Where a language setting is found: at the top level of the overrides or else of the file, then
in their objects of language settings, then among the defaults. -/
theorem lookup?_custom_of_load {fromFile given : Entries Value} {key : Text}
    (hKey : Setting.ofLabel? key = none) (hFile : fileEntries machine file = .ok fromFile)
    (hLoad : load machine language (.object given) file = .ok s) :
    s.custom.lookup? key =
      (Entries.last? (fromFile ++ given) key).or
        ((Entries.last? (nested (fromFile ++ given)) key).or
          ((defaultMembers language).lookup? key)) := by
  obtain ⟨fromFile', given', merged, hFile', hGiven, hMerge, hSettings⟩ := load_eq_ok_iff.mp hLoad
  rw [hFile] at hFile'
  cases hFile'
  cases hGiven
  obtain ⟨members, hMembers, -⟩ := custom_of_ofMerged hSettings
  obtain ⟨old, hOld, hAll⟩ := members_of_merge hMerge hMembers
  have hDefault : old = defaultMembers language := hOld.unique (holds_defaultsOf language)
  have hNodup : merged.names.Nodup := nodup_names_merge (nodup_names_defaultsOf language) hMerge
  have hNotCustom : key ≠ Setting.custom.label := by
    rintro rfl
    rw [ofLabel?_label] at hKey
    cases hKey
  have hNone : (Setting.ofLabel? key).isNone = true := by rw [hKey]; rfl
  rw [lookup?_custom_of_ofMerged hNodup hSettings hMembers, if_pos hNone,
    lookup?_merge hNotCustom hMerge, lookup?_defaultsOf_of_ofLabel? hKey, Option.or_none, hAll,
    Entries.lookup?_putAll, hDefault]

end

end EntityForge.Settings
