import EntityForge.Proofs.CSharp.Usable
import EntityForge.Proofs.Settings.Clashes
import EntityForge.Proofs.Settings.Saving

/-! # Settings in layers

The overrides lie over the file, the file over the defaults of the language, and these over the
general defaults: a setting has the value of the newest layer that gives one (`newest`).  Merging
keeps these values for all settings but the language settings, and of those it keeps what does not
fit (`misfits_ofEntries_merged`).  So the newest values decide whether settings are loaded, and with
what they are refused (`load_of_layers`).
-/

namespace EntityForge.Settings

/-- The value of a setting in the newest layer that gives one. -/
def newest (language : Text) (fromFile given : Entries Value) : Draft := fun setting =>
  ((given.lookup? setting.label).or
    ((fromFile.lookup? setting.label).or ((defaultsOf language).lookup? setting.label))).getD
      (({} : Settings).toDraft setting)

/-- The values of a draft that are of the wrong kind, in the order in which settings are
declared. -/
def misfits (d : Draft) : List KindProblem :=
  Setting.all.filterMap fun setting =>
    if setting.kind.accepts (d setting) then none else some ⟨setting, d setting⟩

/-! ### Values that fit -/

/-- The defaults fit. -/
theorem accepts_default (language : Text) (setting : Setting) :
    setting.kind.accepts (((defaultsOf language).lookup? setting.label).getD
      (({} : Settings).toDraft setting)) = true := by
  rw [defaultsOf]
  split <;> cases setting <;> decide

theorem accepts_bool_iff (setting : Setting) (b : Bool) :
    setting.kind.accepts (.bool b) = true ↔ setting.kind = .boolean := by
  cases setting <;> simp [Setting.kind, Setting.Kind.accepts]

theorem misfits_eq_nil_iff (d : Draft) :
    misfits d = [] ↔ ∀ setting : Setting, setting.kind.accepts (d setting) = true := by
  rw [misfits, List.filterMap_eq_nil_iff]
  constructor
  · intro h setting
    simpa using h setting (Setting.mem_all setting)
  · intro h setting _
    simp [h setting]

/-- Values that fit can be exchanged. -/
theorem misfits_congr {d other : Draft}
    (h : ∀ setting : Setting, d setting = other setting ∨
      setting.kind.accepts (d setting) = true ∧ setting.kind.accepts (other setting) = true) :
    misfits d = misfits other := by
  refine List.filterMap_congr fun setting _ => ?_
  rcases h setting with hSame | ⟨hFits, hOther⟩
  · rw [hSame]
  · rw [if_pos hFits, if_pos hOther]

/-- Values are refused as those of the draft that they make. -/
theorem kindProblems_eq_misfits (merged : Entries Value) :
    kindProblems (settingsAmong merged) = misfits (Draft.ofEntries merged) := by
  refine List.filterMap_congr fun setting _ => ?_
  rw [lookup?_settingsAmong, Draft.ofEntries]
  cases hValue : merged.lookup? setting.label with
  | none => simp [accepts_toDraft]
  | some value => rfl

/-! ### What merging keeps -/

section

variable {machine : Machine} {language : Text} {overrides : Value} {file : Option Text}
  {fromFile given first merged : Entries Value} {s : Settings}

theorem ofEntries_merged (hFile : fromFile.names.Nodup) (hGiven : given.names.Nodup)
    (hFirst : merge (defaultsOf language) fromFile = .ok first)
    (hMerge : merge first given = .ok merged) {setting : Setting} (hSetting : setting ≠ .custom) :
    Draft.ofEntries merged setting = newest language fromFile given setting := by
  have hLabel : setting.label ≠ Setting.custom.label := fun h => hSetting (label_injective h)
  rw [Draft.ofEntries, newest, lookup?_merge hLabel hMerge, lookup?_merge hLabel hFirst,
    Entries.last?_eq_lookup?_of_nodup hGiven, Entries.last?_eq_lookup?_of_nodup hFile]

/-- The language settings that are merged are the newest ones, or both are an object. -/
theorem ofEntries_merged_custom (hFile : fromFile.names.Nodup) (hGiven : given.names.Nodup)
    (hFirst : merge (defaultsOf language) fromFile = .ok first)
    (hMerge : merge first given = .ok merged) :
    Draft.ofEntries merged .custom = newest language fromFile given .custom ∨
      (∃ members, Draft.ofEntries merged .custom = .object members) ∧
        ∃ members, newest language fromFile given .custom = .object members := by
  have hDefault := lookup?_custom_defaultsOf language
  rw [Draft.ofEntries, newest]
  rcases lookup?_custom_of_merge hGiven hMerge with ⟨hNone, hKept⟩ | ⟨value, hValue, -, hThere⟩ |
    ⟨members, all, hMembers, hThere⟩
  · rw [hNone, hKept, Option.none_or]
    rcases lookup?_custom_of_merge hFile hFirst with ⟨hNone, hKept⟩ | ⟨value, hValue, -, hThere⟩ |
      ⟨members, all, hMembers, hThere⟩
    · rw [hNone, hKept, Option.none_or]
      exact .inl rfl
    · rw [hValue, hThere]
      exact .inl rfl
    · rw [hMembers, hThere]
      exact .inr ⟨⟨all, rfl⟩, ⟨members, rfl⟩⟩
  · rw [hValue, hThere]
    exact .inl rfl
  · rw [hMembers, hThere]
    exact .inr ⟨⟨all, rfl⟩, ⟨members, rfl⟩⟩

/-- What is merged does not fit exactly where the newest values do not. -/
theorem misfits_ofEntries_merged (hFile : fromFile.names.Nodup) (hGiven : given.names.Nodup)
    (hFirst : merge (defaultsOf language) fromFile = .ok first)
    (hMerge : merge first given = .ok merged) :
    misfits (Draft.ofEntries merged) = misfits (newest language fromFile given) := by
  refine misfits_congr fun setting => ?_
  by_cases hSetting : setting = .custom
  · subst hSetting
    rcases ofEntries_merged_custom hFile hGiven hFirst hMerge with hSame |
      ⟨⟨members, hMembers⟩, ⟨others, hOthers⟩⟩
    · exact .inl hSame
    · rw [hMembers, hOthers]
      exact .inr ⟨rfl, rfl⟩
  · exact .inl (ofEntries_merged hFile hGiven hFirst hMerge hSetting)

/-! ### Loading -/

/-- Where nothing clashes, loading makes settings of all layers merged. -/
theorem exists_load_eq_ofMerged (language : Text) (hFile : fileEntries machine file = .ok fromFile)
    (hGiven : overridesOf overrides = .ok given) (hNodup : given.names.Nodup)
    (hApart : ∀ found, ¬ Clashes fromFile given found) :
    ∃ first merged, merge (defaultsOf language) fromFile = .ok first ∧
      merge first given = .ok merged ∧
      load machine language overrides file = ofMerged machine.depth merged := by
  have hDistinct := nodup_names_of_fileEntries hFile
  obtain ⟨first, hFirst⟩ := exists_merge_defaultsOf language hDistinct
  cases hMerge : merge first given with
  | error cause =>
      obtain ⟨found, hClash, -⟩ := (merge_eq_error_iff hNodup).mp hMerge
      exact absurd ((clashes_iff hDistinct hFirst).mp hClash) (hApart found)
  | ok merged =>
      refine ⟨first, merged, hFirst, hMerge, ?_⟩
      rw [load_eq, hFile, hGiven]
      change (do
        let first ← mergeStep (defaultsOf language) fromFile
        let merged ← mergeStep first given
        ofMerged machine.depth merged) = _
      rw [mergeStep_eq_ok_iff.mpr hFirst]
      change (mergeStep first given >>= ofMerged machine.depth) = _
      rw [mergeStep_eq_ok_iff.mpr hMerge]
      rfl

/-- Where nothing clashes, the newest values are what loading checks, and what it gives. -/
theorem exists_load_eq_newest (language : Text) (hFile : fileEntries machine file = .ok fromFile)
    (hGiven : overridesOf overrides = .ok given) (hNodup : given.names.Nodup)
    (hApart : ∀ found, ¬ Clashes fromFile given found) :
    ∃ merged, load machine language overrides file = ofMerged machine.depth merged ∧
      kindProblems (settingsAmong merged) = misfits (newest language fromFile given) ∧
      ∀ setting, setting ≠ .custom →
        Draft.ofEntries merged setting = newest language fromFile given setting := by
  obtain ⟨first, merged, hFirst, hMerge, hLoad⟩ :=
    exists_load_eq_ofMerged language hFile hGiven hNodup hApart
  have hDistinct := nodup_names_of_fileEntries hFile
  refine ⟨merged, hLoad, ?_, fun setting hSetting =>
    ofEntries_merged hDistinct hNodup hFirst hMerge hSetting⟩
  rw [kindProblems_eq_misfits, misfits_ofEntries_merged hDistinct hNodup hFirst hMerge]

/-- Merged settings are refused for all their problems with kinds. -/
theorem ofMerged_of_kindProblems {depth : Option Nat} {problems : List KindProblem}
    (h : kindProblems (settingsAmong merged) = problems) (hne : problems ≠ []) :
    ofMerged depth merged = .error (refused depth (problems.map .kind) (.wrongKinds problems)) := by
  rw [ofMerged, h]
  obtain ⟨problem, rest, rfl⟩ := List.exists_cons_of_ne_nil hne
  rfl

theorem exists_ofMerged_iff {depth : Option Nat} :
    (∃ s, ofMerged depth merged = .ok s) ↔ kindProblems (settingsAmong merged) = [] := by
  constructor
  · rintro ⟨s, hSettings⟩
    by_contra hSome
    rw [ofMerged_of_kindProblems rfl hSome] at hSettings
    cases hSettings
  · intro hNil
    rw [ofMerged, hNil]
    exact ⟨_, rfl⟩

/-- Values that do not fit are given by the file or the overrides. -/
theorem exists_given_of_misfit {problem : KindProblem}
    (h : problem ∈ misfits (newest language fromFile given)) :
    ∃ name, (name, problem.found) ∈ fromFile ++ given := by
  rw [misfits, List.mem_filterMap] at h
  obtain ⟨setting, -, hProblem⟩ := h
  split at hProblem
  · cases hProblem
  · next hMisfit =>
      obtain rfl := Option.some.inj hProblem
      dsimp only
      rw [newest] at hMisfit ⊢
      cases hGiven : given.lookup? setting.label with
      | some value =>
          exact ⟨setting.label, List.mem_append_right _ (Entries.mem_of_lookup? hGiven)⟩
      | none =>
          cases hFile : fromFile.lookup? setting.label with
          | some value =>
              exact ⟨setting.label, List.mem_append_left _ (Entries.mem_of_lookup? hFile)⟩
          | none =>
              -- the defaults of a language fit, and so do the general ones
              refine absurd ?_ hMisfit
              rw [hGiven, hFile, Option.none_or, Option.none_or]
              exact accepts_default language setting

/-- Settings for which all that is given can be spelled out are refused as such. -/
theorem unspellable?_misfits {depth : Option Nat}
    (h : ∀ entry ∈ fromFile ++ given, entry.2.spellingFault? depth = none) :
    unspellable? depth ((misfits (newest language fromFile given)).map .kind) = none := by
  rw [unspellable?, List.findSome?_eq_none_iff]
  simp only [List.forall_mem_map]
  intro problem hProblem
  obtain ⟨name, hGiven⟩ := exists_given_of_misfit hProblem
  exact h _ hGiven

/-- Settings have no problems with kinds. -/
theorem kind_notMem_draftProblems (s : Settings) (problem : KindProblem) :
    .kind problem ∉ draftProblems s.toDraft := by
  rw [draftProblems, CSharp.settings?_toDraft]
  simp [commonProblems]

/-- Every name of a file or of overrides that is no setting becomes a language setting. -/
theorem mem_names_custom_of_unknown (hFile : fileEntries machine file = .ok fromFile)
    (hGiven : overridesOf overrides = .ok given)
    (hLoad : load machine language overrides file = .ok s) {key : Text}
    (hKey : Setting.ofLabel? key = none) (hMem : key ∈ fromFile.names ∨ key ∈ given.names) :
    key ∈ s.custom.names := by
  have hObject : load machine language (.object given) file = .ok s := by
    have hOverrides : overridesOf (.object given) = .ok given := rfl
    rw [load_eq, hOverrides, ← hGiven, ← load_eq, hLoad]
  have hNames : key ∈ Entries.names (fromFile ++ given) := by
    rw [Entries.names, List.map_append, List.mem_append]
    exact hMem
  obtain ⟨value, hValue⟩ :=
    Option.isSome_iff_exists.mp ((Entries.isSome_last?_iff _ _).mpr hNames)
  rw [← Entries.isSome_lookup?_iff, lookup?_custom_of_load hKey hFile hObject, hValue]
  rfl

end

end EntityForge.Settings
