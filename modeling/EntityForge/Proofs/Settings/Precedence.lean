import EntityForge.Proofs.Settings.Merging
import Mathlib

/-! # Overrides against a file

A language setting can be given at the top level or in an object of language settings, in a file or
as an override.  What an override gives at the top level wins over any file.  What it gives in an
object wins over the object of a file only: a file that gives the same setting at its top level,
as a saved file does, has its way (`override_wins_iff`).
-/

namespace EntityForge.Settings

section

variable {machine : Machine} {language : Text} {file : Option Text} {fromFile given : Entries Value}
  {key : Text} {withFile alone : Settings}

/-- Without a file a language setting comes from the overrides, or else from the defaults. -/
theorem lookup?_custom_alone (hKey : Setting.ofLabel? key = none)
    (hAlone : load machine language (.object given) none = .ok alone) :
    alone.custom.lookup? key =
      (Entries.last? given key).or
        ((Entries.last? (nested given) key).or ((defaultMembers language).lookup? key)) := by
  have hNoFile : fileEntries machine none = .ok [] := rfl
  have hFound := lookup?_custom_of_load hKey hNoFile hAlone
  rwa [List.nil_append] at hFound

/-- A language setting that the overrides give: if they give it at the top level, a file changes
nothing; otherwise the top level of the file comes first. -/
theorem lookup?_custom_of_given (hKey : Setting.ofLabel? key = none)
    (hGiven : key ∈ given.names ∨ key ∈ (nested given).names)
    (hFile : fileEntries machine file = .ok fromFile)
    (hWith : load machine language (.object given) file = .ok withFile)
    (hAlone : load machine language (.object given) none = .ok alone) :
    withFile.custom.lookup? key =
      if key ∈ given.names then alone.custom.lookup? key
      else (fromFile.lookup? key).or (alone.custom.lookup? key) := by
  have hNodup := nodup_names_of_fileEntries hFile
  rw [lookup?_custom_of_load hKey hFile hWith, lookup?_custom_alone hKey hAlone, nested_append,
    Entries.last?_append, Entries.last?_append, Entries.last?_eq_lookup?_of_nodup hNodup]
  by_cases hTop : key ∈ given.names
  · obtain ⟨value, hValue⟩ := Option.isSome_iff_exists.mp ((Entries.isSome_last?_iff _ _).mpr hTop)
    rw [if_pos hTop, hValue]
    rfl
  · have hNested : key ∈ (nested given).names := hGiven.resolve_left hTop
    obtain ⟨value, hValue⟩ :=
      Option.isSome_iff_exists.mp ((Entries.isSome_last?_iff _ _).mpr hNested)
    rw [if_neg hTop, (Entries.last?_eq_none_iff _ _).mpr hTop, hValue]
    rfl

/-- A language setting that the overrides give is the same with a file as without one, exactly if
they give it at the top level, or the file does not give another value there. -/
theorem override_wins_iff (hKey : Setting.ofLabel? key = none)
    (hGiven : key ∈ given.names ∨ key ∈ (nested given).names)
    (hFile : fileEntries machine file = .ok fromFile)
    (hWith : load machine language (.object given) file = .ok withFile)
    (hAlone : load machine language (.object given) none = .ok alone) :
    (withFile.custom.lookup? key = alone.custom.lookup? key ↔
      key ∈ given.names ∨
        ∀ value, fromFile.lookup? key = some value → alone.custom.lookup? key = some value) ∧
    withFile.custom.lookup? key =
      if key ∈ given.names then alone.custom.lookup? key
      else (fromFile.lookup? key).or (alone.custom.lookup? key) := by
  have hFound := lookup?_custom_of_given hKey hGiven hFile hWith hAlone
  refine ⟨?_, hFound⟩
  rw [hFound]
  by_cases hTop : key ∈ given.names
  · rw [if_pos hTop]
    exact iff_of_true rfl (.inl hTop)
  · rw [if_neg hTop]
    cases hValue : fromFile.lookup? key with
    | none => simp
    | some value =>
        simp only [Option.some_or, hTop, Option.some.injEq, forall_eq', false_or]
        exact eq_comm

end

/-- A settings file that gives one language setting at its top level, `k` as 1. -/
def levelFile : FileTree :=
  ⟨[(⟨0, [text "c.json"]⟩, .file [0x7b, 0x22, 0x6b, 0x22, 0x3a, 0x31, 0x7d])]⟩

theorem fileEntries_levelFile :
    fileEntries levelFile (some (text "c.json")) = .ok [(text "k", .int 1)] := by
  have hDecode : Utf8.decode [0x7b, 0x22, 0x6b, 0x22, 0x3a, 0x31, 0x7d] =
      .ok (text "\x7b\"k\":1\x7d") := by cbv
  have hDocument : (text "\x7b\"k\":1\x7d").unifyNewlines = text "\x7b\"k\":1\x7d" := by cbv
  have hRead : Json.read (text "\x7b\"k\":1\x7d") = .ok (.object [(text "k", .int 1)]) := by cbv
  have hBytes : levelFile.read (Path.parse (text "c.json")) =
      .ok [0x7b, 0x22, 0x6b, 0x22, 0x3a, 0x31, 0x7d] := rfl
  exact readFile_of_read rfl hBytes hDecode (hDocument.symm ▸ hRead)

/-- An override of that setting at the top level wins over the file. -/
theorem override_wins_iff_topLevel :
    ∃ withFile alone,
      load levelFile (text "csharp") (.object [(text "k", .int 2)]) (some (text "c.json")) =
        .ok withFile ∧
      load levelFile (text "csharp") (.object [(text "k", .int 2)]) none = .ok alone ∧
      withFile.custom.lookup? (text "k") = alone.custom.lookup? (text "k") := by
  have hWith : ∃ withFile, load levelFile (text "csharp") (.object [(text "k", .int 2)])
      (some (text "c.json")) = .ok withFile := by
    rw [load_eq, fileEntries_levelFile]
    exact ⟨_, rfl⟩
  have hAlone : ∃ alone, load levelFile (text "csharp") (.object [(text "k", .int 2)]) none =
      .ok alone := ⟨_, rfl⟩
  obtain ⟨withFile, hWith⟩ := hWith
  obtain ⟨alone, hAlone⟩ := hAlone
  have hKey : Setting.ofLabel? (text "k") = none := by decide
  have hTop : text "k" ∈ Entries.names [(text "k", Value.int 2)] := by decide
  refine ⟨withFile, alone, hWith, hAlone, ?_⟩
  exact (override_wins_iff hKey (.inl hTop) fileEntries_levelFile hWith hAlone).1.mpr (.inl hTop)

/-- An override of it in an object of language settings does not: the file has its way. -/
theorem override_loses_nested :
    ∃ withFile alone,
      load levelFile (text "csharp")
        (.object [(Setting.custom.label, .object [(text "k", .int 2)])]) (some (text "c.json")) =
          .ok withFile ∧
      load levelFile (text "csharp")
        (.object [(Setting.custom.label, .object [(text "k", .int 2)])]) none = .ok alone ∧
      Setting.ofLabel? (text "k") = none ∧
      withFile.custom.lookup? (text "k") = some (.int 1) ∧
      alone.custom.lookup? (text "k") = some (.int 2) := by
  rw [load_eq, fileEntries_levelFile]
  exact ⟨_, _, rfl, rfl, by decide, rfl, rfl⟩

end EntityForge.Settings
