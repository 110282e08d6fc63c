import EntityForge.Proofs.Settings.Merging
import Mathlib

/-! # Language settings that clash

Of all that is merged only an object of language settings can fail to be: something else may be
there under their name.  Entries with different names give language settings at most once, so a
merge is one step that may fail between steps that cannot (`merge_split`).  The defaults of a
language have an object there.  So loading breaks down with its file, because the file gives
something else where the overrides give an object, or with merged settings that are refused for
values that cannot be spelled out (`breaksFor_load_of_overrides`); every other failure is a fault of
the settings (`load_breaks_iff`).
-/

namespace EntityForge.Settings

/-- An object of language settings is given where `found`, which is no object, is there. -/
structure Clashes (settings given : Entries Value) (found : Value) : Prop where
  there : settings.lookup? Setting.custom.label = some found
  not_object : found.members? = none
  given : ∃ members, given.lookup? Setting.custom.label = some (.object members)

section

variable {settings given merged : Entries Value}

/-! ### The step that may fail -/

theorem mergeOne_eq_error_iff {value : Value} {cause : Breakdown} :
    mergeOne settings Setting.custom.label value = .error cause ↔
      ∃ found, settings.lookup? Setting.custom.label = some found ∧ found.members? = none ∧
        (∃ members, value = .object members) ∧ cause = .notMergeable found.kind := by
  constructor
  · intro h
    unfold mergeOne at h
    rw [if_pos rfl] at h
    split at h
    · next members =>
        cases hThere : settings.lookup? Setting.custom.label with
        | none =>
            rw [hThere] at h
            cases h
        | some found =>
            rw [hThere] at h
            cases found with
            | object old => cases h
            | _ =>
                cases h
                exact ⟨_, rfl, rfl, ⟨members, rfl⟩, rfl⟩
    · cases h
  · rintro ⟨found, hThere, hObject, ⟨members, rfl⟩, rfl⟩
    unfold mergeOne
    rw [if_pos rfl, hThere]
    cases found with
    | object old => cases hObject
    | _ => rfl

/-- Entries that give language settings once are merged in three parts. -/
theorem merge_split {front back : Entries Value} {value : Value}
    (hFront : Setting.custom.label ∉ front.names) (hBack : Setting.custom.label ∉ back.names) :
    merge settings (front ++ (Setting.custom.label, value) :: back) =
      (mergeOne (settings.putAll front) Setting.custom.label value).map
        fun next => Entries.putAll next back := by
  have hFirst : merge settings front = .ok (settings.putAll front) := merge_of_notMem hFront
  rw [merge_append, hFirst]
  change merge (settings.putAll front) ((Setting.custom.label, value) :: back) = _
  rw [merge]
  cases mergeOne (settings.putAll front) Setting.custom.label value with
  | error cause => rfl
  | ok next => exact merge_of_notMem hBack

/-- The part of entries that gives language settings, and the parts that do not. -/
theorem exists_split (hNodup : given.names.Nodup) (h : Setting.custom.label ∈ given.names) :
    ∃ (front back : Entries Value) (value : Value),
      given = front ++ (Setting.custom.label, value) :: back ∧
      Setting.custom.label ∉ front.names ∧ Setting.custom.label ∉ back.names ∧
      given.lookup? Setting.custom.label = some value := by
  obtain ⟨value, hValue⟩ := Entries.exists_lookup? h
  obtain ⟨front, back, hSplit⟩ := List.append_of_mem (Entries.mem_of_lookup? hValue)
  have hNames : given.names =
      Entries.names front ++ Setting.custom.label :: Entries.names back := by
    rw [hSplit, Entries.names, List.map_append]
    rfl
  rw [hNames, List.nodup_append] at hNodup
  obtain ⟨-, hBehind, hApart⟩ := hNodup
  refine ⟨front, back, value, hSplit, fun hFront => ?_, (List.nodup_cons.mp hBehind).1, hValue⟩
  exact hApart _ hFront _ List.mem_cons_self rfl

theorem lookup?_putAll_of_notMem {more : Entries Value} (h : Setting.custom.label ∉ more.names) :
    (settings.putAll more).lookup? Setting.custom.label =
      settings.lookup? Setting.custom.label := by
  rw [Entries.lookup?_putAll, (Entries.last?_eq_none_iff _ _).mpr h, Option.none_or]

/-- Merging fails exactly if there is a clash. -/
theorem merge_eq_error_iff (hNodup : given.names.Nodup) {cause : Breakdown} :
    merge settings given = .error cause ↔
      ∃ found, Clashes settings given found ∧ cause = .notMergeable found.kind := by
  by_cases hMem : Setting.custom.label ∈ given.names
  · obtain ⟨front, back, value, rfl, hFront, hBack, hValue⟩ := exists_split hNodup hMem
    rw [merge_split hFront hBack, map_eq_error_iff, mergeOne_eq_error_iff,
      lookup?_putAll_of_notMem hFront]
    constructor
    · rintro ⟨found, hThere, hObject, ⟨members, rfl⟩, hCause⟩
      exact ⟨found, ⟨hThere, hObject, members, hValue⟩, hCause⟩
    · rintro ⟨found, ⟨hThere, hObject, members, hGiven⟩, hCause⟩
      rw [hValue] at hGiven
      exact ⟨found, hThere, hObject, ⟨members, Option.some.inj hGiven⟩, hCause⟩
  · rw [merge_of_notMem hMem]
    refine iff_of_false (by simp) ?_
    rintro ⟨found, ⟨-, -, members, hGiven⟩, -⟩
    rw [(Entries.lookup?_eq_none_iff _ _).mpr hMem] at hGiven
    cases hGiven

/-- What is there under the name of the language settings after a merge: what was there, the value
that is given if it is no object, and else some object. -/
theorem lookup?_custom_of_merge (hNodup : given.names.Nodup)
    (h : merge settings given = .ok merged) :
    (given.lookup? Setting.custom.label = none ∧
      merged.lookup? Setting.custom.label = settings.lookup? Setting.custom.label) ∨
    (∃ value, given.lookup? Setting.custom.label = some value ∧ value.members? = none ∧
      merged.lookup? Setting.custom.label = some value) ∨
    ∃ members all, given.lookup? Setting.custom.label = some (.object members) ∧
      merged.lookup? Setting.custom.label = some (.object all) := by
  by_cases hMem : Setting.custom.label ∈ given.names
  · obtain ⟨front, back, value, rfl, hFront, hBack, hValue⟩ := exists_split hNodup hMem
    rw [merge_split hFront hBack] at h
    cases hOne : mergeOne (settings.putAll front) Setting.custom.label value with
    | error cause =>
        rw [hOne] at h
        cases h
    | ok next =>
        rw [hOne] at h
        cases h
        right
        rw [lookup?_putAll_of_notMem hBack, hValue]
        rcases mergeOne_cases hOne with ⟨rfl, hOther⟩ | ⟨old, members, -, rfl, -, rfl⟩
        · exact .inl ⟨value, rfl, hOther rfl, Entries.lookup?_put_self _ _ _⟩
        · exact .inr ⟨members, _, rfl, Entries.lookup?_put_self _ _ _⟩
  · rw [merge_of_notMem hMem] at h
    cases h
    exact .inl ⟨(Entries.lookup?_eq_none_iff _ _).mpr hMem, lookup?_putAll_of_notMem hMem⟩

end

/-! ### Loading -/

section

variable {machine : Machine} {language : Text} {overrides : Value} {file : Option Text}
  {fromFile given settings : Entries Value}

theorem lookup?_custom_defaultsOf (language : Text) :
    (defaultsOf language).lookup? Setting.custom.label =
      some (.object (defaultMembers language)) := by
  rw [defaultMembers, defaultsOf]
  split <;> rfl

/-- Over the defaults of a language, what is no object comes from the file. -/
theorem lookup?_custom_eq_iff (hNodup : fromFile.names.Nodup)
    (h : merge (defaultsOf language) fromFile = .ok settings) {found : Value}
    (hObject : found.members? = none) :
    settings.lookup? Setting.custom.label = some found ↔
      fromFile.lookup? Setting.custom.label = some found := by
  rcases lookup?_custom_of_merge hNodup h with ⟨hNone, hKept⟩ | ⟨value, hValue, -, hThere⟩ |
    ⟨members, all, hMembers, hThere⟩
  · rw [hNone, hKept, lookup?_custom_defaultsOf]
    refine iff_of_false ?_ (by simp)
    rintro ⟨⟩
    cases hObject
  · rw [hValue, hThere]
  · rw [hMembers, hThere]
    refine iff_of_false ?_ ?_
    · rintro ⟨⟩
      cases hObject
    · rintro ⟨⟩
      cases hObject

theorem clashes_iff (hNodup : fromFile.names.Nodup)
    (h : merge (defaultsOf language) fromFile = .ok settings) {found : Value} :
    Clashes settings given found ↔ Clashes fromFile given found := by
  constructor
  · rintro ⟨hThere, hObject, hGiven⟩
    exact ⟨(lookup?_custom_eq_iff hNodup h hObject).mp hThere, hObject, hGiven⟩
  · rintro ⟨hThere, hObject, hGiven⟩
    exact ⟨(lookup?_custom_eq_iff hNodup h hObject).mpr hThere, hObject, hGiven⟩

/-- The defaults of a language clash with nothing. -/
theorem not_clashes_defaultsOf (language : Text) (given : Entries Value) (found : Value) :
    ¬ Clashes (defaultsOf language) given found := by
  rintro ⟨hThere, hObject, -⟩
  rw [lookup?_custom_defaultsOf] at hThere
  cases hThere
  cases hObject

theorem breaksFor_mergeStep (settings : Entries Value) (hNodup : given.names.Nodup) :
    BreaksFor (mergeStep settings given) fun cause =>
      ∃ found, Clashes settings given found ∧ cause = .notMergeable found.kind where
  breakdown_iff cause := by
    rw [mergeStep, mapError_eq_error_iff, ← merge_eq_error_iff hNodup]
    constructor
    · rintro ⟨other, hMerge, ⟨⟩⟩
      exact hMerge
    · intro hMerge
      exact ⟨cause, hMerge, rfl⟩
  family failure h := by
    rw [mergeStep, mapError_eq_error_iff] at h
    obtain ⟨cause, -, rfl⟩ := h
    exact .inr ⟨cause, rfl⟩

/-- A file can be merged into the defaults of a language. -/
theorem exists_merge_defaultsOf (language : Text) (hNodup : fromFile.names.Nodup) :
    ∃ settings, merge (defaultsOf language) fromFile = .ok settings := by
  cases hMerge : merge (defaultsOf language) fromFile with
  | ok settings => exact ⟨settings, rfl⟩
  | error cause =>
      obtain ⟨found, hClash, -⟩ := (merge_eq_error_iff hNodup).mp hMerge
      exact absurd hClash (not_clashes_defaultsOf language fromFile found)

/-- The merged settings that are made of a file and overrides are refused for problems that cannot
be put into words. -/
def MergedBreaks (depth : Option Nat) (language : Text) (fromFile given : Entries Value)
    (cause : Breakdown) : Prop :=
  ∃ merged, merge (defaultsOf language) (fromFile ++ given) = .ok merged ∧
    RefusalBreaks depth (mergedProblems merged) cause

/-- Loading breaks down with the file, because the file clashes with the overrides, or with what is
merged of both. -/
theorem breaksFor_load_of_overrides (hOverrides : overridesOf overrides = .ok given)
    (hNodup : given.names.Nodup) :
    BreaksFor (load machine language overrides file) fun cause =>
      (∃ name, file = some name ∧ name ≠ [] ∧ FileBreaks machine (Path.parse name) cause) ∨
      ∃ fromFile, fileEntries machine file = .ok fromFile ∧
        ((∃ found, Clashes fromFile given found ∧ cause = .notMergeable found.kind) ∨
          MergedBreaks machine.depth language fromFile given cause) := by
  rw [load_eq, hOverrides]
  refine (breaksFor_fileEntries machine file).bind fun fromFile hFile => ?_
  have hDistinct := nodup_names_of_fileEntries hFile
  obtain ⟨settings, hSettings⟩ := exists_merge_defaultsOf language hDistinct
  rw [mergeStep_eq_ok_iff.mpr hSettings]
  have hSecond : BreaksFor (mergeStep settings given >>= ofMerged machine.depth) fun cause =>
      (∃ found, Clashes settings given found ∧ cause = .notMergeable found.kind) ∨
        ∃ merged, mergeStep settings given = .ok merged ∧
          RefusalBreaks machine.depth (mergedProblems merged) cause :=
    (breaksFor_mergeStep settings hNodup).bind fun merged _ => breaksFor_ofMerged _ merged
  refine hSecond.congr fun cause => or_congr ?_ ?_
  · exact exists_congr fun found => and_congr_left fun _ => clashes_iff hDistinct hSettings
  · refine exists_congr fun merged => and_congr_left fun _ => ?_
    rw [mergeStep_eq_ok_iff, merge_append, hSettings]
    rfl

/-- Without a file, or without language settings among the overrides, nothing clashes. -/
theorem breaksFor_load (hOverrides : overridesOf overrides = .ok given)
    (hNodup : given.names.Nodup) (hApart : file = none ∨ Setting.custom.label ∉ given.names) :
    BreaksFor (load machine language overrides file) fun cause =>
      (∃ name, file = some name ∧ name ≠ [] ∧ FileBreaks machine (Path.parse name) cause) ∨
      ∃ fromFile, fileEntries machine file = .ok fromFile ∧
        MergedBreaks machine.depth language fromFile given cause := by
  refine (breaksFor_load_of_overrides hOverrides hNodup).congr fun cause =>
    or_congr_right (exists_congr fun fromFile => and_congr_right fun hFile => or_iff_right ?_)
  rintro ⟨found, ⟨hThere, -, members, hGiven⟩, -⟩
  rcases hApart with rfl | hNot
  · cases hFile
    cases hThere
  · rw [(Entries.lookup?_eq_none_iff _ _).mpr hNot] at hGiven
    cases hGiven

/-! ### A file that is there -/

theorem fault_of_refused (depth : Option Nat) (problems : List SettingProblem)
    (fault : SettingsFault) :
    (∃ fault', refused depth problems fault = .settings fault') ∨
      ∃ cause, refused depth problems fault = .breakdown cause := by
  rw [refused]
  cases unspellable? depth problems with
  | none => exact .inl ⟨_, rfl⟩
  | some _ => exact .inr ⟨_, rfl⟩

theorem fault_of_mergeStep {failure : Failure} (h : mergeStep settings given = .error failure) :
    ∃ cause, failure = .breakdown cause := by
  obtain ⟨cause, -, rfl⟩ := mapError_eq_error_iff.mp h
  exact ⟨cause, rfl⟩

theorem fault_of_ofMerged {depth : Option Nat} {failure : Failure}
    (h : ofMerged depth given = .error failure) :
    (∃ fault, failure = .settings fault) ∨ ∃ cause, failure = .breakdown cause := by
  rw [ofMerged] at h
  split at h
  · cases h
  · cases h
    exact fault_of_refused _ _ _

/-- Loading fails with a fault of the settings or breaks down. -/
theorem fault_of_load {failure : Failure}
    (h : load machine language overrides file = .error failure) :
    (∃ fault, failure = .settings fault) ∨ ∃ cause, failure = .breakdown cause := by
  simp only [load_eq, bind_eq_error_iff] at h
  rcases h with hFile | ⟨fromFile, -, hFirst | ⟨first, -, hGiven | ⟨given, -, hSecond |
    ⟨merged, -, hMerged⟩⟩⟩⟩
  · unfold fileEntries at hFile
    split at hFile
    · cases hFile
    · cases hFile
    · exact fault_of_readFile hFile
  · exact .inr (fault_of_mergeStep hFirst)
  · obtain ⟨cause, -, rfl⟩ := mapError_eq_error_iff.mp hGiven
    exact .inr ⟨cause, rfl⟩
  · exact .inr (fault_of_mergeStep hSecond)
  · exact fault_of_ofMerged hMerged

/-- A settings file that is there makes loading break down: it cannot be read for a cause that
nobody foresees, its bytes are no text, its document cannot be taken in or has an integer with too
many digits, it clashes with the overrides, or what is merged of both has values of the wrong kind
that cannot be spelled out. -/
inductive LoadingBreaks (machine : Machine) (language : Text) (path : Path)
    (given : Entries Value) : Breakdown → Prop
  | unreadable {cause : Breakdown} (hRead : machine.read path = .error cause)
      (hForeign : ∀ fault, cause ≠ .file fault) :
      LoadingBreaks machine language path given cause
  | undecodable {bytes : Bytes} {fault : Utf8.Fault} (hRead : machine.read path = .ok bytes)
      (hDecode : Utf8.decode bytes = .error fault) :
      LoadingBreaks machine language path given (.undecodable fault)
  | overwhelming {bytes : Bytes} {document : Text} {cause : Breakdown}
      (hRead : machine.read path = .ok bytes) (hDecode : Utf8.decode bytes = .ok document)
      (hTakes : machine.takesIn document.unifyNewlines = .error cause) :
      LoadingBreaks machine language path given cause
  | longInteger {bytes : Bytes} {document : Text} {digits : Nat}
      (hRead : machine.read path = .ok bytes) (hDecode : Utf8.decode bytes = .ok document)
      (hTakes : machine.takesIn document.unifyNewlines = .ok ())
      (hDocument : Json.read document.unifyNewlines = .error (.longInteger digits)) :
      LoadingBreaks machine language path given (.longInteger digits)
  | clash {fromFile : Entries Value} {found : Value} (hFile : readFile machine path = .ok fromFile)
      (hClash : Clashes fromFile given found) :
      LoadingBreaks machine language path given (.notMergeable found.kind)
  | refusal {fromFile : Entries Value} {cause : Breakdown}
      (hFile : readFile machine path = .ok fromFile)
      (hMerged : MergedBreaks machine.depth language fromFile given cause) :
      LoadingBreaks machine language path given cause

/-- Settings with a file that is there, and that is named as a settings file, break down exactly for
these causes.  Otherwise they are loaded, or refused with a fault of the settings. -/
theorem load_breaks_iff {name : Text} (hHas : machine.has (Path.parse name) = .ok true)
    (hName : (Path.parse name).extension.lower = text ".json") (hNodup : given.names.Nodup) :
    (∀ cause, load machine language (.object given) (some name) = .error (.breakdown cause) ↔
      LoadingBreaks machine language (Path.parse name) given cause) ∧
    ((∀ cause, ¬ LoadingBreaks machine language (Path.parse name) given cause) →
      (∃ s, load machine language (.object given) (some name) = .ok s) ∨
      ∃ fault, load machine language (.object given) (some name) = .error (.settings fault)) := by
  have hne : name ≠ [] := by
    rintro rfl
    exact absurd hName (by decide)
  have hEntries : fileEntries machine (some name) = readFile machine (Path.parse name) := by
    obtain ⟨p, rest, rfl⟩ := List.exists_cons_of_ne_nil hne
    rfl
  have hBreaks : ∀ cause, load machine language (.object given) (some name) =
      .error (.breakdown cause) ↔
        LoadingBreaks machine language (Path.parse name) given cause := by
    intro cause
    rw [(breaksFor_load_of_overrides rfl hNodup).breakdown_iff, hEntries]
    constructor
    · rintro (⟨_, ⟨⟩, -, hFile⟩ | ⟨fromFile, hFile, ⟨found, hClash, rfl⟩ | hMerged⟩)
      · cases hFile with
        | unreachable hFault =>
            rw [hHas] at hFault
            cases hFault
        | unreadable _ _ hRead hForeign => exact .unreadable hRead hForeign
        | undecodable _ _ hRead hDecode => exact .undecodable hRead hDecode
        | overwhelming _ _ hRead hDecode hTakes => exact .overwhelming hRead hDecode hTakes
        | longInteger _ _ hRead hDecode hTakes hDocument =>
            exact .longInteger hRead hDecode hTakes hDocument
      · exact .clash hFile hClash
      · exact .refusal hFile hMerged
    · intro h
      cases h with
      | unreadable hRead hForeign =>
          exact .inl ⟨name, rfl, hne, .unreadable hHas hName hRead hForeign⟩
      | undecodable hRead hDecode =>
          exact .inl ⟨name, rfl, hne, .undecodable hHas hName hRead hDecode⟩
      | overwhelming hRead hDecode hTakes =>
          exact .inl ⟨name, rfl, hne, .overwhelming hHas hName hRead hDecode hTakes⟩
      | longInteger hRead hDecode hTakes hDocument =>
          exact .inl ⟨name, rfl, hne, .longInteger hHas hName hRead hDecode hTakes hDocument⟩
      | clash hFile hClash => exact .inr ⟨_, hFile, .inl ⟨_, hClash, rfl⟩⟩
      | refusal hFile hMerged => exact .inr ⟨_, hFile, .inr hMerged⟩
  refine ⟨hBreaks, fun hNone => ?_⟩
  cases hLoad : load machine language (.object given) (some name) with
  | ok s => exact .inl ⟨s, rfl⟩
  | error failure =>
      right
      rcases fault_of_load hLoad with ⟨fault, rfl⟩ | ⟨cause, rfl⟩
      · exact ⟨fault, rfl⟩
      · exact absurd ((hBreaks cause).mp hLoad) (hNone cause)

end

/-- A settings file that gives a number for the language settings. -/
def numberFile : FileTree :=
  ⟨[(⟨0, [text "c.json"]⟩,
    .file [0x7b, 0x22, 0x63, 0x75, 0x73, 0x74, 0x6f, 0x6d, 0x22, 0x3a, 0x31, 0x7d])]⟩

theorem readFile_numberFile :
    readFile numberFile (Path.parse (text "c.json")) = .ok [(Setting.custom.label, .int 1)] := by
  have hDecode :
      Utf8.decode [0x7b, 0x22, 0x63, 0x75, 0x73, 0x74, 0x6f, 0x6d, 0x22, 0x3a, 0x31, 0x7d] =
        .ok (text "\x7b\"custom\":1\x7d") := by cbv
  have hRead : Json.read (text "\x7b\"custom\":1\x7d").unifyNewlines =
      .ok (.object [(Setting.custom.label, .int 1)]) := by cbv
  exact readFile_of_read rfl rfl hDecode hRead

/-- It clashes with overrides that give an object of language settings, although it is there and
named as a settings file. -/
theorem load_breaks_iff_numberFile :
    numberFile.machine.has (Path.parse (text "c.json")) = .ok true ∧
      (Path.parse (text "c.json")).extension.lower = text ".json" ∧
      (Entries.names [(Setting.custom.label, Value.object [])]).Nodup ∧
      load numberFile (text "csharp") (.object [(Setting.custom.label, .object [])])
        (some (text "c.json")) = .error (.breakdown (.notMergeable (text "int"))) := by
  have hHas : numberFile.machine.has (Path.parse (text "c.json")) = .ok true := rfl
  have hName : (Path.parse (text "c.json")).extension.lower = text ".json" := rfl
  have hNodup : (Entries.names [(Setting.custom.label, Value.object [])]).Nodup := by decide
  have hClash : Clashes [(Setting.custom.label, .int 1)] [(Setting.custom.label, .object [])]
      (.int 1) := ⟨rfl, rfl, [], rfl⟩
  exact ⟨hHas, hName, hNodup,
    ((load_breaks_iff hHas hName hNodup).1 _).mpr (.clash readFile_numberFile hClash)⟩

/-- A settings file of one byte that is no text. -/
def byteFile : FileTree := ⟨[(⟨0, [text "c.json"]⟩, .file [0xff])]⟩

/-- Loading settings may break down, although the settings file is there and named as one. -/
theorem load_breaks_byteFile :
    byteFile.machine.has (Path.parse (text "c.json")) = .ok true ∧
      (Path.parse (text "c.json")).extension.lower = text ".json" ∧
      load byteFile (text "csharp") (.object []) (some (text "c.json")) =
        .error (.breakdown (.undecodable ⟨0xff, 0, 1, .invalidStart⟩)) := by
  have hDecode : Utf8.decode [0xff] = .error ⟨0xff, 0, 1, .invalidStart⟩ := by cbv
  have hFile : FileBreaks byteFile (Path.parse (text "c.json"))
      (.undecodable ⟨0xff, 0, 1, .invalidStart⟩) := .undecodable rfl rfl rfl hDecode
  have hEmpty : (Entries.names ([] : Entries Value)).Nodup := List.nodup_nil
  refine ⟨rfl, rfl, ((breaksFor_load_of_overrides rfl hEmpty).breakdown_iff _).mpr ?_⟩
  exact .inl ⟨text "c.json", rfl, by decide, hFile⟩

end EntityForge.Settings
