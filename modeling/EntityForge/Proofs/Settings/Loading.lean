import EntityForge.Proofs.Breaking
import EntityForge.Proofs.Entries
import EntityForge.Proofs.Json.Grammar
import EntityForge.Settings.Load

/-! # Loading settings step by step

Loading reads a file, merges what it gives into the defaults of a language, merges the overrides
into that, and makes settings of the result (`load_eq`).  `FileBreaks` is the list of the breakdowns
of the first step; the last step breaks down if it refuses settings for problems that cannot be put
into words (`RefusalBreaks`).
-/

namespace EntityForge

/-! ### The machine of a file tree -/

@[simp]
theorem FileTree.machine_has (files : FileTree) (path : Path) :
    files.machine.has path = (files.has path).mapError .file := rfl

@[simp]
theorem FileTree.machine_read (files : FileTree) (path : Path) :
    files.machine.read path = (files.read path).mapError .file := rfl

@[simp]
theorem FileTree.machine_takesIn (files : FileTree) (document : Text) :
    files.machine.takesIn document = .ok () := rfl

/-- A file that can be read is there. -/
theorem FileTree.has_of_read {files : FileTree} {path : Path} {bytes : Bytes}
    (h : files.read path = .ok bytes) : files.has path = .ok true := by
  rw [FileTree.read] at h
  rw [FileTree.has, FileTree.test]
  split at h
  · next hStat => rw [hStat]
  · cases h
  · cases h

namespace Settings

/-! ### Merging -/

theorem mergeOne_of_ne {settings : Entries Value} {name : Text}
    (hName : name ≠ Setting.custom.label) (value : Value) :
    mergeOne settings name value = .ok (settings.put name value) := by
  unfold mergeOne
  exact if_neg hName

/-! ### Refusing settings -/

/-- Settings are refused for problems that cannot be put into words. -/
def RefusalBreaks (depth : Option Nat) (problems : List SettingProblem) (cause : Breakdown) :
    Prop :=
  ∃ fault, unspellable? depth problems = some fault ∧ cause = .unspellable fault

theorem not_refusalBreaks_nil (depth : Option Nat) (cause : Breakdown) :
    ¬ RefusalBreaks depth [] cause := by
  rintro ⟨fault, hNone, -⟩
  cases hNone

theorem breaksFor_refused {α : Type} (depth : Option Nat) (problems : List SettingProblem)
    (fault : SettingsFault) :
    BreaksFor (.error (refused depth problems fault) : Except Failure α)
      (RefusalBreaks depth problems) := by
  cases hSpelling : unspellable? depth problems with
  | none =>
      rw [refused, hSpelling]
      exact (isSteady_error rfl).congr fun cause => by simp [RefusalBreaks, hSpelling]
  | some spelling =>
      rw [refused, hSpelling]
      exact (breaksFor_error _).congr fun cause => by simp [RefusalBreaks, hSpelling]

/-- The problems with kinds that merged settings have. -/
def mergedProblems (given : Entries Value) : List SettingProblem :=
  (kindProblems (settingsAmong given)).map .kind

theorem breaksFor_ofMerged (depth : Option Nat) (given : Entries Value) :
    BreaksFor (ofMerged depth given) (RefusalBreaks depth (mergedProblems given)) := by
  cases hProblems : kindProblems (settingsAmong given) with
  | nil =>
      rw [ofMerged, hProblems, mergedProblems, hProblems]
      exact (isSteady_ok _).congr fun cause => iff_of_false id (not_refusalBreaks_nil depth cause)
  | cons problem rest =>
      rw [ofMerged, hProblems, mergedProblems, hProblems]
      exact breaksFor_refused depth _ _

/-! ### Reading a file -/

/-- A settings file breaks the run that reads it: its path cannot be looked at, it cannot be read
for a cause that nobody foresees, its bytes are no text, its document cannot be taken in, or it has
an integer with too many digits. -/
inductive FileBreaks (machine : Machine) (path : Path) : Breakdown → Prop
  | unreachable {cause : Breakdown} (hHas : machine.has path = .error cause) :
      FileBreaks machine path cause
  | unreadable {cause : Breakdown} (hHas : machine.has path = .ok true)
      (hName : path.extension.lower = text ".json") (hRead : machine.read path = .error cause)
      (hForeign : ∀ fault, cause ≠ .file fault) : FileBreaks machine path cause
  | undecodable {bytes : Bytes} {fault : Utf8.Fault} (hHas : machine.has path = .ok true)
      (hName : path.extension.lower = text ".json") (hRead : machine.read path = .ok bytes)
      (hDecode : Utf8.decode bytes = .error fault) : FileBreaks machine path (.undecodable fault)
  | overwhelming {bytes : Bytes} {document : Text} {cause : Breakdown}
      (hHas : machine.has path = .ok true) (hName : path.extension.lower = text ".json")
      (hRead : machine.read path = .ok bytes) (hDecode : Utf8.decode bytes = .ok document)
      (hTakes : machine.takesIn document.unifyNewlines = .error cause) :
      FileBreaks machine path cause
  | longInteger {bytes : Bytes} {document : Text} {digits : Nat}
      (hHas : machine.has path = .ok true) (hName : path.extension.lower = text ".json")
      (hRead : machine.read path = .ok bytes) (hDecode : Utf8.decode bytes = .ok document)
      (hTakes : machine.takesIn document.unifyNewlines = .ok ())
      (hDocument : Json.read document.unifyNewlines = .error (.longInteger digits)) :
      FileBreaks machine path (.longInteger digits)

theorem fileBreaks_of_readFile {machine : Machine} {path : Path} {cause : Breakdown}
    (h : readFile machine path = .error (.breakdown cause)) : FileBreaks machine path cause := by
  unfold readFile at h
  dsimp only at h
  repeat' split at h
  all_goals cases h
  -- the breakdowns are left, in the order of the steps
  · next hHas => exact .unreachable hHas
  · next hHas hName _ hForeign hRead =>
      exact .unreadable hHas (not_not.mp hName) hRead fun fault hFault => hForeign fault hFault
  · next hHas hName _ _ hRead _ _ hDecode =>
      exact .undecodable hHas (not_not.mp hName) hRead hDecode
  · next hHas hName _ _ hRead _ _ hDecode _ hTakes =>
      exact .overwhelming hHas (not_not.mp hName) hRead hDecode hTakes
  · next hHas hName _ _ hRead _ _ hDecode _ hTakes _ _ hDocument =>
      exact .longInteger hHas (not_not.mp hName) hRead hDecode hTakes hDocument

theorem readFile_of_fileBreaks {machine : Machine} {path : Path} {cause : Breakdown}
    (h : FileBreaks machine path cause) : readFile machine path = .error (.breakdown cause) := by
  rw [readFile]
  cases h with
  | unreachable hHas => rw [hHas]
  | unreadable hHas hName hRead hForeign =>
      simp only [hHas, hName, hRead, ne_eq, not_true_eq_false, if_false]
  | undecodable hHas hName hRead hDecode =>
      simp only [hHas, hName, hRead, hDecode, ne_eq, not_true_eq_false, if_false]
  | overwhelming hHas hName hRead hDecode hTakes =>
      simp only [hHas, hName, hRead, hDecode, hTakes, ne_eq, not_true_eq_false, if_false]
  | longInteger hHas hName hRead hDecode hTakes hDocument =>
      simp only [hHas, hName, hRead, hDecode, hTakes, hDocument, ne_eq, not_true_eq_false, if_false]

theorem fault_of_readFile {machine : Machine} {path : Path} {failure : Failure}
    (h : readFile machine path = .error failure) :
    (∃ fault, failure = .settings fault) ∨ ∃ cause, failure = .breakdown cause := by
  unfold readFile at h
  dsimp only at h
  repeat' split at h
  all_goals cases h
  all_goals first | exact .inl ⟨_, rfl⟩ | exact .inr ⟨_, rfl⟩

theorem breaksFor_readFile (machine : Machine) (path : Path) :
    BreaksFor (readFile machine path) (FileBreaks machine path) where
  breakdown_iff _ := ⟨fileBreaks_of_readFile, readFile_of_fileBreaks⟩
  family failure h := by
    rcases fault_of_readFile h with ⟨fault, rfl⟩ | hBreakdown
    · exact .inl rfl
    · exact .inr hBreakdown

/-- A settings file that holds an object gives its members. -/
theorem readFile_of_read {files : FileTree} {path : Path} {bytes : Bytes} {document : Text}
    {members : Entries Value} (hName : path.extension.lower = text ".json")
    (hRead : files.read path = .ok bytes) (hDecode : Utf8.decode bytes = .ok document)
    (hDocument : Json.read document.unifyNewlines = .ok (.object members)) :
    readFile files path = .ok members := by
  rw [readFile, FileTree.machine_has, FileTree.machine_read, FileTree.has_of_read hRead, hRead]
  simp only [Except.mapError, hName, hDecode, FileTree.machine_takesIn, hDocument, ne_eq,
    not_true_eq_false, if_false]

/-- The members of a settings file have different names. -/
theorem nodup_names_of_readFile {machine : Machine} {path : Path} {members : Entries Value}
    (h : readFile machine path = .ok members) : members.names.Nodup := by
  unfold readFile at h
  dsimp only at h
  repeat' split at h
  all_goals cases h
  next hRead => exact Json.nodup_names_of_read hRead

/-! ### Loading -/

/-- The settings that a file gives, if one is named. -/
def fileEntries (machine : Machine) : Option Text → Except Failure (Entries Value)
  | none => .ok []
  | some [] => .ok []
  | some name => readFile machine (Path.parse name)

section

variable {machine : Machine} {language : Text} {overrides : Value} {file : Option Text}

theorem nodup_names_of_fileEntries {given : Entries Value}
    (h : fileEntries machine file = .ok given) : given.names.Nodup := by
  unfold fileEntries at h
  split at h
  · cases h
    exact List.nodup_nil
  · cases h
    exact List.nodup_nil
  · exact nodup_names_of_readFile h

theorem breaksFor_fileEntries (machine : Machine) (file : Option Text) :
    BreaksFor (fileEntries machine file) fun cause =>
      ∃ name, file = some name ∧ name ≠ [] ∧ FileBreaks machine (Path.parse name) cause := by
  unfold fileEntries
  split
  · exact (isSteady_ok []).congr fun cause => by simp
  · exact (isSteady_ok []).congr fun cause => by simp
  · next name hName =>
      refine (breaksFor_readFile machine _).congr fun cause => ?_
      constructor
      · intro hBreaks
        exact ⟨name, rfl, hName, hBreaks⟩
      · rintro ⟨_, ⟨⟩, -, hBreaks⟩
        exact hBreaks

theorem mergeStep_eq_ok_iff {settings given merged : Entries Value} :
    mergeStep settings given = .ok merged ↔ merge settings given = .ok merged := by
  rw [mergeStep, mapError_eq_ok_iff]

theorem load_eq (machine : Machine) (language : Text) (overrides : Value) (file : Option Text) :
    load machine language overrides file = (do
      let fromFile ← fileEntries machine file
      let settings ← mergeStep (defaultsOf language) fromFile
      let given ← (overridesOf overrides).mapError .breakdown
      let settings ← mergeStep settings given
      ofMerged machine.depth settings) := by
  unfold load fileEntries
  rcases file with _ | _ | ⟨p, rest⟩
  · rfl
  · rfl
  · simp only [bind, Except.bind]

end

end Settings

end EntityForge
