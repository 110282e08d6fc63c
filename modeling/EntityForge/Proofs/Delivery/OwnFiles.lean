import EntityForge.Proofs.Delivery.Recording
import EntityForge.Proofs.Files.Places
import EntityForge.Proofs.Naming.Emitted
import EntityForge.Proofs.Text.Utf8

/-! # Files of a sink

A sink that writes into a directory joins the name of an artifact to the path of the directory, and
nothing is asked of the name.  So the file of an artifact is where the joined path leads, and that
is the child of the directory with this name exactly if the name holds no slash: the sink writes
nothing but its own files exactly if it delivers no name with a slash (`writes_own_files_iff`).

`Medium.recording` keeps a record of what is delivered beside the files, and `Keeps` says of a sink
with such a record what its files have to do with it; each artifact that is added preserves this,
hence every call and every session.
-/

namespace EntityForge

/-! ### The file of an artifact -/

namespace Artifact

/-- The place of the file of an artifact. -/
def placeIn (a : Artifact) (directory : Path) : Location := (directory.child a.name).place

/-- The name and the content have bytes. Files go by the bytes of their names, so a name with lone
surrogates, which stand for bytes there, can be another spelling of the name of another file. -/
structure HasBytes (a : Artifact) : Prop where
  name : Utf8.IsEncodable a.name
  content : Utf8.IsEncodable a.content

instance (a : Artifact) : Decidable a.HasBytes :=
  decidable_of_iff (Utf8.IsEncodable a.name ∧ Utf8.IsEncodable a.content)
    ⟨fun h => ⟨h.1, h.2⟩, fun h => ⟨h.name, h.content⟩⟩

end Artifact

variable {directory : Path} {files later made : FileTree} {a : Artifact} {bytes : Bytes}
  {failed : Option Failure}

/-- A file that could be written for a name is the child of the directory with that name exactly if
the name holds no slash. -/
theorem placeIn_eq_child_iff (hDirectory : made.IsDirectory directory)
    (h : made.write (directory.child a.name) bytes = .ok later) :
    a.placeIn directory = directory.place.child a.name ↔ CodePoint.char '/' ∉ a.name := by
  obtain ⟨hParts, hUp, hRelative, hFile, -⟩ := FileTree.write_eq_ok h
  have hOther : (directory.child a.name).parts ≠ directory.parts := by
    intro hSame
    have hPlace : (directory.child a.name).place = directory.place := by
      rw [Path.place, hSame, Path.place]
    rw [hPlace] at hFile
    exact hFile hDirectory.2
  rw [Artifact.placeIn, Path.place_eq_child hParts hUp]
  constructor
  · intro hPlace hSlash
    have hName : (directory.child a.name).name = a.name := by
      have hLast := congrArg (fun l : Location => l.names.getLast?) hPlace
      rw [Location.getLast?_names_child, Location.getLast?_names_child] at hLast
      exact Option.some.inj hLast
    have hMem := Path.name_child_mem hRelative hOther
    rw [hName] at hMem
    exact Path.slash_notMem_of_mem_parts hMem hSlash
  · intro hSlash
    rw [Path.child_of_slash_notMem hSlash hOther, Path.parent, Path.name, List.dropLast_concat,
      List.getLast?_concat]
    rfl

/-- What writing an artifact does: its file holds its bytes, and nothing else has changed but
directories that were made. -/
structure Writes (directory : Path) (a : Artifact) (files later : FileTree) : Prop where
  located : later.locate (directory.child a.name) = .ok (a.placeIn directory)
  holds : ∃ bytes, Utf8.encode a.content = .ok bytes ∧
    later.at? (a.placeIn directory) = some (.file bytes)
  others : ∀ l, l ≠ a.placeIn directory →
    later.at? l = files.at? l ∨ files.at? l = none ∧ later.at? l = some .directory
  grows : files.Grows later
  place_iff : a.placeIn directory = directory.place.child a.name ↔ CodePoint.char '/' ∉ a.name

theorem writes_of_write {opened : FileTree} (hAdds : files.AddsDirectories made)
    (hDirectory : made.IsDirectory directory)
    (hOpen : made.write (directory.child a.name) [] = .ok opened)
    (hEncode : Utf8.encode a.content = .ok bytes)
    (hWrite : opened.write (directory.child a.name) bytes = .ok later) :
    Writes directory a files later := by
  obtain ⟨-, -, -, hFree, hOpened⟩ := FileTree.write_eq_ok hOpen
  obtain ⟨-, -, -, hFile, hLater⟩ := FileTree.write_eq_ok hWrite
  have hNames := FileTree.names_ne_nil hFree
  have hAt : ∀ l, later.at? l =
      if l = a.placeIn directory then some (.file bytes) else made.at? l := by
    intro l
    rw [hLater, FileTree.at?_put _ hNames, hOpened, FileTree.at?_put _ hNames]
    by_cases hSame : l = (directory.child a.name).place
    · rw [if_pos hSame, Artifact.placeIn, if_pos hSame]
    · rw [if_neg hSame, if_neg hSame, Artifact.placeIn, if_neg hSame]
  have hGrows : made.Grows later := by
    rw [hLater]
    refine FileTree.Grows.trans ?_ (FileTree.grows_put bytes hFile)
    rw [hOpened]
    exact FileTree.grows_put [] hFree
  exact {
    located := FileTree.locate_of_write hWrite
    holds := ⟨bytes, hEncode, by rw [hAt, if_pos rfl]⟩
    others := by
      intro l hOther
      rw [hAt, if_neg hOther]
      exact hAdds l
    grows := hAdds.grows.trans hGrows
    place_iff := placeIn_eq_child_iff hDirectory hOpen }

/-- On the disk of a file tree an artifact is written by changes of the tree, if the names can be
those of files. -/
theorem disk_writeInto (directory : Path) (files : FileTree) (a : Artifact) :
    FileTree.disk.writeInto directory files a =
      match nameFault? directory.toText with
      | some cause => (files, some (.breakdown cause))
      | none =>
          match files.ensureDirectories directory with
          | .error fault => (files, some (.breakdown (.file fault)))
          | .ok made =>
              match nameFault? (directory.child a.name).toText with
              | some cause => (made, some (Disk.failureAt (directory.child a.name) cause))
              | none =>
                  match made.write (directory.child a.name) [] with
                  | .error fault =>
                      (made, some (.delivery (.unwritable (directory.child a.name) fault)))
                  | .ok opened =>
                      match Utf8.encode a.content with
                      | .error run => (opened, some (.breakdown (.unencodable run)))
                      | .ok bytes =>
                          match opened.write (directory.child a.name) bytes with
                          | .error fault =>
                              (opened,
                                some (.delivery (.unwritable (directory.child a.name) fault)))
                          | .ok written => (written, none) := by
  unfold Disk.writeInto FileTree.disk FileTree.step
  dsimp only
  cases nameFault? directory.toText with
  | some cause => rfl
  | none =>
      cases files.ensureDirectories directory with
      | error fault => rfl
      | ok made =>
          dsimp only
          cases nameFault? (directory.child a.name).toText with
          | some cause => rfl
          | none =>
              cases made.write (directory.child a.name) [] with
              | error fault => rfl
              | ok opened =>
                  dsimp only
                  cases Utf8.encode a.content with
                  | error run => rfl
                  | ok bytes =>
                      dsimp only
                      cases opened.write (directory.child a.name) bytes <;> rfl

/-- An artifact with bytes is written, or nothing has changed but directories that were made. -/
theorem writeInto_cases (hBytes : a.HasBytes)
    (h : FileTree.disk.writeInto directory files a = (later, failed)) :
    (failed = none ∧ Writes directory a files later) ∨
      (∃ failure, failed = some failure) ∧ files.AddsDirectories later := by
  rw [disk_writeInto] at h
  split at h
  · cases h
    exact .inr ⟨⟨_, rfl⟩, .refl _⟩
  · split at h
    · cases h
      exact .inr ⟨⟨_, rfl⟩, .refl _⟩
    · next made hMake =>
        obtain ⟨hAdds, hDirectory⟩ := FileTree.isDirectory_of_ensureDirectories hMake
        split at h
        · cases h
          exact .inr ⟨⟨_, rfl⟩, hAdds⟩
        · split at h
          · cases h
            exact .inr ⟨⟨_, rfl⟩, hAdds⟩
          · next opened hOpen =>
              obtain ⟨bytes, hEncode, -⟩ := Utf8.exists_encode hBytes.content
              obtain ⟨hParts, hUp, -⟩ := FileTree.write_eq_ok hOpen
              obtain ⟨written, hWrite⟩ := FileTree.write_again hParts hUp hOpen bytes
              simp only [hEncode, hWrite] at h
              cases h
              exact .inl ⟨rfl, writes_of_write hAdds hDirectory hOpen hEncode hWrite⟩

/-! ### What a sink has written -/

/-- What the files of a sink have to do with its record. -/
structure Keeps (directory : Path) (before : FileTree) (sink : Sink (FileTree × List Artifact)) :
    Prop where
  names : sink.delivered = sink.state.2.map Artifact.name
  nodup : sink.delivered.Nodup
  grows : before.Grows sink.state.1
  only : ∀ l bytes, sink.state.1.at? l = some (.file bytes) →
    before.at? l = some (.file bytes) ∨ ∃ a ∈ sink.state.2, l = a.placeIn directory
  located : ∀ a ∈ sink.state.2,
    sink.state.1.locate (directory.child a.name) = .ok (a.placeIn directory)
  holds : ∀ a ∈ sink.state.2, ∃ b ∈ sink.state.2, b.placeIn directory = a.placeIn directory ∧
    ∃ bytes, Utf8.encode b.content = .ok bytes ∧
      sink.state.1.at? (a.placeIn directory) = some (.file bytes)
  place_iff : ∀ a ∈ sink.state.2,
    a.placeIn directory = directory.place.child a.name ↔ CodePoint.char '/' ∉ a.name

namespace Keeps

variable {before : FileTree} {sink : Sink (FileTree × List Artifact)}

theorem start (directory : Path) (before : FileTree) :
    Keeps directory before { state := (before, []) } where
  names := rfl
  nodup := List.nodup_nil
  grows := .refl before
  only := fun _ _ h => .inl h
  located := by simp
  holds := by simp
  place_iff := by simp

/-- An artifact that is not written leaves everything as it is but directories. -/
theorem of_addsDirectories (h : Keeps directory before sink)
    (hAdds : sink.state.1.AddsDirectories later) :
    Keeps directory before { sink with state := (later, sink.state.2) } where
  names := h.names
  nodup := h.nodup
  grows := h.grows.trans hAdds.grows
  only := by
    intro l bytes hFile
    rcases hAdds l with hSame | ⟨-, hMade⟩
    · exact h.only l bytes (hSame ▸ hFile)
    · rw [hMade] at hFile
      cases hFile
  located := fun a ha => hAdds.grows.locate (h.located a ha)
  holds := by
    intro a ha
    obtain ⟨b, hb, hPlace, bytes, hBytes, hFile⟩ := h.holds a ha
    refine ⟨b, hb, hPlace, bytes, hBytes, ?_⟩
    rcases hAdds (a.placeIn directory) with hSame | ⟨hNone, -⟩
    · exact hSame.trans hFile
    · rw [hFile] at hNone
      cases hNone
  place_iff := h.place_iff

/-- An artifact with a new name that is written is recorded. -/
theorem of_writes (h : Keeps directory before sink) (hNew : a.name ∉ sink.delivered)
    (hWrites : Writes directory a sink.state.1 later) :
    Keeps directory before ⟨sink.delivered ++ [a.name], (later, sink.state.2 ++ [a])⟩ where
  names := by
    rw [h.names, List.map_append]
    rfl
  nodup := by
    rw [← List.concat_eq_append]
    exact h.nodup.concat hNew
  grows := h.grows.trans hWrites.grows
  only := by
    intro l bytes hFile
    by_cases hHere : l = a.placeIn directory
    · exact .inr ⟨a, by simp, hHere⟩
    · rcases hWrites.others l hHere with hSame | ⟨-, hMade⟩
      · refine (h.only l bytes (hSame ▸ hFile)).imp_right fun ⟨b, hb, hPlace⟩ => ?_
        exact ⟨b, List.mem_append_left _ hb, hPlace⟩
      · rw [hMade] at hFile
        cases hFile
  located := by
    intro b hb
    rcases List.mem_append.mp hb with hOld | hSame
    · exact hWrites.grows.locate (h.located b hOld)
    · rw [List.mem_singleton.mp hSame]
      exact hWrites.located
  holds := by
    intro b hb
    by_cases hHere : b.placeIn directory = a.placeIn directory
    · rw [hHere]
      exact ⟨a, by simp, rfl, hWrites.holds⟩
    · have hOld : b ∈ sink.state.2 := by
        rcases List.mem_append.mp hb with hOld | hSame
        · exact hOld
        · rw [List.mem_singleton.mp hSame] at hHere
          exact absurd rfl hHere
      obtain ⟨c, hc, hPlace, bytes, hBytes, hFile⟩ := h.holds b hOld
      refine ⟨c, List.mem_append_left _ hc, hPlace, bytes, hBytes, ?_⟩
      rcases hWrites.others _ hHere with hSame | ⟨hNone, -⟩
      · exact hSame.trans hFile
      · rw [hFile] at hNone
        cases hNone
  place_iff := by
    intro b hb
    rcases List.mem_append.mp hb with hOld | hSame
    · exact h.place_iff b hOld
    · rw [List.mem_singleton.mp hSame]
      exact hWrites.place_iff

/-- The step: adding an artifact preserves it. -/
theorem add (h : Keeps directory before sink) (hBytes : a.HasBytes) :
    Keeps directory before (sink.add (Medium.directory directory).recording a).1 := by
  rw [Sink.add]
  by_cases hOld : a.name ∈ sink.delivered
  · rw [if_pos hOld]
    exact h
  · rw [if_neg hOld, Medium.recording, Medium.directory, Disk.medium]
    cases hWrite : FileTree.disk.writeInto directory sink.state.1 a with
    | mk later failed =>
        simp only [hWrite]
        rcases writeInto_cases hBytes hWrite with ⟨rfl, hWrites⟩ | ⟨⟨failure, rfl⟩, hAdds⟩
        · exact h.of_writes hOld hWrites
        · exact h.of_addsDirectories hAdds

end Keeps

/-- A sink has written its own files and no others: every file that has appeared or changed is a
child of the directory with the name of a delivered artifact, none has gone, different names have
different files, and the file of an artifact holds its bytes. -/
structure WritesOwnFiles (directory : Path) (before after : FileTree) (delivered : List Artifact) :
    Prop where
  only : ∀ l bytes, after.at? l = some (.file bytes) → before.at? l = some (.file bytes) ∨
    ∃ a ∈ delivered, l = directory.place.child a.name
  kept : ∀ l bytes, before.at? l = some (.file bytes) →
    ∃ more, after.at? l = some (.file more)
  apart : ∀ a ∈ delivered, ∀ b ∈ delivered,
    after.locate (directory.child a.name) = after.locate (directory.child b.name) → a.name = b.name
  holds : ∀ a ∈ delivered, ∃ bytes, Utf8.encode a.content = .ok bytes ∧
    after.locate (directory.child a.name) = .ok (directory.place.child a.name) ∧
      after.at? (directory.place.child a.name) = some (.file bytes)

theorem Keeps.writesOwnFiles_iff {before : FileTree} {sink : Sink (FileTree × List Artifact)}
    (h : Keeps directory before sink) :
    WritesOwnFiles directory before sink.state.1 sink.state.2 ↔
      ∀ name ∈ sink.delivered, CodePoint.char '/' ∉ name := by
  rw [h.names]
  constructor
  · intro hOwn name hName
    obtain ⟨a, ha, rfl⟩ := List.mem_map.mp hName
    obtain ⟨-, -, hLocated, -⟩ := hOwn.holds a ha
    rw [h.located a ha] at hLocated
    exact (h.place_iff a ha).mp (Except.ok.inj hLocated)
  · intro hNames
    have hPlace : ∀ a ∈ sink.state.2, a.placeIn directory = directory.place.child a.name :=
      fun a ha => (h.place_iff a ha).mpr (hNames _ (List.mem_map_of_mem ha))
    have hNodup : (sink.state.2.map Artifact.name).Nodup := h.names ▸ h.nodup
    have hName : ∀ a ∈ sink.state.2, ∀ b ∈ sink.state.2,
        a.placeIn directory = b.placeIn directory → a.name = b.name := by
      intro a ha b hb hSame
      rw [hPlace a ha, hPlace b hb] at hSame
      exact Location.child_injective hSame
    exact {
      only := by
        intro l bytes hFile
        refine (h.only l bytes hFile).imp_right fun ⟨a, ha, hHere⟩ => ⟨a, ha, ?_⟩
        rw [hHere, hPlace a ha]
      kept := h.grows.file
      apart := by
        intro a ha b hb hSame
        rw [h.located a ha, h.located b hb] at hSame
        exact hName a ha b hb (Except.ok.inj hSame)
      holds := by
        intro a ha
        obtain ⟨b, hb, hSame, bytes, hBytes, hFile⟩ := h.holds a ha
        have hEqual : b = a := List.inj_on_of_nodup_map hNodup hb ha (hName b hb a ha hSame)
        rw [hPlace a ha] at hFile
        refine ⟨bytes, hEqual ▸ hBytes, ?_, hFile⟩
        rw [h.located a ha, hPlace a ha] }

/-! ### Names of artifacts -/

namespace CSharp

/-- A valid name holds no slash, so only what is put behind it can. -/
theorem slash_mem_append_iff {name : Text} (h : namingRule.isValid name = true) (suffix : Text) :
    CodePoint.char '/' ∈ name ++ suffix ↔ CodePoint.char '/' ∈ suffix := by
  have hSlash : isNameCode (.char '/') = false := by decide +kernel
  have hName : CodePoint.char '/' ∉ name := by
    intro hMem
    rw [(isNameCode_of_isValid h).2 _ hMem] at hSlash
    cases hSlash
  rw [List.mem_append]
  exact or_iff_right hName

theorem slash_mem_name_iff_of_generate {g : Generator} {schema : Schema}
    {warnings : List SchemaWarning} {artifacts : List Artifact} (hUsable : IsUsable g.settings)
    (hCheck : g.check schema = .ok warnings) (hGenerate : g.generate schema = .ok artifacts) :
    ∀ a ∈ artifacts, CodePoint.char '/' ∈ a.name ↔ CodePoint.char '/' ∈ g.settings.fileSuffix := by
  intro a ha
  have hName : a.name ∈ artifacts.map Artifact.name := List.mem_map_of_mem ha
  rw [names_of_generate hGenerate] at hName
  rcases List.mem_append.mp hName with hEntity | hLast
  · obtain ⟨e, he, hSame⟩ := List.mem_map.mp hEntity
    rw [← hSame]
    exact slash_mem_append_iff (isNamedWell_of_checkSchema hCheck e he).name.isValid _
  · rw [List.mem_singleton.mp hLast]
    have hValid := (Bool.and_eq_true_iff.mp hUsable.contextName).1
    exact slash_mem_append_iff hValid _

end CSharp

namespace Run

variable {r : Registry} {host : Host} {signal : CancelSignal} {request : Request}

/-- The artifacts that a run delivers have a slash in their names exactly if the suffix has. -/
theorem slash_mem_name_iff {g : CSharp.Generator} {result : GenerationResult}
    (hCreate : r.create host request.language request.settings = .ok g)
    (hReadied : readied r host signal request = .ok result) :
    ∀ a ∈ result.artifacts,
      CodePoint.char '/' ∈ a.name ↔ CodePoint.char '/' ∈ g.settings.fileSuffix := by
  have hProduce := produce_of_readied hReadied
  rw [produce_eq hCreate] at hProduce
  cases hGiven : artifactsOf g signal request.document with
  | error failure =>
      rw [hGiven] at hProduce
      cases hProduce
  | ok given =>
      rw [hGiven] at hProduce
      cases hProduce
      rcases generate_of_artifactsOf hGiven with hNone | ⟨schema, warnings, hCheck, hGenerate⟩
      · simp [hNone]
      · obtain ⟨d, hDraft⟩ := ofDraft_of_create hCreate
        exact CSharp.slash_mem_name_iff_of_generate (CSharp.isUsable_of_ofDraft hDraft) hCheck
          hGenerate

end Run

/-! ### Sessions -/

/-- A session of which all artifacts have bytes writes nothing but its own files exactly if no name
that it delivers holds a slash.  Only the suffix can bring one into the names of a run. -/
theorem writes_own_files_iff (directory : Path) (before : FileTree) (calls : List Call)
    (hBytes : ∀ call ∈ calls, ∀ a ∈ call.offers, a.HasBytes) :
    let sink := Call.sinkOn (Medium.directory directory) before calls
    let recorded := Call.sinkOn (Medium.directory directory).recording (before, []) calls
    (recorded.forget = sink ∧ sink.delivered = recorded.state.2.map Artifact.name) ∧
      (WritesOwnFiles directory before sink.state recorded.state.2 ↔
        ∀ name ∈ sink.delivered, CodePoint.char '/' ∉ name) ∧
      ∀ r host signal request g result,
        r.create host request.language request.settings = .ok g →
        Run.readied r host signal request = .ok result →
        ∀ a ∈ result.artifacts,
          CodePoint.char '/' ∈ a.name ↔ CodePoint.char '/' ∈ g.settings.fileSuffix := by
  intro sink recorded
  have hForget : recorded.forget = sink := Call.forget_sinkOn before calls
  have hKeeps : Keeps directory before recorded :=
    Call.sinkOn_preserves (Keeps.start directory before)
      fun _ hSink call hCall a ha => hSink.add (hBytes call hCall a ha)
  have hDelivered : sink.delivered = recorded.delivered := by rw [← hForget]; rfl
  have hState : sink.state = recorded.state.1 := by rw [← hForget]; rfl
  refine ⟨⟨hForget, hDelivered.trans hKeeps.names⟩, ?_, ?_⟩
  · rw [hDelivered, hState]
    exact hKeeps.writesOwnFiles_iff
  · intro r host signal request g result hCreate hReadied
    exact Run.slash_mem_name_iff hCreate hReadied

/-- The directory of the sessions below. -/
def outDirectory : Path := Path.parse (text "out")

/-- A tree with a file in the directory. -/
def notedTree : FileTree := ⟨[(⟨0, [text "out"]⟩, .directory),
  (⟨0, [text "out", text "Note.cs"]⟩, .file [0x6F, 0x6C, 0x64])]⟩

/-- A session in which an artifact is added twice, the second time in vain, before a run. -/
def tidySession : List Call := [.add ⟨text "Note.cs", text "x"⟩, .add ⟨text "Note.cs", text "y"⟩,
  Call.singleRun]

theorem readied_singleRun : Run.readied Registry.builtin {} CancelSignal.never
    { document := some Run.singleDocument } =
      .ok (Run.pagesResult Run.standardGenerator Run.singleSchema [.noProperties (text "A")]) :=
  Run.readied_of_check Run.isBuiltin_standardGenerator Run.create_standardGenerator
    Run.load_singleDocument Run.check_singleSchema rfl

theorem offers_singleRun : Call.singleRun.offers =
    CSharp.pages Run.standardGenerator Run.singleSchema.entities := by
  rw [Call.singleRun, Call.offers, readied_singleRun]
  rfl

theorem delivered_tidySession :
    (Call.sinkOn (Medium.directory outDirectory) notedTree tidySession).delivered =
      [text "Note.cs", text "A.g.cs", text "GeneratedDbContext.g.cs"] := by
  have hSplit : tidySession = tidySession.dropLast ++ [Call.singleRun] := rfl
  rw [hSplit, Call.sinkOn_concat, Call.performOn_eq, offers_singleRun]
  decide +kernel

/-- The session writes nothing but its own files: the file that was there before is replaced by what
was first delivered under its name. -/
theorem writes_own_files_iff_tidySession :
    (∀ call ∈ tidySession, ∀ a ∈ call.offers, a.HasBytes) ∧
      WritesOwnFiles outDirectory notedTree
        (Call.sinkOn (Medium.directory outDirectory) notedTree tidySession).state
        (Call.sinkOn (Medium.directory outDirectory).recording (notedTree, [])
          tidySession).state.2 := by
  have hPages : ∀ a ∈ CSharp.pages Run.standardGenerator Run.singleSchema.entities, a.HasBytes := by
    decide +kernel
  have hBytes : ∀ call ∈ tidySession, ∀ a ∈ call.offers, a.HasBytes := by
    intro call hCall a ha
    simp only [tidySession, List.mem_cons, List.not_mem_nil, or_false] at hCall
    rcases hCall with rfl | rfl | rfl
    · rw [List.mem_singleton.mp ha]
      decide
    · rw [List.mem_singleton.mp ha]
      decide
    · rw [offers_singleRun] at ha
      exact hPages a ha
  refine ⟨hBytes, (writes_own_files_iff outDirectory notedTree tidySession hBytes).2.1.mpr ?_⟩
  rw [delivered_tidySession]
  decide

/-- A session that delivers a name that leads up. -/
def straySession : List Call := [.add ⟨text "../Note.cs", text "x"⟩]

/-- A session that delivers two names of one file. -/
def sharedSession : List Call :=
  [.add ⟨text "Note.cs", text "x"⟩, .add ⟨text "./Note.cs", text "y"⟩]

/-- A name that leads up is delivered to a file beside the directory, and two names are delivered to
one file. -/
theorem stray_and_shared_files :
    ((Call.sinkOn (Medium.directory outDirectory).recording ({}, []) straySession).delivered =
        [text "../Note.cs"] ∧
      ¬ WritesOwnFiles outDirectory {}
        (Call.sinkOn (Medium.directory outDirectory) {} straySession).state
        (Call.sinkOn (Medium.directory outDirectory).recording ({}, []) straySession).state.2) ∧
    (Call.sinkOn (Medium.directory outDirectory).recording ({}, []) sharedSession).delivered =
        [text "Note.cs", text "./Note.cs"] ∧
      ¬ WritesOwnFiles outDirectory {}
        (Call.sinkOn (Medium.directory outDirectory) {} sharedSession).state
        (Call.sinkOn (Medium.directory outDirectory).recording ({}, []) sharedSession).state.2 := by
  refine ⟨⟨by decide, fun hOwn => ?_⟩, by decide, fun hOwn => ?_⟩
  · rcases hOwn.only ⟨0, [text "Note.cs"]⟩ [0x78] (by decide) with hBefore | ⟨a, ha, hPlace⟩
    · cases hBefore
    · rw [List.mem_singleton.mp ha] at hPlace
      exact absurd hPlace (by decide)
  · have hSame := hOwn.apart ⟨text "Note.cs", text "x"⟩ (by decide) ⟨text "./Note.cs", text "y"⟩
      (by decide) (by decide)
    exact absurd hSame (by decide)

end EntityForge
