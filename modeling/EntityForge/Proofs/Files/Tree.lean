import EntityForge.Files.Tree
import EntityForge.Text.Lower

/-! # Writing and reading files

A file that was written can be written again, and what was written last is read
(`exists_write_read`).  Writing a file changes nothing but what is at its own place, and no
directory is at that place; so the tree only grows (`Grows`): what is a directory stays one, what is
a file stays one, whatever it holds.  A walk that succeeded succeeds again in a tree that has grown,
and leads to the same place (`Grows.walk`).
-/

namespace EntityForge

namespace Path

/-- A path with an extension has a last name, which is not that of the directory above. -/
theorem name_of_extension {path : Path} (h : path.extension ≠ []) :
    path.parts ≠ [] ∧ path.name ≠ text ".." := by
  constructor
  · intro hParts
    apply h
    rw [extension, name, hParts]
    rfl
  · intro hName
    apply h
    rw [extension, hName]
    rfl

theorem extension_ne_nil {path : Path} (h : path.extension.lower = text ".json") :
    path.extension ≠ [] := by
  intro hNone
  rw [hNone] at h
  cases h

theorem parts_eq {path : Path} (h : path.parts ≠ []) :
    path.parts = path.parent.parts ++ [path.name] := by
  rw [parent, name, List.getLast?_eq_some_getLast h, Option.getD_some]
  exact (List.dropLast_concat_getLast h).symm

end Path

namespace FileTree

section

variable {tree later : FileTree} {l place directory : Location} {bytes : Bytes}

/-! ### Places -/

/-- Nodes that are replaced at one place. -/
theorem lookup_replace (nodes : List (Location × FileNode)) (l : Location) (node : FileNode)
    (place : Location) :
    (nodes.map fun entry => if entry.1 = l then (l, node) else entry).lookup place =
      if place = l ∧ (nodes.any fun entry => entry.1 = l) = true then some node
      else nodes.lookup place := by
  induction nodes with
  | nil => simp
  | cons entry rest ih =>
      obtain ⟨there, old⟩ := entry
      by_cases hThere : there = l
      · subst hThere
        by_cases hPlace : place = there
        · simp [hPlace]
        · have hBeq : (place == there) = false := by simp [hPlace]
          simp [hPlace, List.lookup_cons, hBeq, ih]
      · by_cases hPlace : place = there
        · have hNe : ¬ place = l := fun h => hThere (hPlace ▸ h)
          simp [hThere, hPlace]
        · have hBeq : (place == there) = false := by simp [hPlace]
          rw [List.map_cons, if_neg hThere, List.lookup_cons, List.lookup_cons, hBeq, ih,
            List.any_cons, decide_eq_false hThere, Bool.false_or]

theorem lookup_put (l : Location) (node : FileNode) (place : Location) :
    (tree.put l node).nodes.lookup place =
      if place = l then some node else tree.nodes.lookup place := by
  rw [put]
  by_cases hAny : (tree.nodes.any fun entry => entry.1 = l) = true
  · rw [if_pos hAny]
    exact (lookup_replace tree.nodes l node place).trans (by simp [hAny])
  · rw [if_neg hAny, List.lookup_append]
    by_cases hPlace : place = l
    · subst hPlace
      have hNone : tree.nodes.lookup place = none := by
        rw [List.lookup_eq_none_iff]
        intro entry hEntry
        have hNe : entry.1 ≠ place :=
          fun h => hAny (List.any_eq_true.mpr ⟨entry, hEntry, by simp [h]⟩)
        simp [Ne.symm hNe]
      simp [hNone]
    · have hBeq : (place == l) = false := by simp [hPlace]
      simp [hPlace, List.lookup_cons, hBeq]

theorem at?_put (node : FileNode) (hNames : l.names ≠ []) (place : Location) :
    (tree.put l node).at? place = if place = l then some node else tree.at? place := by
  rw [at?, at?, lookup_put]
  by_cases hPlace : place = l
  · subst hPlace
    have hNotEmpty : place.names.isEmpty = false := by simpa using hNames
    simp [hNotEmpty]
  · rw [if_neg hPlace, if_neg hPlace]

theorem names_ne_nil (h : tree.at? l ≠ some .directory) : l.names ≠ [] := by
  intro hNames
  rw [at?, hNames] at h
  exact h rfl

theorem at?_put_self (h : tree.at? l ≠ some .directory) (node : FileNode) :
    (tree.put l node).at? l = some node := by
  rw [at?_put _ (names_ne_nil h), if_pos rfl]

/-! ### Walks -/

theorem walk_append (names more : List Text) :
    tree.walk l (names ++ more) = tree.walk l names >>= fun place => tree.walk place more := by
  induction names generalizing l with
  | nil => rfl
  | cons name rest ih =>
      rw [List.cons_append, walk, walk]
      split
      · split
        · exact ih
        · split
          · rfl
          · split
            · rfl
            · exact ih
      · rfl

/-! ### Growth -/

/-- What is a directory stays one, and what is a file stays one. -/
structure Grows (tree later : FileTree) : Prop where
  directory : ∀ l, tree.at? l = some .directory → later.at? l = some .directory
  file : ∀ l bytes, tree.at? l = some (.file bytes) → ∃ more, later.at? l = some (.file more)

namespace Grows

theorem refl (tree : FileTree) : tree.Grows tree := ⟨fun _ h => h, fun _ bytes h => ⟨bytes, h⟩⟩

theorem trans {latest : FileTree} (h : tree.Grows later) (hMore : later.Grows latest) :
    tree.Grows latest where
  directory := fun l hl => hMore.directory l (h.directory l hl)
  file := fun l bytes hl => by
    obtain ⟨more, hThere⟩ := h.file l bytes hl
    exact hMore.file l more hThere

theorem isNone (h : tree.Grows later) (hNone : ¬ (tree.at? l).isNone = true) :
    ¬ (later.at? l).isNone = true := by
  cases hNode : tree.at? l with
  | none => simp [hNode] at hNone
  | some node =>
      cases node with
      | directory => simp [h.directory l hNode]
      | file bytes =>
          obtain ⟨more, hThere⟩ := h.file l bytes hNode
          simp [hThere]

/-- A walk succeeds again in a tree that has grown. -/
theorem walk {names : List Text} (h : tree.Grows later) (hWalk : tree.walk l names = .ok place) :
    later.walk l names = .ok place := by
  induction names generalizing l with
  | nil => exact hWalk
  | cons name rest ih =>
      rw [FileTree.walk] at hWalk ⊢
      split at hWalk
      · next hDirectory =>
          rw [h.directory l hDirectory]
          dsimp only
          split at hWalk
          · next hUp =>
              rw [if_pos hUp]
              exact ih hWalk
          · next hUp =>
              rw [if_neg hUp]
              split at hWalk
              · cases hWalk
              · next hShort =>
                  rw [if_neg hShort]
                  split at hWalk
                  · cases hWalk
                  · next hThere =>
                      rw [if_neg (h.isNone hThere)]
                      exact ih hWalk
      · cases hWalk

end Grows

/-- A tree grows by a file that is put where no directory is. -/
theorem grows_put (bytes : Bytes) (h : tree.at? l ≠ some .directory) :
    tree.Grows (tree.put l (.file bytes)) where
  directory := by
    intro other hOther
    have hNe : other ≠ l := by
      rintro rfl
      exact h hOther
    rw [at?_put _ (names_ne_nil h), if_neg hNe, hOther]
  file := by
    intro other old hOther
    rw [at?_put _ (names_ne_nil h)]
    by_cases hSame : other = l
    · exact ⟨bytes, by rw [if_pos hSame]⟩
    · exact ⟨old, by rw [if_neg hSame, hOther]⟩

/-! ### Files -/

variable {path : Path}

/-- The place of a new file is in a directory that is there. -/
theorem locateNew_eq_ok_iff (hParts : path.parts ≠ []) (hUp : path.name ≠ text "..")
    {place : Location} :
    tree.locateNew path = .ok place ↔
      ¬ maxPathBytes < byteLength path.toText ∧ path.isRelative = true ∧
        ¬ maxNameBytes < byteLength path.name ∧
        ∃ directory, tree.walk {} path.parent.parts = .ok directory ∧
          tree.at? directory = some .directory ∧ place = directory.child path.name := by
  have hNew : ¬ (path.parts.isEmpty || path.name = text "..") = true := by simp [hParts, hUp]
  constructor
  · intro h
    rw [locateNew] at h
    by_cases hPath : maxPathBytes < byteLength path.toText
    · rw [if_pos hPath] at h
      cases h
    · rw [if_neg hPath] at h
      by_cases hRoot : (!path.isRelative) = true
      · rw [if_pos hRoot] at h
        cases h
      · rw [if_neg hRoot, if_neg hNew] at h
        cases hWalk : tree.walk {} path.parent.parts with
        | error fault =>
            rw [hWalk] at h
            cases h
        | ok directory =>
            rw [hWalk] at h
            simp only [bind, Except.bind] at h
            split at h
            · next hDirectory =>
                by_cases hName : maxNameBytes < byteLength path.name
                · rw [if_pos hName] at h
                  cases h
                · rw [if_neg hName] at h
                  cases h
                  exact ⟨hPath, by simpa using hRoot, hName, directory, rfl, hDirectory, rfl⟩
            · cases h
  · rintro ⟨hPath, hRelative, hName, directory, hWalk, hDirectory, rfl⟩
    have hRoot : ¬ (!path.isRelative) = true := by simp [hRelative]
    rw [locateNew, if_neg hPath, if_neg hRoot, if_neg hNew, hWalk]
    simp only [bind, Except.bind, hDirectory, if_neg hName]

/-- A file is written at a place where no directory is. -/
theorem write_eq_ok_iff (hParts : path.parts ≠ []) (hUp : path.name ≠ text "..")
    {written : FileTree} :
    tree.write path bytes = .ok written ↔
      ¬ maxPathBytes < byteLength path.toText ∧ path.isRelative = true ∧
        ¬ maxNameBytes < byteLength path.name ∧
        ∃ directory, tree.walk {} path.parent.parts = .ok directory ∧
          tree.at? directory = some .directory ∧
          tree.at? (directory.child path.name) ≠ some .directory ∧
          written = tree.put (directory.child path.name) (.file bytes) := by
  constructor
  · intro h
    rw [write] at h
    split at h
    · cases h
    · next place hPlace =>
        obtain ⟨hPath, hRelative, hName, directory, hWalk, hDirectory, rfl⟩ :=
          (locateNew_eq_ok_iff hParts hUp).mp hPlace
        split at h
        · cases h
        · next hFile =>
            cases h
            exact ⟨hPath, hRelative, hName, directory, hWalk, hDirectory, hFile, rfl⟩
  · rintro ⟨hPath, hRelative, hName, directory, hWalk, hDirectory, hFile, rfl⟩
    have hPlace := (locateNew_eq_ok_iff hParts hUp).mpr
      ⟨hPath, hRelative, hName, directory, hWalk, hDirectory, rfl⟩
    rw [write, hPlace]
    dsimp only
    split
    · next hThere => exact absurd hThere hFile
    · rfl

/-- A file that was written can be written again. -/
theorem write_again (hParts : path.parts ≠ []) (hUp : path.name ≠ text "..") {written : FileTree}
    (h : tree.write path bytes = .ok written) (more : Bytes) :
    ∃ again, written.write path more = .ok again := by
  obtain ⟨hPath, hRelative, hName, directory, hWalk, hDirectory, hPlace, rfl⟩ :=
    (write_eq_ok_iff hParts hUp).mp h
  have hGrows := grows_put bytes hPlace
  refine ⟨_, (write_eq_ok_iff hParts hUp).mpr ⟨hPath, hRelative, hName, directory,
    hGrows.walk hWalk, hGrows.directory _ hDirectory, ?_, rfl⟩⟩
  rw [at?_put_self hPlace]
  simp

/-- A path leads to what is in the directory that the names before its last lead to. -/
theorem locate_of_walk (hParts : path.parts ≠ []) (hUp : path.name ≠ text "..")
    (hPath : ¬ maxPathBytes < byteLength path.toText) (hRelative : path.isRelative = true)
    (hName : ¬ maxNameBytes < byteLength path.name)
    (hWalk : tree.walk {} path.parent.parts = .ok directory)
    (hDirectory : tree.at? directory = some .directory)
    (hThere : (tree.at? (directory.child path.name)).isNone = false) :
    tree.locate path = .ok (directory.child path.name) := by
  have hRoot : ¬ (!path.isRelative) = true := by simp [hRelative]
  rw [locate, if_neg hPath, if_neg hRoot, Path.parts_eq hParts, walk_append, hWalk]
  simp only [bind, Except.bind, walk, hDirectory, if_neg hUp, if_neg hName, hThere,
    Bool.false_eq_true, if_false]

/-- What was written is read. -/
theorem read_of_write (hParts : path.parts ≠ []) (hUp : path.name ≠ text "..")
    {written : FileTree} (h : tree.write path bytes = .ok written) :
    written.read path = .ok bytes := by
  obtain ⟨hPath, hRelative, hName, directory, hWalk, hDirectory, hPlace, rfl⟩ :=
    (write_eq_ok_iff hParts hUp).mp h
  have hGrows := grows_put bytes hPlace
  have hThere := at?_put_self hPlace (.file bytes)
  have hLocate := locate_of_walk hParts hUp hPath hRelative hName (hGrows.walk hWalk)
    (hGrows.directory _ hDirectory) (by simp [hThere])
  rw [read, stat, hLocate]
  simp only [bind, Except.bind, hThere]

/-- A file with an extension that can be opened takes any bytes, and gives them back. -/
theorem exists_write_read {opened : FileTree} (hExtension : path.extension ≠ [])
    (h : tree.write path [] = .ok opened) (bytes : Bytes) :
    ∃ written, opened.write path bytes = .ok written ∧ written.read path = .ok bytes := by
  obtain ⟨hParts, hUp⟩ := Path.name_of_extension hExtension
  obtain ⟨written, hWritten⟩ := write_again hParts hUp h bytes
  exact ⟨written, hWritten, read_of_write hParts hUp hWritten⟩

end

end FileTree

end EntityForge
