import EntityForge.Proofs.Files.Tree
import EntityForge.Proofs.Text.Lines

/-! # Places

Without links a path has one place (`Path.place`): whether a walk ends depends on the tree, but
where it ends depends on the names alone (`follow_of_walk`).  So a file that is written is at the
place of its path (`write_eq_ok`), whatever was in the tree.

A directory that is made is there afterwards (`isDirectory_of_ensureDirectories`), and nothing but
directories is made on the way.  For paths that lead up this needs that a walk only passes through
directories: those above the place that it has come to are all there (`IsRooted`).
-/

namespace EntityForge

/-! ### Places of paths -/

namespace Location

/-- The place that names lead to. -/
def follow (l : Location) : List Text → Location
  | [] => l
  | name :: rest => (if name = text ".." then l.parent else l.child name).follow rest

theorem follow_append (l : Location) (names more : List Text) :
    l.follow (names ++ more) = (l.follow names).follow more := by
  induction names generalizing l with
  | nil => rfl
  | cons name rest ih => exact ih _

theorem child_injective {l : Location} {name other : Text} (h : l.child name = l.child other) :
    name = other := by
  have hNames : l.names ++ [name] = l.names ++ [other] := congrArg names h
  exact List.singleton_inj.mp (List.append_cancel_left hNames)

theorem getLast?_names_child (l : Location) (name : Text) :
    (l.child name).names.getLast? = some name :=
  List.getLast?_concat

end Location

namespace Path

/-- The place of a path below the working directory. -/
def place (path : Path) : Location := Location.follow {} path.parts

variable {path : Path}

theorem place_eq_child (hParts : path.parts ≠ []) (hUp : path.name ≠ text "..") :
    path.place = path.parent.place.child path.name := by
  rw [place, parts_eq hParts, Location.follow_append]
  exact if_neg hUp

theorem slash_notMem_of_mem_parts {t part : Text} (h : part ∈ (parse t).parts) :
    CodePoint.char '/' ∉ part :=
  Text.notMem_of_mem_splitOn (List.mem_of_mem_filter h)

/-- A name without a slash is a path of at most that name. -/
theorem parse_of_slash_notMem {name : Text} (h : CodePoint.char '/' ∉ name) :
    parse name = ⟨[], if name = [] ∨ name = text "." then [] else [name]⟩ := by
  have hRoot : rootOf name = [] := by
    unfold rootOf
    split
    · exact absurd List.mem_cons_self h
    · exact absurd List.mem_cons_self h
    · exact absurd List.mem_cons_self h
    · rfl
  rw [parse, hRoot, Text.splitOn_of_notMem h]
  by_cases hNone : name = [] ∨ name = text "."
  · rw [if_pos hNone]
    rcases hNone with rfl | rfl <;> rfl
  · rw [if_neg hNone]
    obtain ⟨hEmpty, hDot⟩ := not_or.mp hNone
    simp [hEmpty, hDot]

/-- A relative path that goes on from a directory ends with a name between slashes. -/
theorem name_child_mem {directory : Path} {t : Text}
    (hRelative : (directory.child t).isRelative = true)
    (hOn : (directory.child t).parts ≠ directory.parts) :
    (directory.child t).name ∈ (parse t).parts := by
  have hBelow : (parse t).isRelative = true := by
    by_contra hRoot
    rw [child, if_neg hRoot] at hRelative
    exact hRoot hRelative
  have hJoined : (directory.child t).parts = directory.parts ++ (parse t).parts := by
    rw [child, if_pos hBelow]
  have hNe : (parse t).parts ≠ [] := by
    intro hNone
    rw [hJoined, hNone, List.append_nil] at hOn
    exact hOn rfl
  rw [name, hJoined, List.getLast?_append_of_ne_nil _ hNe, List.getLast?_eq_some_getLast hNe,
    Option.getD_some]
  exact List.getLast_mem hNe

/-- A name without a slash goes on from a directory by one name at most. -/
theorem child_of_slash_notMem {directory : Path} {t : Text} (h : CodePoint.char '/' ∉ t)
    (hOn : (directory.child t).parts ≠ directory.parts) :
    directory.child t = ⟨directory.root, directory.parts ++ [t]⟩ := by
  rw [child, parse_of_slash_notMem h] at hOn ⊢
  by_cases hNone : t = [] ∨ t = text "."
  · rw [if_pos hNone] at hOn
    exact absurd (List.append_nil _) hOn
  · rw [if_neg hNone]
    rfl

end Path

namespace FileTree

variable {tree later : FileTree} {l place : Location} {path : Path} {bytes : Bytes}

/-- A walk that ends anywhere ends at the place that its names lead to. -/
theorem follow_of_walk {names : List Text} (h : tree.walk l names = .ok place) :
    place = l.follow names := by
  induction names generalizing l with
  | nil =>
      cases h
      rfl
  | cons name rest ih =>
      rw [walk] at h
      rw [Location.follow]
      split at h
      · split at h
        · next hUp =>
            rw [if_pos hUp]
            exact ih h
        · next hUp =>
            rw [if_neg hUp]
            split at h
            · cases h
            · split at h
              · cases h
              · exact ih h
      · cases h

theorem locate_eq_ok_iff :
    tree.locate path = .ok place ↔ ¬ maxPathBytes < byteLength path.toText ∧
      path.isRelative = true ∧ tree.walk {} path.parts = .ok place := by
  rw [locate]
  by_cases hLong : maxPathBytes < byteLength path.toText
  · simp [hLong]
  · by_cases hRelative : path.isRelative = true <;> simp [hLong, hRelative]

theorem place_of_locate (h : tree.locate path = .ok place) : place = path.place :=
  follow_of_walk (locate_eq_ok_iff.mp h).2.2

/-! ### Walks through directories -/

/-- The directories above a place are all there. -/
def IsRooted (tree : FileTree) (l : Location) : Prop :=
  ∀ names, names <+: l.names → names ≠ l.names → tree.at? ⟨l.above, names⟩ = some .directory

theorem isRooted_of_names_eq_nil (h : l.names = []) : tree.IsRooted l := by
  intro names hFront hNe
  rw [h] at hFront hNe
  exact absurd (List.prefix_nil.mp hFront) hNe

namespace IsRooted

theorem child (h : tree.IsRooted l) (hDirectory : tree.at? l = some .directory) (name : Text) :
    tree.IsRooted (l.child name) := by
  intro names hFront hNe
  rcases List.prefix_concat_iff.mp hFront with hAll | hFront
  · exact absurd hAll hNe
  · by_cases hSame : names = l.names
    · rw [hSame]
      exact hDirectory
    · exact h names hFront hSame

theorem parent (h : tree.IsRooted l) : tree.IsRooted l.parent := by
  rw [Location.parent]
  split
  · next hNone => exact isRooted_of_names_eq_nil (List.isEmpty_iff.mp hNone)
  · intro names hFront hNe
    refine h names (hFront.trans (List.dropLast_prefix _)) ?_
    intro hSame
    have hLength := hFront.length_le
    rw [hSame, List.length_dropLast] at hLength
    have hShort : l.names.length = 0 := by omega
    rw [hSame, List.eq_nil_of_length_eq_zero hShort] at hNe
    exact hNe rfl

theorem at?_parent (h : tree.IsRooted l) : tree.at? l.parent = some .directory := by
  rw [Location.parent]
  split
  · next hNone => rw [at?, if_pos hNone]
  · next hSome =>
      have hNe : l.names ≠ [] := by simpa using hSome
      refine h l.names.dropLast (List.dropLast_prefix _) fun hSame => ?_
      have hLength := congrArg List.length hSame
      rw [List.length_dropLast] at hLength
      have hPositive := List.length_pos_iff.mpr hNe
      omega

theorem walk {names : List Text} (h : tree.IsRooted l) (hWalk : tree.walk l names = .ok place) :
    tree.IsRooted place := by
  induction names generalizing l with
  | nil =>
      cases hWalk
      exact h
  | cons name rest ih =>
      rw [FileTree.walk] at hWalk
      split at hWalk
      · next hDirectory =>
          split at hWalk
          · exact ih h.parent hWalk
          · split at hWalk
            · cases hWalk
            · split at hWalk
              · cases hWalk
              · exact ih (h.child hDirectory name) hWalk
      · cases hWalk

end IsRooted

/-- What a path that says nothing, or that leads up, can only lead to is a directory. -/
theorem at?_of_locateNew (hUp : path.parts = [] ∨ path.name = text "..")
    (h : tree.locateNew path = .ok place) : tree.at? place = some .directory := by
  have hOld : (path.parts.isEmpty || path.name = text "..") = true := by simpa using hUp
  rw [locateNew] at h
  by_cases hLong : maxPathBytes < byteLength path.toText
  · rw [if_pos hLong] at h
    cases h
  rw [if_neg hLong] at h
  by_cases hRoot : (!path.isRelative) = true
  · rw [if_pos hRoot] at h
    cases h
  rw [if_neg hRoot, if_pos hOld] at h
  by_cases hParts : path.parts = []
  · rw [hParts] at h
    cases h
    rfl
  rw [Path.parts_eq hParts, hUp.resolve_left hParts, walk_append] at h
  cases hWalk : tree.walk {} path.parent.parts with
  | error fault =>
      rw [hWalk] at h
      cases h
  | ok directory =>
      have hRooted : tree.IsRooted directory := (isRooted_of_names_eq_nil rfl).walk hWalk
      rw [hWalk] at h
      have hPlace : place = directory.parent := follow_of_walk h
      rw [hPlace]
      exact hRooted.at?_parent

theorem Grows.locate (h : tree.Grows later) (hLocate : tree.locate path = .ok place) :
    later.locate path = .ok place := by
  obtain ⟨hLong, hRelative, hWalk⟩ := locate_eq_ok_iff.mp hLocate
  exact locate_eq_ok_iff.mpr ⟨hLong, hRelative, h.walk hWalk⟩

/-! ### Making directories -/

/-- Nothing has changed but that directories were made where nothing was. -/
def AddsDirectories (tree later : FileTree) : Prop :=
  ∀ l, later.at? l = tree.at? l ∨ tree.at? l = none ∧ later.at? l = some .directory

namespace AddsDirectories

theorem refl (tree : FileTree) : tree.AddsDirectories tree := fun _ => .inl rfl

theorem trans {latest : FileTree} (h : tree.AddsDirectories later)
    (hMore : later.AddsDirectories latest) : tree.AddsDirectories latest := by
  intro l
  rcases hMore l with hSame | ⟨hNone, hMade⟩
  · rw [hSame]
    exact h l
  · rcases h l with hSame | ⟨_, hThere⟩
    · exact .inr ⟨hSame ▸ hNone, hMade⟩
    · rw [hThere] at hNone
      cases hNone

theorem grows (h : tree.AddsDirectories later) : tree.Grows later where
  directory := by
    intro l hl
    rcases h l with hSame | ⟨-, hMade⟩
    · rw [hSame, hl]
    · exact hMade
  file := by
    intro l bytes hl
    rcases h l with hSame | ⟨hNone, -⟩
    · exact ⟨bytes, by rw [hSame, hl]⟩
    · rw [hl] at hNone
      cases hNone

end AddsDirectories

/-- A path leads to a directory. -/
def IsDirectory (tree : FileTree) (path : Path) : Prop :=
  tree.locate path = .ok path.place ∧ tree.at? path.place = some .directory

theorem isDirectory_of_hasDirectory (h : tree.hasDirectory path = .ok true) :
    tree.IsDirectory path := by
  rw [hasDirectory, test, stat] at h
  cases hLocate : tree.locate path with
  | error fault =>
      rw [hLocate] at h
      cases fault <;> cases h
  | ok place =>
      have hPlace := place_of_locate hLocate
      subst hPlace
      rw [hLocate] at h
      refine ⟨hLocate, ?_⟩
      cases hNode : tree.at? path.place with
      | none => simp [bind, Except.bind, hNode] at h
      | some node => simpa [bind, Except.bind, hNode] using h

theorem makeDirectory_eq_ok (h : tree.makeDirectory path = .ok later) :
    ∃ place, tree.locateNew path = .ok place ∧ tree.at? place = none ∧
      later = tree.put place .directory := by
  rw [makeDirectory] at h
  split at h
  · cases h
  · next place hLocate =>
      split at h
      · cases h
      · next hNone =>
          cases h
          exact ⟨place, hLocate, hNone, rfl⟩

theorem addsDirectories_put (h : tree.at? l = none) :
    tree.AddsDirectories (tree.put l .directory) := by
  intro other
  have hFree : tree.at? l ≠ some .directory := by simp [h]
  rw [at?_put _ (names_ne_nil hFree)]
  by_cases hSame : other = l
  · rw [if_pos hSame, hSame]
    exact .inr ⟨h, rfl⟩
  · rw [if_neg hSame]
    exact .inl rfl

/-- A directory that is made is there, and nothing else has changed. -/
theorem isDirectory_of_makeDirectory (h : tree.makeDirectory path = .ok later) :
    tree.AddsDirectories later ∧ later.IsDirectory path := by
  obtain ⟨place, hLocate, hNone, rfl⟩ := makeDirectory_eq_ok h
  have hAdds := addsDirectories_put hNone
  have hFree : tree.at? place ≠ some .directory := by simp [hNone]
  obtain ⟨hParts, hUp⟩ : path.parts ≠ [] ∧ path.name ≠ text ".." := by
    rw [← not_or]
    intro hOld
    rw [at?_of_locateNew hOld hLocate] at hNone
    cases hNone
  obtain ⟨hLong, hRelative, hName, directory, hWalk, hDirectory, rfl⟩ :=
    (locateNew_eq_ok_iff hParts hUp).mp hLocate
  have hThere := at?_put_self hFree .directory
  have hLocated := locate_of_walk hParts hUp hLong hRelative hName (hAdds.grows.walk hWalk)
    (hAdds.grows.directory _ hDirectory) (by simp [hThere])
  have hPlace := place_of_locate hLocated
  refine ⟨hAdds, ?_, ?_⟩
  · rw [← hPlace]
    exact hLocated
  · rw [← hPlace]
    exact hThere

theorem isDirectory_of_ensureDirectory (h : tree.ensureDirectory path = .ok later) :
    tree.AddsDirectories later ∧ later.IsDirectory path := by
  rw [ensureDirectory] at h
  split at h
  · next hMake =>
      cases h
      exact isDirectory_of_makeDirectory hMake
  · split at h
    · cases h
    · split at h
      · cases h
      · next hThere =>
          cases h
          exact ⟨.refl _, isDirectory_of_hasDirectory hThere⟩
      · cases h

theorem isDirectory_of_ensureDirectoriesFrom {root : Text} {names : List Text}
    (h : tree.ensureDirectoriesFrom root names = .ok later) :
    tree.AddsDirectories later ∧ later.IsDirectory ⟨root, names.reverse⟩ := by
  induction names generalizing tree later with
  | nil => exact isDirectory_of_ensureDirectory h
  | cons name above ih =>
      rw [ensureDirectoriesFrom] at h
      split at h
      · cases hAbove : tree.ensureDirectoriesFrom root above with
        | error fault =>
            rw [hAbove] at h
            cases h
        | ok made =>
            rw [hAbove] at h
            obtain ⟨hAdds, hDirectory⟩ := isDirectory_of_ensureDirectory h
            exact ⟨(ih hAbove).1.trans hAdds, hDirectory⟩
      · exact isDirectory_of_ensureDirectory h

/-- A directory that is ensured is there, and nothing but directories was made. -/
theorem isDirectory_of_ensureDirectories (h : tree.ensureDirectories path = .ok later) :
    tree.AddsDirectories later ∧ later.IsDirectory path := by
  have hPath := isDirectory_of_ensureDirectoriesFrom h
  rwa [List.reverse_reverse] at hPath

/-! ### Writing files -/

/-- A file is only written at the place of a path that ends with a name, and no directory is
there. -/
theorem write_eq_ok (h : tree.write path bytes = .ok later) :
    path.parts ≠ [] ∧ path.name ≠ text ".." ∧ path.isRelative = true ∧
      tree.at? path.place ≠ some .directory ∧ later = tree.put path.place (.file bytes) := by
  obtain ⟨hParts, hUp⟩ : path.parts ≠ [] ∧ path.name ≠ text ".." := by
    rw [← not_or]
    intro hOld
    rw [write] at h
    split at h
    · cases h
    · next hLocate =>
        rw [at?_of_locateNew hOld hLocate] at h
        cases h
  obtain ⟨-, hRelative, -, directory, hWalk, -, hFile, rfl⟩ :=
    (write_eq_ok_iff hParts hUp).mp h
  have hPlace : path.place = directory.child path.name := by
    rw [Path.place_eq_child hParts hUp, follow_of_walk hWalk]
    rfl
  rw [hPlace]
  exact ⟨hParts, hUp, hRelative, hFile, rfl⟩

theorem locate_of_write (h : tree.write path bytes = .ok later) :
    later.locate path = .ok path.place := by
  obtain ⟨hParts, hUp, -⟩ := write_eq_ok h
  have hRead := read_of_write hParts hUp h
  cases hLocate : later.locate path with
  | error fault =>
      rw [read, stat, hLocate] at hRead
      cases hRead
  | ok place => rw [place_of_locate hLocate]

end FileTree

end EntityForge
