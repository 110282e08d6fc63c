import EntityForge.Proofs.Files.Order
import EntityForge.Proofs.Files.Search
import EntityForge.Source.Project
import Mathlib

/-! # Finding the document of a project

The document of a project is the first of the files in its directory, at any depth, whose name ends
with a given text (`IsDocument`, `IsFirst`).  The search goes through the same files but reads the
text as the end of a path pattern, too: it refuses a text that makes no pattern, of the documents it
only sees those that match the pattern, and it breaks off where it cannot look (`search_findFile`).
So it finds the document exactly if the text makes a pattern, the search gets to its end and the
first document matches the pattern (`findsDocument_iff`).  Texts without slashes, brackets and
double stars do so where there is room (`isMatched_of_plain`, `IsRoomy`); a text with a bracket
mostly does not.
-/

namespace EntityForge

namespace Text

theorem hasPart_iff {t part : Text} : t.hasPart part = true ↔ part <:+: t := by
  induction t with
  | nil => simp [hasPart]
  | cons p rest ih =>
      rw [hasPart, Bool.or_eq_true, ih, List.infix_cons_iff, List.isPrefixOf_iff_prefix]

/-- The first piece of a text is at its beginning. -/
theorem prefix_of_splitOn {sep : CodePoint} {t first : Text} {pieces : List Text}
    (h : splitOn sep t = first :: pieces) : first <+: t := by
  induction t generalizing first pieces with
  | nil =>
      cases h
      exact List.prefix_rfl
  | cons p rest ih =>
      by_cases hp : p = sep
      · rw [hp, splitOn_cons_self] at h
        cases h
        exact List.nil_prefix
      · obtain ⟨piece, more, hRest, hSplit⟩ := splitOn_cons_of_ne hp rest
        rw [hSplit] at h
        cases h
        exact List.cons_prefix_cons.mpr ⟨rfl, ih hRest⟩

/-- Every piece of a text occurs in it. -/
theorem infix_of_mem_splitOn {sep : CodePoint} {t piece : Text} (h : piece ∈ splitOn sep t) :
    piece <:+: t := by
  induction t generalizing piece with
  | nil =>
      obtain rfl := List.mem_singleton.mp h
      exact List.infix_rfl
  | cons p rest ih =>
      by_cases hp : p = sep
      · rw [hp, splitOn_cons_self] at h
        rcases List.mem_cons.mp h with rfl | hMore
        · exact List.nil_infix
        · exact (ih hMore).trans (List.suffix_cons p rest).isInfix
      · obtain ⟨first, pieces, hRest, hSplit⟩ := splitOn_cons_of_ne hp rest
        rw [hSplit] at h
        rcases List.mem_cons.mp h with rfl | hMore
        · exact (prefix_of_splitOn hSplit).isInfix
        · refine (ih ?_).trans (List.suffix_cons p rest).isInfix
          rw [hRest]
          exact List.mem_cons_of_mem _ hMore

end Text

/-! ### The first of some paths -/

/-- The first of the paths of a kind: one that comes before all others, or none if there are no
such paths. -/
inductive IsFirst (kind : Path → Prop) : Option Path → Prop
  | none (h : ∀ path, ¬ kind path) : IsFirst kind none
  | some {path : Path} (h : kind path) (hLeast : ∀ other, kind other → path.key ≤ other.key) :
      IsFirst kind (some path)

namespace IsFirst

variable {kind other : Path → Prop} {found : Option Path}

theorem congr (h : IsFirst kind found) (hSame : ∀ path, kind path ↔ other path) :
    IsFirst other found := by
  have hKinds : kind = other := funext fun path => propext (hSame path)
  exact hKinds ▸ h

/-- Among paths with one root only one can be the first. -/
theorem unique {a b : Option Path} {root : Text} (hRoot : ∀ path, kind path → path.root = root)
    (ha : IsFirst kind a) (hb : IsFirst kind b) : a = b := by
  cases ha with
  | none hNone =>
      cases hb with
      | none => rfl
      | some h => exact absurd h (hNone _)
  | @some p hp hLeast =>
      cases hb with
      | none hNone => exact absurd hp (hNone p)
      | @some q hq hOther =>
          have hParts := Path.parts_eq_of_key_eq (le_antisymm (hLeast q hq) (hOther p hp))
          obtain ⟨root, parts⟩ := p
          obtain ⟨other, names⟩ := q
          simp only at hParts
          rw [hParts, show root = other from (hRoot _ hp).trans (hRoot _ hq).symm]

/-- What is the first of some paths is the first of those among them that are of another kind, if it
is of that kind itself. -/
theorem and (h : IsFirst kind found) (hOther : ∀ path, found = Option.some path → other path) :
    IsFirst (fun path => kind path ∧ other path) found := by
  cases h with
  | none hNone => exact .none fun path hPath => hNone path hPath.1
  | some hPath hLeast => exact .some ⟨hPath, hOther _ rfl⟩ fun p hp => hLeast p hp.1

end IsFirst

namespace Source

/-- Going through paths one by one leaves one of them that comes before all others. -/
theorem foldl_least (path : Path) (rest : List Path) :
    let least := rest.foldl (fun least p => if least.le p then least else p) path
    least ∈ path :: rest ∧ ∀ other ∈ path :: rest, least.key ≤ other.key := by
  induction rest generalizing path with
  | nil => simp
  | cons p rest ih =>
      rw [List.foldl_cons]
      by_cases hLe : path.le p = true
      · rw [if_pos hLe]
        obtain ⟨hMem, hLeast⟩ := ih path
        have hFirst := hLeast path List.mem_cons_self
        refine ⟨?_, ?_⟩
        · rcases List.mem_cons.mp hMem with h | h
          · rw [h]
            exact List.mem_cons_self
          · exact List.mem_cons_of_mem _ (List.mem_cons_of_mem _ h)
        · rintro other (_ | ⟨_, _ | ⟨_, hOther⟩⟩)
          · exact hFirst
          · exact hFirst.trans (Path.le_iff.mp hLe)
          · exact hLeast other (List.mem_cons_of_mem _ hOther)
      · rw [if_neg hLe]
        obtain ⟨hMem, hLeast⟩ := ih p
        have hFirst := hLeast p List.mem_cons_self
        refine ⟨List.mem_cons_of_mem _ hMem, ?_⟩
        rintro other (_ | ⟨_, hOther⟩)
        · exact hFirst.trans (le_of_not_ge (mt Path.le_iff.mpr hLe))
        · exact hLeast other hOther

theorem isFirst_first? (paths : List Path) : IsFirst (· ∈ paths) (first? paths) := by
  cases paths with
  | nil => exact .none (by simp)
  | cons path rest =>
      obtain ⟨hMem, hLeast⟩ := foldl_least path rest
      exact .some hMem hLeast

end Source

/-! ### Files below a directory -/

/-- The path leads from a directory down to a file. -/
def IsFileBelow (files : FileTree) (directory path : Path) : Prop :=
  ∃ names, names ≠ [] ∧ path = directory.below names ∧
    ∃ bytes, files.at? (directory.place.below names) = some (.file bytes)

theorem Location.isInside_iff {l base : Location} :
    l.isInside base = true ↔ ∃ names, names ≠ [] ∧ l = base.below names := by
  obtain ⟨above, names⟩ := l
  simp only [isInside, Bool.and_eq_true, decide_eq_true_eq, List.isPrefixOf_iff_prefix]
  constructor
  · rintro ⟨⟨rfl, more, rfl⟩, hLonger⟩
    refine ⟨more, ?_, rfl⟩
    rintro rfl
    simp at hLonger
  · rintro ⟨more, hMore, hPlace⟩
    cases hPlace
    exact ⟨⟨rfl, List.prefix_append _ _⟩, by simpa using List.length_pos_iff.mpr hMore⟩

/-- The machine over a file tree searches the tree. -/
theorem FileTree.search_searched (tree : FileTree) (limit : Nat) :
    (tree.searched limit).search = tree.search limit := rfl

namespace Source

variable {files : FileTree} {directory path : Path} {ending : Text} {limit : Nat}

/-- The files below a directory, in the order of creation. -/
def filesBelow (files : FileTree) (directory : Path) : List Path :=
  files.nodes.filterMap fun (place, node) =>
    match node with
    | .directory => none
    | .file _ =>
        if place.isInside directory.place then
          some (directory.below (place.names.drop directory.place.names.length))
        else none

theorem mem_filesBelow_iff (hTree : files.IsOrderly) :
    path ∈ filesBelow files directory ↔ IsFileBelow files directory path := by
  rw [filesBelow, List.mem_filterMap]
  constructor
  · rintro ⟨⟨place, node⟩, hMem, hPath⟩
    cases node with
    | directory => cases hPath
    | file bytes =>
        simp only [Option.ite_none_right_eq_some, Option.some.injEq] at hPath
        obtain ⟨hInside, rfl⟩ := hPath
        obtain ⟨names, hNames, rfl⟩ := Location.isInside_iff.mp hInside
        refine ⟨names, hNames, ?_, bytes, (hTree.at?_below_iff hNames).mpr hMem⟩
        simp [Location.below]
  · rintro ⟨names, hNames, rfl, bytes, hFile⟩
    refine ⟨(directory.place.below names, .file bytes), (hTree.at?_below_iff hNames).mp hFile, ?_⟩
    have hInside : (directory.place.below names).isInside directory.place = true :=
      Location.isInside_iff.mpr ⟨names, hNames, rfl⟩
    simp only [hInside, if_true]
    simp [Location.below]

/-! ### Documents -/

/-- A file below the directory of a project whose name ends with a text. -/
structure IsDocument (files : FileTree) (directory : Path) (ending : Text) (path : Path) :
    Prop where
  isFileBelow : IsFileBelow files directory path
  endsWith : ending <:+ path.name

/-- The text makes the end of a pattern: behind a star, two stars in a row are nowhere a part of
anything longer between slashes. -/
def IsPattern (ending : Text) : Prop :=
  ∀ part ∈ Text.splitOn '/' (.char '*' :: ending), text "**" <:+: part → part = text "**"

/-- A name matches the pattern that the text makes behind a star. Two stars alone match directories
only. -/
structure IsMatched (ending name : Text) : Prop where
  ne_star : ending ≠ text "*"
  isMatch : Glob.Matches (Glob.parse (.char '*' :: ending)) name

/-- The search breaks off. -/
def IsBrokenOff (files : FileTree) (limit : Nat) (directory : Path) (ending : Text)
    (cause : Breakdown) : Prop :=
  let pattern := CodePoint.char '*' :: ending
  files.BreaksOff limit (pattern.getLast? = some (.char '/'))
    (.anyDepth :: (Path.parse pattern).parts.map SearchStep.ofPart) directory cause

/-- What a search comes to: the first of the documents that match the pattern, or a breakdown if the
text makes none or the search breaks off. -/
inductive Search (files : FileTree) (limit : Nat) (directory : Path) (ending : Text) :
    Except Failure (Option Path) → Prop
  | found {found : Option Path} (hPattern : IsPattern ending)
      (hThrough : ∀ cause, ¬ IsBrokenOff files limit directory ending cause)
      (h : IsFirst (fun path => IsDocument files directory ending path ∧
        IsMatched ending path.name) found) : Search files limit directory ending (.ok found)
  | brokenOff {cause : Breakdown} (hPattern : IsPattern ending)
      (h : IsBrokenOff files limit directory ending cause) :
      Search files limit directory ending (.error (.breakdown cause))
  | refused (hPattern : ¬ IsPattern ending) :
      Search files limit directory ending (.error (.breakdown .recursivePattern))

/-- The search finds the document of the project: the first one, or none if there is none. -/
def FindsDocument (files : FileTree) (limit : Nat) (directory : Path) (ending : Text) : Prop :=
  ∃ found, findFile (files.searched limit) directory ending = .ok found ∧
    IsFirst (IsDocument files directory ending) found

/-- No document has a name that ends with a slash and more. -/
theorem slash_notMem_of_isDocument (hTree : files.IsOrderly)
    (h : IsDocument files directory ending path) : CodePoint.char '/' ∉ ending := by
  obtain ⟨names, hNames, rfl, bytes, hFile⟩ := h.isFileBelow
  have hName := (hTree.isName_of_at? hFile (List.getLast_mem hNames)).slash_notMem
  rw [← Path.name_below directory hNames] at hName
  exact fun hSlash => hName (h.endsWith.subset hSlash)

/-! ### The parts of the pattern -/

/-- A part between slashes that stands for something is a part of the path pattern, too. -/
theorem any_misusesDoubleStar_iff :
    (Path.parse (.char '*' :: ending)).parts.any SearchStep.misusesDoubleStar = true ↔
      ¬ IsPattern ending := by
  have hKept : ∀ part, text "**" <:+: part → part ≠ [] ∧ part ≠ text "." := by
    rintro part hBoth
    constructor <;> rintro rfl <;> revert hBoth <;> decide
  simp only [Path.parse, IsPattern, SearchStep.misusesDoubleStar, List.any_eq_true,
    List.mem_filter, Bool.and_eq_true, Text.hasPart_iff, decide_eq_true_eq, not_forall]
  constructor
  · rintro ⟨part, ⟨hPart, -⟩, hBoth, hOther⟩
    exact ⟨part, hPart, hBoth, hOther⟩
  · rintro ⟨part, hPart, hBoth, hOther⟩
    obtain ⟨hNil, hDot⟩ := hKept part hBoth
    exact ⟨part, ⟨hPart, by simp [hNil], hDot⟩, hBoth, hOther⟩

/-- Without a slash the pattern has one part, and that is not for directories only. -/
theorem parts_of_slash_notMem (hSlash : CodePoint.char '/' ∉ ending) :
    (Path.parse (.char '*' :: ending)).parts = [.char '*' :: ending] ∧
      (CodePoint.char '*' :: ending).getLast? ≠ some (.char '/') := by
  have hPattern : CodePoint.char '/' ∉ CodePoint.char '*' :: ending := by simp [hSlash]
  refine ⟨?_, fun hLast => hPattern (List.mem_of_getLast? hLast)⟩
  rw [Path.parse_of_slash_notMem hPattern]
  dsimp only
  rw [if_neg]
  rintro (hNil | hDot)
  · cases hNil
  · exact absurd (List.cons.inj hDot).1 (by decide)

theorem ofPart_star (h : ending ≠ text "*") :
    SearchStep.ofPart (.char '*' :: ending) = .wildcard (Glob.parse (.char '*' :: ending)) := by
  have hOther : CodePoint.char '*' :: ending ≠ text "**" := by
    intro hBoth
    exact h (List.cons.inj hBoth).2
  rw [SearchStep.ofPart, if_neg hOther, if_pos (by simp)]

/-! ### What the pattern leads to -/

/-- Stars alone lead to directories. -/
theorem not_leads_stars (hTree : files.IsOrderly) {isSlashed : Bool} :
    ¬ files.Leads isSlashed [.anyDepth, .anyDepth] directory path := by
  intro h
  cases h with
  | inside _ _ h =>
      cases h with
      | inside hHere hNames h =>
          cases h with
          | file hFile =>
              rw [(hHere.below hTree hNames).stat hNames] at hFile
              split at hFile <;> cases hFile

/-- A name pattern leads to the files below a directory whose names match it, unless their paths are
too long. -/
theorem leads_wildcard_iff (hTree : files.IsOrderly)
    (hDirectory : files.LeadsTo directory directory.place) {pattern : List GlobPart} :
    files.Leads false [.anyDepth, .wildcard pattern] directory path ↔
      IsFileBelow files directory path ∧ Glob.Matches pattern path.name ∧
        ¬ FileTree.IsTooLong path := by
  constructor
  · intro h
    cases h with
    | @inside _ _ _ l names hPath hNames h =>
        obtain rfl := hPath.unique hDirectory
        have hOn := hPath.below hTree hNames
        cases h with
        | @entry _ _ _ _ _ name node hHere hNode _ hMatch h =>
            obtain rfl := hHere.unique hOn
            cases h with
            | @file _ bytes hFile =>
                rw [← Location.below_singleton] at hNode
                rw [(hOn.below hTree hNode).stat hNode] at hFile
                rw [Path.below_below] at hFile ⊢
                split at hFile
                · cases hFile
                · next hShort =>
                    cases hFile
                    refine ⟨⟨names ++ [name], by simp, rfl, bytes, ?_⟩, ?_, hShort⟩
                    · rwa [Location.below_below] at hNode
                    · rwa [Path.name_below _ (by simp), List.getLast_append_singleton]
  · rintro ⟨⟨names, hNames, rfl, bytes, hFile⟩, hMatch, hShort⟩
    obtain ⟨front, last, rfl⟩ := (List.eq_nil_or_concat' names).resolve_left hNames
    rw [Path.name_below _ hNames, List.getLast_append_singleton] at hMatch
    have hLeads := (hDirectory.below hTree hFile).stat hFile
    rw [← Location.below_below] at hFile
    rw [if_neg hShort] at hLeads
    rw [← Path.below_below] at hLeads ⊢
    have hFront := hTree.at?_of_below (by simp) hFile
    exact .inside hDirectory hFront (.entry (hDirectory.below hTree hFront) hFile
      (by simp [FileTree.isOpen]) hMatch (.file hLeads))

/-- Parts of a pattern without slashes lead on by names without slashes. -/
theorem exists_below_of_leads (hTree : files.IsOrderly) {isSlashed : Bool}
    {steps : List SearchStep} (hSteps : ∀ n, .name n ∈ steps → CodePoint.char '/' ∉ n)
    (h : files.Leads isSlashed steps directory path) :
    (∃ names, path = directory.below names ∧ ∀ name ∈ names, CodePoint.char '/' ∉ name) ∧
      ∃ bytes, files.stat path = .ok (.file bytes) := by
  induction h with
  | file hFile => exact ⟨⟨[], by simp⟩, _, hFile⟩
  | @inside rest _ target l names hPath hNames _ ih =>
      obtain ⟨⟨more, hTarget, hMore⟩, hFile⟩ := ih fun n hn => hSteps n (List.mem_cons_of_mem _ hn)
      refine ⟨⟨names ++ more, by rw [hTarget, Path.below_below], ?_⟩, hFile⟩
      rw [List.forall_mem_append]
      exact ⟨fun name hName => (hTree.isName_of_at? hNames hName).slash_notMem, hMore⟩
  | @entry _ rest _ target l name node hPath hNode _ _ _ ih =>
      obtain ⟨⟨more, hTarget, hMore⟩, hFile⟩ := ih fun n hn => hSteps n (List.mem_cons_of_mem _ hn)
      refine ⟨⟨name :: more, by rw [hTarget, Path.below_below]; rfl, ?_⟩, hFile⟩
      rw [← Location.below_singleton] at hNode
      exact List.forall_mem_cons.mpr
        ⟨(hTree.isName_of_at? hNode List.mem_cons_self).slash_notMem, hMore⟩
  | @name n rest _ target node _ _ _ _ ih =>
      obtain ⟨⟨more, hTarget, hMore⟩, hFile⟩ := ih fun n hn => hSteps n (List.mem_cons_of_mem _ hn)
      refine ⟨⟨n :: more, by rw [hTarget, Path.below_below]; rfl, ?_⟩, hFile⟩
      exact List.forall_mem_cons.mpr ⟨hSteps n List.mem_cons_self, hMore⟩

/-- A pattern leads to no file whose name holds a slash. -/
theorem slash_notMem_of_leads (hTree : files.IsOrderly)
    (hDirectory : files.hasDirectory directory = .ok true) {pattern : Text} {isSlashed : Bool}
    (h : files.Leads isSlashed (.anyDepth :: (Path.parse pattern).parts.map SearchStep.ofPart)
      directory path) : CodePoint.char '/' ∉ path.name := by
  have hSteps : ∀ n, .name n ∈ .anyDepth :: (Path.parse pattern).parts.map SearchStep.ofPart →
      CodePoint.char '/' ∉ n := by
    intro n hn
    rcases List.mem_cons.mp hn with hAny | hPart
    · cases hAny
    obtain ⟨part, hPart, hName⟩ := List.mem_map.mp hPart
    rw [SearchStep.ofPart] at hName
    split at hName
    · cases hName
    split at hName
    · cases hName
    · cases hName
      exact Path.slash_notMem_of_mem_parts hPart
  obtain ⟨⟨names, rfl, hNames⟩, bytes, hFile⟩ := exists_below_of_leads hTree hSteps h
  have hSome : names ≠ [] := by
    rintro rfl
    rw [Path.below_nil] at hFile
    rw [FileTree.hasDirectory, FileTree.test, hFile] at hDirectory
    cases hDirectory
  rw [Path.name_below _ hSome]
  exact hNames _ (List.getLast_mem hSome)

/-- A file whose path is too long breaks off the search for names like its own. -/
theorem breaksOff_of_isTooLong (hTree : files.IsOrderly)
    (hDirectory : files.LeadsTo directory directory.place) {pattern : List GlobPart}
    (hFile : IsFileBelow files directory path) (hMatch : Glob.Matches pattern path.name)
    (hLong : FileTree.IsTooLong path) :
    files.BreaksOff limit false [.anyDepth, .wildcard pattern] directory
      (.file ⟨.nameTooLong, path⟩) := by
  obtain ⟨names, hNames, rfl, bytes, hFile⟩ := hFile
  obtain ⟨front, last, rfl⟩ := (List.eq_nil_or_concat' names).resolve_left hNames
  rw [Path.name_below _ hNames, List.getLast_append_singleton] at hMatch
  have hStat := (hDirectory.below hTree hFile).stat hFile
  rw [if_pos hLong, ← Path.below_below] at hStat
  rw [← Location.below_below] at hFile
  rw [← Path.below_below]
  have hFront := hTree.at?_of_below (by simp) hFile
  exact .inside hDirectory hFront (.entry (hDirectory.below hTree hFront) hFile
    (by simp [FileTree.isOpen]) hMatch (.file hStat))

/-- A search that gets to its end comes to the documents that match the pattern. -/
theorem leads_iff (hTree : files.IsOrderly)
    (hDirectory : files.hasDirectory directory = .ok true)
    (hThrough : ∀ cause, ¬ IsBrokenOff files limit directory ending cause) :
    (files.Leads ((CodePoint.char '*' :: ending).getLast? = some (.char '/'))
        (.anyDepth :: (Path.parse (.char '*' :: ending)).parts.map SearchStep.ofPart) directory
        path ∧ ending <:+ path.name) ↔
      IsDocument files directory ending path ∧ IsMatched ending path.name := by
  by_cases hSlash : CodePoint.char '/' ∈ ending
  · refine iff_of_false ?_ fun h => slash_notMem_of_isDocument hTree h.1 hSlash
    rintro ⟨hLeads, hEnds⟩
    exact slash_notMem_of_leads hTree hDirectory hLeads (hEnds.subset hSlash)
  obtain ⟨hParts, hLast⟩ := parts_of_slash_notMem hSlash
  simp only [IsBrokenOff, hParts, decide_eq_false hLast, List.map_singleton] at hThrough
  rw [hParts, decide_eq_false hLast, List.map_singleton]
  by_cases hStar : ending = text "*"
  · subst hStar
    exact iff_of_false (fun h => not_leads_stars hTree h.1) fun h => h.2.ne_star rfl
  rw [ofPart_star hStar] at hThrough ⊢
  have hPlace := FileTree.leadsTo_of_locate (FileTree.isDirectory_of_hasDirectory hDirectory).1
  rw [leads_wildcard_iff hTree hPlace]
  constructor
  · rintro ⟨⟨hFile, hMatch, -⟩, hEnds⟩
    exact ⟨⟨hFile, hEnds⟩, hStar, hMatch⟩
  · rintro ⟨⟨hFile, hEnds⟩, -, hMatch⟩
    refine ⟨⟨hFile, hMatch, fun hLong => ?_⟩, hEnds⟩
    exact hThrough _ (breaksOff_of_isTooLong hTree hPlace hFile hMatch hLong)

theorem search_findFile (hTree : files.IsOrderly)
    (hDirectory : files.hasDirectory directory = .ok true) :
    Search files limit directory ending (findFile (files.searched limit) directory ending) := by
  have hLooked : (files.searched limit).hasDirectory directory = .ok true :=
    congrArg (Except.mapError Breakdown.file) hDirectory
  rw [findFile, hLooked, FileTree.search_searched]
  dsimp only
  by_cases hPattern : IsPattern ending
  · have hParts := mt any_misusesDoubleStar_iff.mp (not_not.mpr hPattern)
    have hYields := FileTree.search_yields hTree limit hParts hDirectory
    cases hOutcome : files.search limit directory (.char '*' :: ending) with
    | error cause =>
        rw [hOutcome] at hYields
        cases hYields with
        | broken h => exact .brokenOff hPattern h
    | ok paths =>
        rw [hOutcome] at hYields
        obtain ⟨hThrough, hMem⟩ := hYields
        refine .found hPattern hThrough ((isFirst_first? _).congr fun path => ?_)
        rw [List.mem_filter, hMem, Text.endsWith, List.isSuffixOf_iff_suffix]
        exact leads_iff hTree hDirectory hThrough
  · have hRefused : files.search limit directory (.char '*' :: ending) =
        .error .recursivePattern :=
      if_pos (any_misusesDoubleStar_iff.mpr hPattern)
    rw [hRefused]
    exact .refused hPattern

/-! ### When the document is found -/

/-- Among files below a directory there is a first one of each kind, if there are any. -/
theorem exists_isFirst (hTree : files.IsOrderly) {kind : Path → Prop}
    (hBelow : ∀ path, kind path → IsFileBelow files directory path) :
    ∃ found, IsFirst kind found := by
  classical
  refine ⟨_, (isFirst_first? ((filesBelow files directory).filter (kind ·))).congr fun path => ?_⟩
  rw [List.mem_filter, mem_filesBelow_iff hTree, decide_eq_true_iff]
  exact and_iff_right_of_imp (hBelow path)

theorem IsDocument.root_eq (h : IsDocument files directory ending path) :
    path.root = directory.root := by
  obtain ⟨names, -, rfl, -⟩ := h.isFileBelow
  rfl

/-- The search finds the document exactly if the text makes a pattern, nothing breaks the search off
and the first document has a name that matches the pattern. -/
theorem findsDocument_iff (hTree : files.IsOrderly)
    (hDirectory : files.hasDirectory directory = .ok true) :
    FindsDocument files limit directory ending ↔
      IsPattern ending ∧ (∀ cause, ¬ IsBrokenOff files limit directory ending cause) ∧
        ∀ path, IsFirst (IsDocument files directory ending) (some path) →
          IsMatched ending path.name := by
  have hSearch : Search files limit directory ending
      (findFile (files.searched limit) directory ending) := search_findFile hTree hDirectory
  constructor
  · rintro ⟨found, hFound, hDocument⟩
    rw [hFound] at hSearch
    cases hSearch with
    | found hPattern hThrough hMatching =>
        refine ⟨hPattern, hThrough, fun path hPath => ?_⟩
        obtain rfl := hDocument.unique (fun _ h => h.root_eq) hPath
        cases hMatching with
        | some h => exact h.2
  · rintro ⟨hPattern, hThrough, hMatched⟩
    obtain ⟨first, hFirst⟩ := exists_isFirst hTree fun path
      (h : IsDocument files directory ending path) => h.isFileBelow
    refine ⟨first, ?_, hFirst⟩
    have hBoth := hFirst.and fun path hPath => hMatched path (hPath ▸ hFirst)
    generalize findFile (files.searched limit) directory ending = outcome at hSearch
    cases hSearch with
    | found _ _ hMatching => rw [hMatching.unique (fun _ h => h.1.root_eq) hBoth]
    | brokenOff _ hBroken => exact absurd hBroken (hThrough _)
    | refused hNot => exact absurd hPattern hNot

/-- A text without brackets and without two stars in a row, also behind a star, makes a pattern that
all names match that end with it. -/
theorem isMatched_of_plain (hBracket : CodePoint.char '[' ∉ ending)
    (hStars : ¬ text "**" <:+: .char '*' :: ending) :
    IsPattern ending ∧ ∀ name, ending <:+ name → IsMatched ending name := by
  refine ⟨fun part hPart hBoth => ?_, ?_⟩
  · exact absurd (hBoth.trans (Text.infix_of_mem_splitOn hPart)) hStars
  · rintro name ⟨front, rfl⟩
    refine ⟨?_, ?_⟩
    · rintro rfl
      exact hStars List.infix_rfl
    · rw [Glob.parse]
      exact .anyText front (Glob.matches_parse_self hBracket)

/-- There is room for a search from a path that leads to a place: no directory below stands too
deep, and no path there is too long. -/
structure IsRoomy (files : FileTree) (limit : Nat) (path : Path) (l : Location) : Prop where
  shallow : ∀ names, files.at? (l.below names) = some .directory → names.length < limit
  short : ∀ names node, files.at? (l.below names) = some node →
    ¬ FileTree.IsTooLong (path.below names)

namespace IsRoomy

variable {l : Location} {isSlashed : Bool} {cause : Breakdown}

theorem below (h : IsRoomy files limit path l) (names : List Text) :
    IsRoomy files limit (path.below names) (l.below names) where
  shallow := by
    intro more hMore
    rw [Location.below_below] at hMore
    have hBoth := h.shallow _ hMore
    rw [List.length_append] at hBoth
    omega
  short := by
    intro more node hMore
    rw [Location.below_below] at hMore
    rw [Path.below_below]
    exact h.short _ _ hMore

theorem not_breaksOff_nil (h : IsRoomy files limit path l) (hPath : files.LeadsTo path l)
    {node : FileNode} (hNode : files.at? l = some node) :
    ¬ files.BreaksOff limit isSlashed [] path cause := by
  intro hBroken
  have hShort : ¬ FileTree.IsTooLong path := by
    have hHere := h.short [] node
    rw [Location.below_nil, Path.below_nil] at hHere
    exact hHere hNode
  cases hBroken with
  | file hStat =>
      rw [hPath.stat hNode, if_neg hShort] at hStat
      cases hStat

/-- Going on from a directory and all directories below it meets no obstacle of its own. -/
theorem not_breaksOff_anyDepth (h : IsRoomy files limit path l)
    (hPath : files.LeadsTo path l) {rest : List SearchStep}
    (hRest : ∀ names, files.at? (l.below names) = some .directory →
      ¬ files.BreaksOff limit isSlashed rest (path.below names) cause) :
    ¬ files.BreaksOff limit isSlashed (.anyDepth :: rest) path cause := by
  intro hBroken
  cases hBroken with
  | deep hOther hNames hDeep =>
      obtain rfl := hPath.unique hOther
      exact absurd (h.shallow _ hNames) (not_lt.mpr hDeep)
  | directory hOther hNames hLong =>
      obtain rfl := hPath.unique hOther
      exact h.short _ _ hNames hLong
  | inside hOther hNames hBroken =>
      obtain rfl := hPath.unique hOther
      exact hRest _ hNames hBroken

theorem not_breaksOff_wildcard (hTree : files.IsOrderly) (h : IsRoomy files limit path l)
    (hPath : files.LeadsTo path l) (hDirectory : files.at? l = some .directory)
    (pattern : List GlobPart) :
    ¬ files.BreaksOff limit isSlashed [.wildcard pattern] path cause := by
  intro hBroken
  cases hBroken with
  | entries hLong =>
      have hHere := h.short [] .directory
      rw [Location.below_nil, Path.below_nil] at hHere
      exact hHere hDirectory hLong
  | entry hOther hNode _ _ hBroken =>
      obtain rfl := hPath.unique hOther
      rw [← Location.below_singleton] at hNode
      exact (h.below _).not_breaksOff_nil (hPath.below hTree hNode) hNode hBroken

/-- There is room if there is for every node of the tree. -/
theorem of_nodes (hTree : files.IsOrderly) (hHere : 0 < limit ∧ ¬ FileTree.IsTooLong path)
    (hNodes : ∀ entry ∈ files.nodes, entry.1.names.length < limit ∧
      ¬ FileTree.IsTooLong (path.below (entry.1.names.drop l.names.length))) :
    IsRoomy files limit path l := by
  have hBelow : ∀ names node, files.at? (l.below names) = some node →
      names.length < limit ∧ ¬ FileTree.IsTooLong (path.below names) := by
    intro names node hNode
    by_cases hNone : names = []
    · subst hNone
      rw [Path.below_nil]
      exact hHere
    · obtain ⟨hLength, hShort⟩ := hNodes _ ((hTree.at?_below_iff hNone).mp hNode)
      rw [Location.below, List.length_append] at hLength
      rw [Location.below, List.drop_left] at hShort
      exact ⟨by omega, hShort⟩
  exact ⟨fun names hNode => (hBelow names _ hNode).1, fun names node hNode =>
    (hBelow names node hNode).2⟩

end IsRoomy

/-- Where there is room, nothing breaks off the search for a text without a slash. -/
theorem not_isBrokenOff (hTree : files.IsOrderly)
    (hDirectory : files.hasDirectory directory = .ok true)
    (hSlash : CodePoint.char '/' ∉ ending) (hRoom : IsRoomy files limit directory directory.place)
    (cause : Breakdown) : ¬ IsBrokenOff files limit directory ending cause := by
  have hPlace := FileTree.leadsTo_of_locate (FileTree.isDirectory_of_hasDirectory hDirectory).1
  obtain ⟨hParts, hLast⟩ := parts_of_slash_notMem hSlash
  simp only [IsBrokenOff, hParts, decide_eq_false hLast, List.map_singleton]
  refine hRoom.not_breaksOff_anyDepth hPlace fun names hNames => ?_
  have hOn := hPlace.below hTree hNames
  by_cases hStar : ending = text "*"
  · subst hStar
    refine (hRoom.below names).not_breaksOff_anyDepth hOn fun more hMore => ?_
    exact ((hRoom.below names).below more).not_breaksOff_nil (hOn.below hTree hMore) hMore
  · rw [ofPart_star hStar]
    exact (hRoom.below names).not_breaksOff_wildcard hTree hOn hNames _

/-- The search gives the first of the documents that match the pattern; it refuses a text that makes
none, and breaks off where it cannot look. It finds the document exactly if the text makes a
pattern, nothing breaks the search off and the first document matches the pattern; and in any case
if there is room, the text has no slash and no bracket and there are no two stars in a row, also
behind a star. -/
theorem findFile_outcome (hTree : files.IsOrderly)
    (hDirectory : files.hasDirectory directory = .ok true) (limit : Nat) (ending : Text) :
    Search files limit directory ending (findFile (files.searched limit) directory ending) ∧
      (FindsDocument files limit directory ending ↔
        IsPattern ending ∧ (∀ cause, ¬ IsBrokenOff files limit directory ending cause) ∧
          ∀ path, IsFirst (IsDocument files directory ending) (some path) →
            IsMatched ending path.name) ∧
      (IsRoomy files limit directory directory.place → CodePoint.char '/' ∉ ending →
        CodePoint.char '[' ∉ ending → ¬ text "**" <:+: .char '*' :: ending →
        FindsDocument files limit directory ending) := by
  have hIff : FindsDocument files limit directory ending ↔ _ := findsDocument_iff hTree hDirectory
  refine ⟨search_findFile hTree hDirectory, hIff, fun hRoom hSlash hBracket hStars => hIff.mpr ?_⟩
  obtain ⟨hPattern, hMatched⟩ := isMatched_of_plain hBracket hStars
  refine ⟨hPattern, not_isBrokenOff hTree hDirectory hSlash hRoom, fun path hFirst => ?_⟩
  cases hFirst with
  | some h => exact hMatched _ h.endsWith

/-- A project with documents in several directories. -/
def nestedTree : FileTree := ⟨[
  (⟨0, [text "src"]⟩, .directory),
  (⟨0, [text "src", text "beta"]⟩, .directory),
  (⟨0, [text "src", text "beta", text "dbconfig.json"]⟩, .file []),
  (⟨0, [text "src", text "alpha-1"]⟩, .directory),
  (⟨0, [text "src", text "alpha-1", text "dbconfig.json"]⟩, .file []),
  (⟨0, [text "src", text "alpha"]⟩, .directory),
  (⟨0, [text "src", text "alpha", text "shop.dbconfig.json"]⟩, .file []),
  (⟨0, [text "dbconfig.json"]⟩, .file [])]⟩

/-- The search finds the document, though among the texts of paths that of another one would come
first. -/
theorem findFile_outcome_nestedTree :
    nestedTree.IsOrderly ∧ nestedTree.hasDirectory ⟨[], [text "src"]⟩ = .ok true ∧
      IsFirst (IsDocument nestedTree ⟨[], [text "src"]⟩ (text "dbconfig.json"))
        (some ⟨[], [text "src", text "alpha", text "shop.dbconfig.json"]⟩) := by
  have hTree : nestedTree.IsOrderly :=
    ⟨by decide +kernel, by decide +kernel, by decide +kernel⟩
  have hDirectory : nestedTree.hasDirectory ⟨[], [text "src"]⟩ = .ok true := by decide +kernel
  have hRoom : IsRoomy nestedTree 4 ⟨[], [text "src"]⟩ (Path.place ⟨[], [text "src"]⟩) :=
    .of_nodes hTree (by decide +kernel) (by decide +kernel)
  have hFile : findFile (nestedTree.searched 4) ⟨[], [text "src"]⟩ (text "dbconfig.json") =
      .ok (some ⟨[], [text "src", text "alpha", text "shop.dbconfig.json"]⟩) := by cbv
  obtain ⟨found, hFound, hFirst⟩ :
      FindsDocument nestedTree 4 ⟨[], [text "src"]⟩ (text "dbconfig.json") :=
    (findFile_outcome hTree hDirectory 4 _).2.2 hRoom (by decide) (by decide) (by decide +kernel)
  rw [hFile] at hFound
  cases hFound
  exact ⟨hTree, hDirectory, hFirst⟩

/-- A project with documents that have names like patterns. -/
def patternTree : FileTree := ⟨[
  (⟨0, [text "[a].json"]⟩, .file []),
  (⟨0, [text "*"]⟩, .file []),
  (⟨0, [text "a**b"]⟩, .file []),
  (⟨0, [text "x"]⟩, .directory)]⟩

/-- A name that no file can have, in a directory. -/
def longName : Text := text "x/" ++ List.replicate 300 (.char 'a')

/-- A name that is too long breaks off the search for it. -/
theorem isBrokenOff_longName :
    IsBrokenOff patternTree 9 {} longName
      (.file ⟨.nameTooLong, ⟨[], [text "x", List.replicate 300 (.char 'a')]⟩⟩) := by
  have hParts : (Path.parse (.char '*' :: longName)).parts =
      [text "*x", List.replicate 300 (.char 'a')] := by decide +kernel
  have hFirst : SearchStep.ofPart (text "*x") = .wildcard [.anyText, .literal (.char 'x')] := by cbv
  have hSecond : SearchStep.ofPart (List.replicate 300 (.char 'a')) =
      .name (List.replicate 300 (.char 'a')) := by decide +kernel
  have hMatch : Glob.Matches [.anyText, .literal (.char 'x')] (text "x") :=
    .anyText [] (.code (by simp) rfl .nil)
  have hHere : patternTree.LeadsTo {} {} := ⟨rfl, rfl⟩
  simp only [IsBrokenOff, hParts, List.map_cons, List.map_nil, hFirst, hSecond]
  have hRoot : patternTree.at? (Location.below {} []) = some .directory := by decide
  have hNode : patternTree.at? (Location.child {} (text "x")) = some .directory := by decide
  exact .inside hHere hRoot (.entry hHere hNode (by decide +kernel) hMatch
    (.look (by decide +kernel) (by decide +kernel)))

/-- Each of the files is the first document with a name that ends like its own, and the search for
it gives nothing or breaks down. It breaks down, too, where there can be no document. -/
theorem findFile_misses_patternTree :
    patternTree.IsOrderly ∧ patternTree.hasDirectory {} = .ok true ∧
      (∀ name ∈ [text "[a].json", text "*", text "a**b"],
        IsDocument patternTree {} name ⟨[], [name]⟩ ∧ ¬ FindsDocument patternTree 9 {} name) ∧
      findFile (patternTree.searched 9) {} (text "[a].json") = .ok none ∧
      findFile (patternTree.searched 9) {} (text "*") = .ok none ∧
      findFile (patternTree.searched 9) {} (text "a**b") =
        .error (.breakdown .recursivePattern) ∧
      ∃ cause, findFile (patternTree.searched 9) {} longName = .error (.breakdown cause) := by
  have hTree : patternTree.IsOrderly := ⟨by decide +kernel, by decide +kernel, by decide +kernel⟩
  have hDirectory : patternTree.hasDirectory {} = .ok true := by decide +kernel
  have hBracket : findFile (patternTree.searched 9) {} (text "[a].json") = .ok none := by cbv
  have hStar : findFile (patternTree.searched 9) {} (text "*") = .ok none := by cbv
  have hStars : findFile (patternTree.searched 9) {} (text "a**b") =
      .error (.breakdown .recursivePattern) := by cbv
  have hLong : ∃ cause, findFile (patternTree.searched 9) {} longName =
      .error (.breakdown cause) := by
    have hSearch : Search patternTree 9 {} longName
        (findFile (patternTree.searched 9) {} longName) := search_findFile hTree hDirectory
    generalize findFile (patternTree.searched 9) {} longName = outcome at hSearch
    cases hSearch with
    | found _ hThrough => exact absurd isBrokenOff_longName (hThrough _)
    | brokenOff => exact ⟨_, rfl⟩
    | refused => exact ⟨_, rfl⟩
  have hDocument : ∀ name ∈ [text "[a].json", text "*", text "a**b"],
      IsDocument patternTree {} name ⟨[], [name]⟩ := by
    intro name hName
    refine ⟨⟨[name], by simp, rfl, [], ?_⟩, List.suffix_rfl⟩
    revert name
    decide +kernel
  refine ⟨hTree, hDirectory, fun name hName => ?_, hBracket, hStar, hStars, hLong⟩
  refine ⟨hDocument name hName, ?_⟩
  rintro ⟨found, hFound, hFirst⟩
  have hNone : ∀ found, findFile (patternTree.searched 9) {} name = .ok found → found = none := by
    simp only [List.mem_cons, List.not_mem_nil, or_false] at hName
    rcases hName with rfl | rfl | rfl <;> simp [hBracket, hStar, hStars]
  obtain rfl := hNone found hFound
  cases hFirst with
  | none h => exact h _ (hDocument name hName)

end Source

end EntityForge
