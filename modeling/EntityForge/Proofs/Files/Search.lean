import EntityForge.Files.Search
import EntityForge.Proofs.Files.Places
import EntityForge.Proofs.FirstFault
import Mathlib.Data.List.Induction

/-! # What a search finds

A pattern matches a name if the name falls into pieces, one for each part of the pattern: any text
for a star, a single code point for every other part (`Glob.Matches`).  The matcher tries the pieces
of a star one after the other and finds such a division if there is one (`accepts_iff_matches`).  A
text without brackets matches itself as a pattern (`matches_parse_self`): a star and a question mark
stand for themselves among others.

A search along a path pattern comes to the files to which the parts of the pattern lead (`Leads`)
unless something on its way breaks it off (`BreaksOff`): a path that is too long to be looked at, or
a directory that stands too deep (`searchAlong_yields`).  The tree is one as a file system has it
(`IsOrderly`).
-/

namespace EntityForge

namespace Glob

/-- A name falls into pieces, one for each part of a pattern. -/
inductive Matches : List GlobPart → Text → Prop
  | nil : Matches [] []
  | anyText {parts : List GlobPart} {rest : Text} (piece : Text) (h : Matches parts rest) :
      Matches (.anyText :: parts) (piece ++ rest)
  | code {part : GlobPart} {parts : List GlobPart} {p : CodePoint} {rest : Text}
      (hPart : part ≠ .anyText) (hCode : isMatch part p = true) (h : Matches parts rest) :
      Matches (part :: parts) (p :: rest)

theorem matches_anyText_iff {parts : List GlobPart} {name : Text} :
    Matches (.anyText :: parts) name ↔ ∃ piece rest, name = piece ++ rest ∧ Matches parts rest := by
  constructor
  · rintro (_ | ⟨piece, h⟩ | ⟨hPart, -, -⟩)
    · exact ⟨piece, _, rfl, h⟩
    · exact absurd rfl hPart
  · rintro ⟨piece, rest, rfl, h⟩
    exact .anyText piece h

theorem matches_code_iff {part : GlobPart} (hPart : part ≠ .anyText) {parts : List GlobPart}
    {name : Text} :
    Matches (part :: parts) name ↔
      ∃ p rest, name = p :: rest ∧ isMatch part p = true ∧ Matches parts rest := by
  constructor
  · rintro (_ | _ | ⟨-, hCode, h⟩)
    · exact absurd rfl hPart
    · exact ⟨_, _, rfl, hCode, h⟩
  · rintro ⟨p, rest, rfl, hCode, h⟩
    exact .code hPart hCode h

/-- A star stands for nothing, or for the first code point among others. -/
theorem matches_anyText_cons_iff {parts : List GlobPart} {p : CodePoint} {name : Text} :
    Matches (.anyText :: parts) (p :: name) ↔
      Matches parts (p :: name) ∨ Matches (.anyText :: parts) name := by
  constructor
  · intro h
    obtain ⟨piece, rest, hName, hRest⟩ := matches_anyText_iff.mp h
    cases piece with
    | nil => exact .inl (hName ▸ hRest)
    | cons q piece =>
        rw [List.cons_append, List.cons.injEq] at hName
        exact .inr (hName.2 ▸ .anyText piece hRest)
  · rintro (h | h)
    · exact .anyText [] h
    · obtain ⟨piece, rest, rfl, hRest⟩ := matches_anyText_iff.mp h
      exact .anyText (p :: piece) hRest

theorem accepts_iff_matches (parts : List GlobPart) (name : Text) :
    accepts parts name = true ↔ Matches parts name := by
  induction parts, name using accepts.induct with
  | case1 name =>
      rw [accepts, List.isEmpty_iff]
      constructor
      · rintro rfl
        exact .nil
      · rintro ⟨⟩
        rfl
  | case2 parts ih =>
      rw [accepts, ih, matches_anyText_iff]
      simp
  | case3 parts p name ihHere ihLater =>
      rw [accepts, Bool.or_eq_true, ihHere, ihLater, matches_anyText_cons_iff]
  | case4 part parts hPart =>
      rw [accepts, matches_code_iff hPart]
      · simp
      · exact hPart
  | case5 part parts p name hPart ih =>
      rw [accepts, Bool.and_eq_true, ih, matches_code_iff hPart]
      · simp
      · exact hPart

/-- A text without brackets is among the names that it matches as a pattern. -/
theorem matches_parse_self {t : Text} (h : CodePoint.char '[' ∉ t) : Matches (parse t) t := by
  induction t using parse.induct with
  | case1 =>
      rw [parse]
      exact .nil
  | case2 rest ih =>
      rw [parse]
      exact .anyText [.char '*'] (ih (List.not_mem_of_not_mem_cons h))
  | case3 rest ih =>
      rw [parse]
      exact .code (by simp) rfl (ih (List.not_mem_of_not_mem_cons h))
  | case4 rest hBracket ih => exact absurd List.mem_cons_self h
  | case5 rest inside after hBracket _ ih => exact absurd List.mem_cons_self h
  | case6 p rest hStar hMark hBracket ih =>
      rw [parse]
      · exact .code (by simp) (by simp [isMatch]) (ih (List.not_mem_of_not_mem_cons h))
      all_goals assumption

end Glob

/-! ### Orderly trees -/

/-- A name that a file or a directory can have. -/
structure IsName (name : Text) : Prop where
  ne_nil : name ≠ []
  ne_dot : name ≠ text "."
  ne_up : name ≠ text ".."
  slash_notMem : CodePoint.char '/' ∉ name
  isShort : FileTree.byteLength name ≤ FileTree.maxNameBytes

instance (name : Text) : Decidable (IsName name) :=
  decidable_of_iff
    (name ≠ [] ∧ name ≠ text "." ∧ name ≠ text ".." ∧ CodePoint.char '/' ∉ name ∧
      FileTree.byteLength name ≤ FileTree.maxNameBytes)
    ⟨fun ⟨hNil, hDot, hUp, hSlash, hShort⟩ => ⟨hNil, hDot, hUp, hSlash, hShort⟩,
      fun h => ⟨h.ne_nil, h.ne_dot, h.ne_up, h.slash_notMem, h.isShort⟩⟩

/-- The place to which names lead down from a place. -/
def Location.below (l : Location) (names : List Text) : Location :=
  { l with names := l.names ++ names }

@[simp]
theorem Location.below_nil (l : Location) : l.below [] = l := by simp [below]

theorem Location.below_cons (l : Location) (name : Text) (names : List Text) :
    l.below (name :: names) = (l.child name).below names := by
  simp [below, child]

theorem Location.below_singleton (l : Location) (name : Text) : l.below [name] = l.child name :=
  rfl

theorem Location.below_below (l : Location) (names more : List Text) :
    (l.below names).below more = l.below (names ++ more) := by
  simp [below]

@[simp]
theorem Path.below_nil (path : Path) : path.below [] = path := by simp [below]

theorem Path.below_below (path : Path) (names more : List Text) :
    (path.below names).below more = path.below (names ++ more) := by
  simp [below]

theorem Path.name_below (directory : Path) {names : List Text} (h : names ≠ []) :
    (directory.below names).name = names.getLast h := by
  rw [name, below, List.getLast?_append_of_ne_nil _ h, List.getLast?_eq_some_getLast h,
    Option.getD_some]

namespace FileTree

/-- A tree as a file system has it: there is one node at a place, each in a directory, and each has
a name. -/
structure IsOrderly (tree : FileTree) : Prop where
  nodup : (tree.nodes.map Prod.fst).Nodup
  parent : ∀ entry ∈ tree.nodes, tree.at? entry.1.parent = some .directory
  isName : ∀ entry ∈ tree.nodes, ∀ name ∈ entry.1.names, IsName name

variable {tree : FileTree} {l : Location} {path target : Path} {names more : List Text}
  {name : Text} {node : FileNode}

namespace IsOrderly

/-- In an orderly tree, what is listed at a place is what is there. -/
theorem lookup_eq_some_iff (h : tree.IsOrderly) :
    tree.nodes.lookup l = some node ↔ (l, node) ∈ tree.nodes := by
  rw [List.lookup_eq_some_iff]
  constructor
  · rintro ⟨before, after, hNodes, -⟩
    rw [hNodes]
    exact List.mem_append_right _ List.mem_cons_self
  · intro hMem
    obtain ⟨before, after, hNodes⟩ := List.append_of_mem hMem
    refine ⟨before, after, hNodes, fun entry hEntry => ?_⟩
    have hPlaces := h.nodup
    rw [hNodes, List.map_append, List.nodup_append] at hPlaces
    have hNe := hPlaces.2.2 entry.1 (List.mem_map_of_mem hEntry) l (by simp)
    simpa using Ne.symm hNe

theorem at?_below_iff (h : tree.IsOrderly) (hNames : names ≠ []) :
    tree.at? (l.below names) = some node ↔ (l.below names, node) ∈ tree.nodes := by
  have hSome : (l.below names).names.isEmpty = false := by simp [Location.below, hNames]
  rw [at?, hSome, if_neg Bool.false_ne_true, h.lookup_eq_some_iff]

theorem isName_of_at? (h : tree.IsOrderly) (hNode : tree.at? (l.below names) = some node)
    (hName : name ∈ names) : IsName name :=
  h.isName _ ((h.at?_below_iff (List.ne_nil_of_mem hName)).mp hNode) name
    (List.mem_append_right _ hName)

/-- What has something below it is a directory. -/
theorem at?_of_below (h : tree.IsOrderly) (hMore : more ≠ [])
    (hNode : tree.at? (l.below more) = some node) : tree.at? l = some .directory := by
  induction more using List.reverseRecOn generalizing node with
  | nil => exact absurd rfl hMore
  | append_singleton front last ih =>
      have hParent := h.parent _ ((h.at?_below_iff hMore).mp hNode)
      have hFront : (l.below (front ++ [last])).parent = l.below front := by
        simp [Location.parent, Location.below, ← List.append_assoc]
      rw [hFront] at hParent
      by_cases hNone : front = []
      · rwa [hNone, Location.below_nil] at hParent
      · exact ih hNone hParent

theorem at?_child_of_below (h : tree.IsOrderly)
    (hNode : tree.at? (l.below (name :: names)) = some .directory) :
    tree.at? (l.child name) = some .directory := by
  rw [Location.below_cons] at hNode
  by_cases hNone : names = []
  · rwa [hNone, Location.below_nil] at hNode
  · exact h.at?_of_below hNone hNode

/-- Names lead down to what is there. -/
theorem walk_below (h : tree.IsOrderly) (hNode : tree.at? (l.below names) = some node) :
    tree.walk l names = .ok (l.below names) := by
  induction names generalizing l with
  | nil => simp [walk]
  | cons name rest ih =>
      have hDirectory := h.at?_of_below (List.cons_ne_nil name rest) hNode
      have hName := h.isName_of_at? hNode List.mem_cons_self
      rw [Location.below_cons] at hNode ⊢
      have hThere : (tree.at? (l.child name)).isNone = false := by
        by_cases hNone : rest = []
        · rw [hNone, Location.below_nil] at hNode
          rw [hNode]
          rfl
        · rw [h.at?_of_below hNone hNode]
          rfl
      simp only [walk, hDirectory, if_neg hName.ne_up, if_neg (not_lt.mpr hName.isShort), hThere,
        Bool.false_eq_true, if_false]
      exact ih hNode

end IsOrderly

/-! ### Paths that lead to places -/

/-- A path leads to a place, however long it is. -/
structure LeadsTo (tree : FileTree) (path : Path) (l : Location) : Prop where
  isRelative : path.isRelative = true
  walk : tree.walk {} path.parts = .ok l

/-- The path is too long to be looked at. -/
def IsTooLong (path : Path) : Prop := maxPathBytes < byteLength path.toText

instance : DecidablePred IsTooLong := fun _ => Nat.decLt _ _

namespace LeadsTo

theorem locate (h : tree.LeadsTo path l) :
    tree.locate path = if IsTooLong path then .error .nameTooLong else .ok l := by
  have hRoot : ¬ (!path.isRelative) = true := by simp [h.isRelative]
  rw [FileTree.locate, if_neg hRoot, h.walk]
  rfl

theorem stat (h : tree.LeadsTo path l) (hNode : tree.at? l = some node) :
    tree.stat path = if IsTooLong path then .error .nameTooLong else .ok node := by
  rw [FileTree.stat, h.locate]
  split
  · rfl
  · simp [bind, Except.bind, hNode]

theorem below (hTree : tree.IsOrderly) (h : tree.LeadsTo path l)
    (hNode : tree.at? (l.below names) = some node) :
    tree.LeadsTo (path.below names) (l.below names) where
  isRelative := h.isRelative
  walk := by
    rw [Path.below, walk_append, h.walk]
    exact hTree.walk_below hNode

theorem unique {other : Location} (h : tree.LeadsTo path l) (hOther : tree.LeadsTo path other) :
    l = other :=
  Except.ok.inj (h.walk.symm.trans hOther.walk)

end LeadsTo

theorem leadsTo_of_locate (h : tree.locate path = .ok l) : tree.LeadsTo path l :=
  ⟨(locate_eq_ok_iff.mp h).2.1, (locate_eq_ok_iff.mp h).2.2⟩

theorem leadsTo_of_stat (h : tree.stat path = .ok node) :
    ∃ l, tree.LeadsTo path l ∧ tree.at? l = some node := by
  rw [stat] at h
  obtain ⟨l, hLocate, hNode⟩ := bind_eq_ok_iff.mp h
  refine ⟨l, leadsTo_of_locate hLocate, ?_⟩
  split at hNode
  · next hThere =>
      cases hNode
      exact hThere
  · cases hNode

/-- A question has an answer unless the path is too long. -/
theorem mapError_test (tree : FileTree) (path : Path) (question : FileNode → Bool) :
    (tree.stat path = .error .nameTooLong ∧
      (tree.test path question).mapError Breakdown.file =
        .error (.file ⟨.nameTooLong, path⟩)) ∨
    tree.stat path ≠ .error .nameTooLong ∧ ∃ answer,
      (tree.test path question).mapError Breakdown.file = .ok answer ∧
      (answer = true ↔ ∃ node, tree.stat path = .ok node ∧ question node = true) := by
  rw [test]
  cases hStat : tree.stat path with
  | ok node => exact .inr ⟨by simp, question node, rfl, by simp⟩
  | error error =>
      by_cases hLong : error = .nameTooLong
      · subst hLong
        exact .inl ⟨rfl, rfl⟩
      · exact .inr ⟨by simp [hLong], false, by cases error <;> first | rfl | exact absurd rfl hLong,
          by simp⟩

theorem mem_filterMap_entryIn? (hTree : tree.IsOrderly) :
    (name, node) ∈ tree.nodes.filterMap (entryIn? l) ↔ tree.at? (l.child name) = some node := by
  rw [← Location.below_singleton, hTree.at?_below_iff (by simp), List.mem_filterMap]
  constructor
  · rintro ⟨⟨place, there⟩, hMem, hEntry⟩
    rw [entryIn?] at hEntry
    split at hEntry
    · split at hEntry
      · next hPlace =>
          cases hEntry
          rw [Location.below_singleton, hPlace]
          exact hMem
      · cases hEntry
    · cases hEntry
  · intro hMem
    refine ⟨_, hMem, ?_⟩
    simp [entryIn?, Location.below, Location.child]

/-- What is right inside a directory is listed unless its path is too long. -/
theorem entries_of_leadsTo (hTree : tree.IsOrderly) (h : tree.LeadsTo path l) :
    (IsTooLong path ∧ tree.entries path = .error (.file ⟨.nameTooLong, path⟩)) ∨
    ¬ IsTooLong path ∧ ∃ entries, tree.entries path = .ok entries ∧
      ∀ name node, (name, node) ∈ entries ↔ tree.at? (l.child name) = some node := by
  rw [entries, h.locate]
  by_cases hLong : IsTooLong path
  · rw [if_pos hLong]
    exact .inl ⟨hLong, rfl⟩
  · rw [if_neg hLong]
    exact .inr ⟨hLong, _, rfl, fun _ _ => mem_filterMap_entryIn? hTree⟩

/-! ### Where a search leads -/

/-- The parts of a pattern lead from a path to a file. -/
inductive Leads (tree : FileTree) (isSlashed : Bool) : List SearchStep → Path → Path → Prop
  | file {path : Path} {bytes : Bytes} (h : tree.stat path = .ok (.file bytes)) :
      Leads tree isSlashed [] path path
  | inside {rest : List SearchStep} {path target : Path} {l : Location} {names : List Text}
      (hPath : tree.LeadsTo path l) (hDirectory : tree.at? (l.below names) = some .directory)
      (h : Leads tree isSlashed rest (path.below names) target) :
      Leads tree isSlashed (.anyDepth :: rest) path target
  | entry {pattern : List GlobPart} {rest : List SearchStep} {path target : Path} {l : Location}
      {name : Text} {node : FileNode} (hPath : tree.LeadsTo path l)
      (hNode : tree.at? (l.child name) = some node)
      (hOpen : isOpen rest.isEmpty isSlashed node = true) (hMatch : Glob.Matches pattern name)
      (h : Leads tree isSlashed rest (path.below [name]) target) :
      Leads tree isSlashed (.wildcard pattern :: rest) path target
  | name {n : Text} {rest : List SearchStep} {path target : Path} {node : FileNode}
      (hName : nameFault? n = none) (hNode : tree.stat (path.below [n]) = .ok node)
      (hOpen : isOpen rest.isEmpty isSlashed node = true)
      (h : Leads tree isSlashed rest (path.below [n]) target) :
      Leads tree isSlashed (.name n :: rest) path target

/-- A search along the parts of a pattern from a path breaks off: directories stand too deep, or it
comes to a path that is too long. -/
inductive BreaksOff (tree : FileTree) (limit : Nat) (isSlashed : Bool) :
    List SearchStep → Path → Breakdown → Prop
  | file {path : Path} (h : tree.stat path = .error .nameTooLong) :
      BreaksOff tree limit isSlashed [] path (.file ⟨.nameTooLong, path⟩)
  | deep {rest : List SearchStep} {path : Path} {l : Location} {names : List Text}
      (hPath : tree.LeadsTo path l) (hDirectory : tree.at? (l.below names) = some .directory)
      (hDeep : limit ≤ names.length) :
      BreaksOff tree limit isSlashed (.anyDepth :: rest) path .tooDeep
  | directory {rest : List SearchStep} {path : Path} {l : Location} {names : List Text}
      (hPath : tree.LeadsTo path l) (hDirectory : tree.at? (l.below names) = some .directory)
      (hLong : IsTooLong (path.below names)) :
      BreaksOff tree limit isSlashed (.anyDepth :: rest) path
        (.file ⟨.nameTooLong, path.below names⟩)
  | inside {rest : List SearchStep} {path : Path} {l : Location} {names : List Text}
      {cause : Breakdown} (hPath : tree.LeadsTo path l)
      (hDirectory : tree.at? (l.below names) = some .directory)
      (h : BreaksOff tree limit isSlashed rest (path.below names) cause) :
      BreaksOff tree limit isSlashed (.anyDepth :: rest) path cause
  | entries {pattern : List GlobPart} {rest : List SearchStep} {path : Path}
      (hLong : IsTooLong path) :
      BreaksOff tree limit isSlashed (.wildcard pattern :: rest) path (.file ⟨.nameTooLong, path⟩)
  | entry {pattern : List GlobPart} {rest : List SearchStep} {path : Path} {l : Location}
      {name : Text} {node : FileNode} {cause : Breakdown} (hPath : tree.LeadsTo path l)
      (hNode : tree.at? (l.child name) = some node)
      (hOpen : isOpen rest.isEmpty isSlashed node = true) (hMatch : Glob.Matches pattern name)
      (h : BreaksOff tree limit isSlashed rest (path.below [name]) cause) :
      BreaksOff tree limit isSlashed (.wildcard pattern :: rest) path cause
  | look {n : Text} {rest : List SearchStep} {path : Path} (hName : nameFault? n = none)
      (h : tree.stat (path.below [n]) = .error .nameTooLong) :
      BreaksOff tree limit isSlashed (.name n :: rest) path
        (.file ⟨.nameTooLong, path.below [n]⟩)
  | name {n : Text} {rest : List SearchStep} {path : Path} {node : FileNode} {cause : Breakdown}
      (hName : nameFault? n = none) (hNode : tree.stat (path.below [n]) = .ok node)
      (hOpen : isOpen rest.isEmpty isSlashed node = true)
      (h : BreaksOff tree limit isSlashed rest (path.below [n]) cause) :
      BreaksOff tree limit isSlashed (.name n :: rest) path cause

/-! ### What a search comes to -/

/-- What a search comes to: all paths of a kind, or one of the causes that break it off. -/
inductive Yields (kind : Path → Prop) (breaks : Breakdown → Prop) :
    Except Breakdown (List Path) → Prop
  | found {paths : List Path} (hNone : ∀ cause, ¬ breaks cause)
      (hMem : ∀ path, path ∈ paths ↔ kind path) : Yields kind breaks (.ok paths)
  | broken {cause : Breakdown} (h : breaks cause) : Yields kind breaks (.error cause)

theorem Yields.congr {kind other : Path → Prop} {breaks causes : Breakdown → Prop}
    {outcome : Except Breakdown (List Path)} (h : Yields kind breaks outcome)
    (hKind : ∀ path, kind path ↔ other path) (hBreaks : ∀ cause, breaks cause ↔ causes cause) :
    Yields other causes outcome := by
  cases h with
  | found hNone hMem =>
      exact .found (fun cause hCause => hNone cause ((hBreaks cause).mpr hCause))
        fun path => (hMem path).trans (hKind path)
  | broken h => exact .broken ((hBreaks _).mp h)

/-- A search that goes on from several items comes to what it comes to from each of them. -/
theorem yields_mapM {α : Type} {items : List α} {step : α → Except Breakdown (List Path)}
    {kind : α → Path → Prop} {breaks : α → Breakdown → Prop}
    (h : ∀ a ∈ items, Yields (kind a) (breaks a) (step a)) :
    Yields (fun path => ∃ a ∈ items, kind a path) (fun cause => ∃ a ∈ items, breaks a cause)
      ((items.mapM step).map List.flatten) := by
  induction items with
  | nil => exact .found (by simp) (by simp)
  | cons first rest ih =>
      have hRest := ih fun a ha => h a (List.mem_cons_of_mem _ ha)
      have hFirst := h first List.mem_cons_self
      rw [List.mapM_cons]
      generalize step first = here at hFirst
      cases hFirst with
      | broken hBreaks => exact .broken ⟨first, List.mem_cons_self, hBreaks⟩
      | found hNone hMem =>
          generalize rest.mapM step = later at hRest
          cases later with
          | error cause =>
              cases hRest with
              | broken hBreaks =>
                  obtain ⟨a, ha, hCause⟩ := hBreaks
                  exact .broken ⟨a, List.mem_cons_of_mem _ ha, hCause⟩
          | ok found =>
              cases hRest with
              | found hNoneLater hMemLater =>
                  refine .found (fun cause => ?_) fun path => ?_
                  · rw [List.exists_mem_cons_iff, not_or]
                    exact ⟨hNone cause, hNoneLater cause⟩
                  · rw [List.exists_mem_cons_iff, ← hMem, ← hMemLater, List.flatten_cons,
                      List.mem_append]

/-- A directory and all directories below it. -/
theorem exists_below_iff (hTree : tree.IsOrderly) (hDirectory : tree.at? l = some .directory)
    {P : List Text → Prop} :
    (∃ names, tree.at? (l.below names) = some .directory ∧ P names) ↔
      P [] ∨ ∃ name, tree.at? (l.child name) = some .directory ∧
        ∃ names, tree.at? ((l.child name).below names) = some .directory ∧ P (name :: names) := by
  constructor
  · rintro ⟨names, hNames, h⟩
    cases names with
    | nil => exact .inl h
    | cons name rest =>
        exact .inr ⟨name, hTree.at?_child_of_below hNames, rest, Location.below_cons .. ▸ hNames, h⟩
  · rintro (h | ⟨name, -, rest, hRest, h⟩)
    · exact ⟨[], by simpa using hDirectory, h⟩
    · exact ⟨name :: rest, (Location.below_cons ..).symm ▸ hRest, h⟩

/-- Why a search from a directory and all directories below it breaks off. -/
inductive BreaksBelow (tree : FileTree) (breaks : Path → Breakdown → Prop) (limit : Nat)
    (path : Path) (l : Location) : Breakdown → Prop
  | deep {names : List Text} (hDirectory : tree.at? (l.below names) = some .directory)
      (hDeep : limit ≤ names.length) : BreaksBelow tree breaks limit path l .tooDeep
  | long {names : List Text} (hDirectory : tree.at? (l.below names) = some .directory)
      (hLong : IsTooLong (path.below names)) :
      BreaksBelow tree breaks limit path l (.file ⟨.nameTooLong, path.below names⟩)
  | inside {names : List Text} {cause : Breakdown}
      (hDirectory : tree.at? (l.below names) = some .directory)
      (h : breaks (path.below names) cause) : BreaksBelow tree breaks limit path l cause

namespace BreaksBelow

variable {breaks : Path → Breakdown → Prop} {limit : Nat} {cause : Breakdown}

/-- What breaks the search off below one of the directories breaks it off. -/
theorem of_child (h : BreaksBelow tree breaks limit (path.below [name]) (l.child name) cause) :
    BreaksBelow tree breaks (limit + 1) path l cause := by
  cases h with
  | deep hDirectory hDeep =>
      rw [← Location.below_cons] at hDirectory
      exact .deep hDirectory (by simpa using hDeep)
  | long hDirectory hLong =>
      rw [← Location.below_cons] at hDirectory
      rw [Path.below_below] at hLong ⊢
      exact .long hDirectory hLong
  | inside hDirectory h =>
      rw [← Location.below_cons] at hDirectory
      rw [Path.below_below] at h
      exact .inside hDirectory h

/-- A search breaks off right in the directory or below one of the directories in it. -/
theorem here_or_child (hTree : tree.IsOrderly)
    (h : BreaksBelow tree breaks (limit + 1) path l cause) :
    IsTooLong path ∨ breaks path cause ∨ ∃ name, tree.at? (l.child name) = some .directory ∧
      BreaksBelow tree breaks limit (path.below [name]) (l.child name) cause := by
  cases h with
  | @deep names hDirectory hDeep =>
      cases names with
      | nil => simp at hDeep
      | cons name rest =>
          have hChild := hTree.at?_child_of_below hDirectory
          rw [Location.below_cons] at hDirectory
          exact .inr (.inr ⟨name, hChild, .deep hDirectory (by simpa using hDeep)⟩)
  | @long names hDirectory hLong =>
      cases names with
      | nil => exact .inl (by simpa using hLong)
      | cons name rest =>
          have hChild := hTree.at?_child_of_below hDirectory
          rw [Location.below_cons] at hDirectory
          rw [← List.singleton_append, ← Path.below_below] at hLong ⊢
          exact .inr (.inr ⟨name, hChild, .long hDirectory hLong⟩)
  | @inside names _ hDirectory h =>
      cases names with
      | nil => exact .inr (.inl (by simpa using h))
      | cons name rest =>
          have hChild := hTree.at?_child_of_below hDirectory
          rw [Location.below_cons] at hDirectory
          rw [← List.singleton_append, ← Path.below_below] at h
          exact .inr (.inr ⟨name, hChild, .inside hDirectory h⟩)

end BreaksBelow

/-- A search that goes on from some of the entries of a directory comes to what it comes to from
each of them. -/
theorem yields_entries {entries : List (Text × FileNode)}
    (hListed : ∀ name node, (name, node) ∈ entries ↔ tree.at? (l.child name) = some node)
    (test : Text × FileNode → Bool) {step : Text → Except Breakdown (List Path)}
    {kind : Text → Path → Prop} {breaks : Text → Breakdown → Prop}
    (h : ∀ name node, tree.at? (l.child name) = some node → test (name, node) = true →
      Yields (kind name) (breaks name) (step name)) :
    Yields
      (fun target => ∃ name node, tree.at? (l.child name) = some node ∧ test (name, node) = true ∧
        kind name target)
      (fun cause => ∃ name node, tree.at? (l.child name) = some node ∧ test (name, node) = true ∧
        breaks name cause)
      (((entries.filter test).mapM fun entry => step entry.1).map List.flatten) := by
  have hEach : ∀ entry ∈ entries.filter test,
      Yields (kind entry.1) (breaks entry.1) (step entry.1) := by
    rintro ⟨name, node⟩ hEntry
    obtain ⟨hMem, hTest⟩ := List.mem_filter.mp hEntry
    exact h name node ((hListed _ _).mp hMem) hTest
  have hSome : ∀ P : Text → Prop, (∃ entry ∈ entries.filter test, P entry.1) ↔
      ∃ name node, tree.at? (l.child name) = some node ∧ test (name, node) = true ∧ P name := by
    intro P
    simp only [List.mem_filter, Prod.exists, hListed, and_assoc]
  exact (yields_mapM hEach).congr (fun target => hSome (kind · target))
    fun cause => hSome (breaks · cause)

/-- A search that goes on from a directory and all directories below it comes to what it comes to
from each of them. -/
theorem searchBelow_yields (hTree : tree.IsOrderly)
    {next : Path → Except Breakdown (List Path)} {kind : Path → Path → Prop}
    {breaks : Path → Breakdown → Prop}
    (hNext : ∀ path l, tree.LeadsTo path l → tree.at? l = some .directory →
      Yields (kind path) (breaks path) (next path))
    (limit : Nat) (hPath : tree.LeadsTo path l) (hDirectory : tree.at? l = some .directory) :
    Yields
      (fun target => ∃ names, tree.at? (l.below names) = some .directory ∧
        kind (path.below names) target)
      (BreaksBelow tree breaks limit path l) (tree.searchBelow next limit path) := by
  have hHere : tree.at? (l.below []) = some .directory := by rwa [Location.below_nil]
  induction limit generalizing path l with
  | zero => exact .broken (.deep hHere (Nat.zero_le _))
  | succ limit ih =>
      have hFirst := hNext path l hPath hDirectory
      rw [searchBelow]
      cases hOutcome : next path with
      | error cause =>
          rw [hOutcome] at hFirst
          cases hFirst with
          | broken h => exact .broken (.inside hHere (by rwa [Path.below_nil]))
      | ok here =>
          rw [hOutcome] at hFirst
          obtain ⟨hNone, hMem⟩ := hFirst
          rcases entries_of_leadsTo hTree hPath with ⟨hLong, hEntries⟩ | ⟨hShort, entries, hEntries,
            hListed⟩
          · rw [hEntries]
            have hBroken : BreaksBelow tree breaks (limit + 1) path l _ :=
              .long hHere (by rwa [Path.below_nil])
            rw [Path.below_nil] at hBroken
            exact .broken hBroken
          have hBelow := yields_entries hListed (fun entry => entry.2 = .directory)
            fun name node hNode hKind => by
              obtain rfl : node = .directory := of_decide_eq_true hKind
              exact ih (hPath.below hTree hNode) hNode (by rwa [Location.below_nil])
          rw [hEntries]
          simp only [bind, Except.bind, pure, Except.pure]
          generalize (entries.filter fun entry => entry.2 = .directory).mapM
            (fun entry => tree.searchBelow next limit (path.below [entry.1])) = later at hBelow ⊢
          cases later with
          | error cause =>
              cases hBelow with
              | broken h =>
                  obtain ⟨name, node, -, -, hCause⟩ := h
                  exact .broken hCause.of_child
          | ok found =>
              obtain ⟨hNoneBelow, hMemBelow⟩ := hBelow
              refine .found (fun cause hCause => ?_) fun target => ?_
              · rcases hCause.here_or_child hTree with hLong | hBreaks | ⟨name, hChild, hBreaks⟩
                · exact hShort hLong
                · exact hNone cause hBreaks
                · exact hNoneBelow cause ⟨name, .directory, hChild, by simp, hBreaks⟩
              · rw [List.mem_append, hMem, hMemBelow, exists_below_iff hTree hDirectory]
                simp [Path.below_below, Location.below_singleton]

/-- The search may go on only with a directory unless it is at its end. -/
theorem eq_directory_of_isOpen {rest : List SearchStep} {isSlashed : Bool} (hRest : rest ≠ [])
    (h : isOpen rest.isEmpty isSlashed node = true) : node = .directory := by
  cases rest with
  | nil => exact absurd rfl hRest
  | cons => simpa [isOpen] using h

theorem leads_nil_iff {isSlashed : Bool} :
    Leads tree isSlashed [] path target ↔
      target = path ∧ ∃ node, tree.stat path = .ok node ∧ node ≠ .directory := by
  constructor
  · rintro ⟨hFile⟩
    exact ⟨rfl, _, hFile, by simp⟩
  · rintro ⟨rfl, node, hStat, hFile⟩
    cases node with
    | directory => exact absurd rfl hFile
    | file bytes => exact .file hStat

/-- From every place where it may be, a search along the parts of a pattern comes to the files to
which they lead. -/
def Searches (tree : FileTree) (limit : Nat) (isSlashed : Bool) (steps : List SearchStep) : Prop :=
  ∀ path l, tree.LeadsTo path l → (steps ≠ [] → tree.at? l = some .directory) →
    Yields (Leads tree isSlashed steps path) (BreaksOff tree limit isSlashed steps path)
      (tree.searchAlong limit isSlashed steps path)

variable {limit : Nat} {isSlashed : Bool} {rest : List SearchStep}

theorem searches_nil : tree.Searches limit isSlashed [] := by
  intro path l hPath _
  rw [searchAlong]
  rcases mapError_test tree path (· ≠ .directory) with ⟨hLong, hTest⟩ | ⟨hShort, answer, hTest,
    hAnswer⟩
  · rw [hTest]
    exact .broken (.file hLong)
  · rw [hTest]
    refine .found (fun cause => ?_) fun target => ?_
    · rintro ⟨hLong⟩
      exact hShort hLong
    · rw [leads_nil_iff]
      cases answer <;> simp_all

namespace Searches

theorem anyDepth (hTree : tree.IsOrderly) (h : tree.Searches limit isSlashed rest) :
    tree.Searches limit isSlashed (.anyDepth :: rest) := by
  intro path l hPath hDirectory
  specialize hDirectory (List.cons_ne_nil _ _)
  rw [searchAlong]
  refine (searchBelow_yields hTree (fun path l hPath hHere => h path l hPath fun _ => hHere) limit
    hPath hDirectory).congr (fun target => ?_) fun cause => ?_
  · constructor
    · rintro ⟨names, hNames, h⟩
      exact .inside hPath hNames h
    · rintro (_ | ⟨hOther, hNames, h⟩)
      obtain rfl := hPath.unique hOther
      exact ⟨_, hNames, h⟩
  · constructor
    · rintro (⟨hNames, hDeep⟩ | ⟨hNames, hLong⟩ | ⟨hNames, h⟩)
      · exact .deep hPath hNames hDeep
      · exact .directory hPath hNames hLong
      · exact .inside hPath hNames h
    · rintro (_ | ⟨hOther, hNames, hDeep⟩ | ⟨hOther, hNames, hLong⟩ | ⟨hOther, hNames, h⟩)
      all_goals obtain rfl := hPath.unique hOther
      · exact .deep hNames hDeep
      · exact .long hNames hLong
      · exact .inside hNames h

theorem wildcard (hTree : tree.IsOrderly) (h : tree.Searches limit isSlashed rest)
    (pattern : List GlobPart) : tree.Searches limit isSlashed (.wildcard pattern :: rest) := by
  intro path l hPath _
  rw [searchAlong]
  rcases entries_of_leadsTo hTree hPath with ⟨hLong, hEntries⟩ | ⟨hShort, entries, hEntries,
    hListed⟩
  · rw [hEntries]
    exact .broken (.entries hLong)
  have hOn := yields_entries hListed
    (fun entry => isOpen rest.isEmpty isSlashed entry.2 && Glob.accepts pattern entry.1)
    fun name node hNode hTest => by
      have hOpen := (Bool.and_eq_true_iff.mp hTest).1
      refine h _ _ (hPath.below hTree hNode) fun hRest => ?_
      rw [← eq_directory_of_isOpen hRest hOpen]
      exact hNode
  rw [hEntries]
  refine Yields.congr hOn (fun target => ?_) fun cause => ?_
  · constructor
    · rintro ⟨name, node, hNode, hTest, h⟩
      obtain ⟨hOpen, hMatch⟩ := Bool.and_eq_true_iff.mp hTest
      exact .entry hPath hNode hOpen ((Glob.accepts_iff_matches _ _).mp hMatch) h
    · rintro (_ | _ | ⟨hOther, hNode, hOpen, hMatch, h⟩)
      obtain rfl := hPath.unique hOther
      exact ⟨_, _, hNode, Bool.and_eq_true_iff.mpr
        ⟨hOpen, (Glob.accepts_iff_matches _ _).mpr hMatch⟩, h⟩
  · constructor
    · rintro ⟨name, node, hNode, hTest, h⟩
      obtain ⟨hOpen, hMatch⟩ := Bool.and_eq_true_iff.mp hTest
      exact .entry hPath hNode hOpen ((Glob.accepts_iff_matches _ _).mp hMatch) h
    · rintro (_ | _ | _ | _ | hLong | ⟨hOther, hNode, hOpen, hMatch, h⟩)
      · exact absurd hLong hShort
      · obtain rfl := hPath.unique hOther
        exact ⟨_, _, hNode, Bool.and_eq_true_iff.mpr
          ⟨hOpen, (Glob.accepts_iff_matches _ _).mpr hMatch⟩, h⟩

theorem named (h : tree.Searches limit isSlashed rest) (n : Text) :
    tree.Searches limit isSlashed (.name n :: rest) := by
  intro path l hPath _
  rw [searchAlong]
  by_cases hName : nameFault? n = none
  · simp only [hName, Option.isSome_none, Bool.false_eq_true, if_false]
    rcases mapError_test tree (path.below [n]) (isOpen rest.isEmpty isSlashed) with
      ⟨hLong, hTest⟩ | ⟨hShort, answer, hTest, hAnswer⟩
    · rw [hTest]
      exact .broken (.look hName hLong)
    rw [hTest]
    cases answer with
    | true =>
        obtain ⟨node, hStat, hOpen⟩ := hAnswer.mp rfl
        obtain ⟨place, hOn, hNode⟩ := leadsTo_of_stat hStat
        refine (h _ _ hOn fun hRest => ?_).congr (fun target => ?_) fun cause => ?_
        · rw [hNode, eq_directory_of_isOpen hRest hOpen]
        · exact ⟨.name hName hStat hOpen, fun | .name _ _ _ h => h⟩
        · exact ⟨.name hName hStat hOpen, fun
            | .look _ hLong => absurd hLong hShort
            | .name _ _ _ h => h⟩
    | false =>
        refine .found (fun cause => ?_) fun target => iff_of_false List.not_mem_nil ?_
        · rintro (_ | _ | _ | _ | _ | _ | ⟨_, hLong⟩ | ⟨_, hStat, hOpen, _⟩)
          · exact hShort hLong
          · exact Bool.false_ne_true (hAnswer.mpr ⟨_, hStat, hOpen⟩)
        · rintro (_ | _ | _ | ⟨_, hStat, hOpen, _⟩)
          exact Bool.false_ne_true (hAnswer.mpr ⟨_, hStat, hOpen⟩)
  · rw [Option.isSome_iff_ne_none.mpr hName]
    refine .found (fun cause => ?_) fun target => iff_of_false List.not_mem_nil ?_
    · rintro (_ | _ | _ | _ | _ | _ | ⟨h, _⟩ | ⟨h, _⟩) <;> exact hName h
    · rintro (_ | _ | _ | ⟨h, _⟩)
      exact hName h

end Searches

/-- A search along the parts of a pattern comes to the files to which they lead. -/
theorem searchAlong_yields (hTree : tree.IsOrderly) (limit : Nat) (isSlashed : Bool)
    (steps : List SearchStep) : tree.Searches limit isSlashed steps := by
  induction steps with
  | nil => exact searches_nil
  | cons step rest ih =>
      cases step with
      | anyDepth => exact ih.anyDepth hTree
      | wildcard pattern => exact ih.wildcard hTree pattern
      | name n => exact ih.named n

/-- A search from a directory and all directories below it comes to the files to which the parts of
the pattern lead from there. -/
theorem search_yields (hTree : tree.IsOrderly) (limit : Nat) {pattern : Text}
    (hParts : ¬ ((Path.parse pattern).parts.any SearchStep.misusesDoubleStar) = true)
    (hDirectory : tree.hasDirectory path = .ok true) :
    Yields
      (Leads tree (pattern.getLast? = some (.char '/'))
        (.anyDepth :: (Path.parse pattern).parts.map SearchStep.ofPart) path)
      (BreaksOff tree limit (pattern.getLast? = some (.char '/'))
        (.anyDepth :: (Path.parse pattern).parts.map SearchStep.ofPart) path)
      (tree.search limit path pattern) := by
  obtain ⟨hLocate, hHere⟩ := isDirectory_of_hasDirectory hDirectory
  rw [search, if_neg hParts]
  exact searchAlong_yields hTree limit _ _ _ _ (leadsTo_of_locate hLocate) fun _ => hHere

end FileTree

end EntityForge
