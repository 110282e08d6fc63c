import EntityForge.Failure
import EntityForge.Files.Glob

/-! # Searching a directory

A search goes from a directory along a path pattern, one part of the pattern after the other: two
stars lead to the directory itself and all directories below it, a name with wildcards to what has
such a name in a directory, any other name to what it denotes. In the end it keeps the files.

A search breaks off where the system cannot look, since a path is too long; and since it goes down
one step at a time, it breaks off where directories stand too deep one inside the other.
-/

namespace EntityForge

/-- The path that leads on from a path by names. -/
def Path.below (path : Path) (names : List Text) : Path :=
  { path with parts := path.parts ++ names }

/-- A part of a path pattern. -/
inductive SearchStep
  | anyDepth
  | wildcard (pattern : List GlobPart)
  | name (n : Text)
  deriving DecidableEq, Repr

namespace SearchStep

/-- Is this part of a path pattern one that stands for directories at any depth, and cannot be
part of anything longer? -/
def misusesDoubleStar (part : Text) : Bool := part.hasPart (text "**") && part ≠ text "**"

/-- What a part of a path pattern stands for. -/
def ofPart (part : Text) : SearchStep :=
  if part = text "**" then .anyDepth
  else if part.any fun p => p = .char '*' || p = .char '?' || p = .char '[' then
    .wildcard (Glob.parse part)
  else .name part

end SearchStep

namespace FileTree

/-- The name and the node of a place that is right inside a directory. -/
def entryIn? (directory : Location) : Location × FileNode → Option (Text × FileNode)
  | (place, node) =>
      match place.names.getLast? with
      | some name => if directory.child name = place then some (name, node) else none
      | none => none

/-- What is right inside a directory, in the order of creation. -/
def entries (tree : FileTree) (path : Path) : Except Breakdown (List (Text × FileNode)) :=
  match tree.locate path with
  | .error error => .error (.file ⟨error, path⟩)
  | .ok directory => .ok (tree.nodes.filterMap (entryIn? directory))

/-- Goes on from a directory and from all directories below it; they stand at most so deep one
inside the other. -/
def searchBelow (tree : FileTree) (next : Path → Except Breakdown (List Path)) :
    Nat → Path → Except Breakdown (List Path)
  | 0, _ => .error .tooDeep
  | limit + 1, path => do
      let here ← next path
      let entries ← tree.entries path
      let directories := entries.filter fun entry => entry.2 = .directory
      let below ← directories.mapM fun entry => searchBelow tree next limit (path.below [entry.1])
      return here ++ below.flatten

/-- May the search go on with a node? Before a last part, and at the end of a pattern with a slash,
only with a directory. -/
def isOpen (isLast isSlashed : Bool) (node : FileNode) : Bool :=
  isLast && !isSlashed || node = .directory

/-- The files to which the parts of a pattern lead from a path. What no file can be called is not
there. -/
def searchAlong (tree : FileTree) (limit : Nat) (isSlashed : Bool) :
    List SearchStep → Path → Except Breakdown (List Path)
  | [], path => do
      let isFile ← (tree.test path (· ≠ .directory)).mapError Breakdown.file
      return if isFile then [path] else []
  | .anyDepth :: rest, path => tree.searchBelow (searchAlong tree limit isSlashed rest) limit path
  | .wildcard pattern :: rest, path => do
      let entries ← tree.entries path
      let matching := entries.filter fun entry =>
        isOpen rest.isEmpty isSlashed entry.2 && Glob.accepts pattern entry.1
      let found ← matching.mapM fun entry =>
        searchAlong tree limit isSlashed rest (path.below [entry.1])
      return found.flatten
  | .name n :: rest, path => do
      let next := path.below [n]
      let isThere ←
        if (nameFault? n).isSome then .ok false
        else (tree.test next (isOpen rest.isEmpty isSlashed)).mapError Breakdown.file
      if isThere then searchAlong tree limit isSlashed rest next else return []

/-- The files to which a path pattern leads from a directory or from one below it. -/
def search (tree : FileTree) (limit : Nat) (directory : Path) (pattern : Text) :
    Except Breakdown (List Path) :=
  let parts := (Path.parse pattern).parts
  if parts.any SearchStep.misusesDoubleStar then .error .recursivePattern
  else
    tree.searchAlong limit (pattern.getLast? = some (.char '/'))
      (.anyDepth :: parts.map SearchStep.ofPart) directory

end FileTree

end EntityForge
