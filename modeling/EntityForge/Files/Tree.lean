import EntityForge.Files.Path
import EntityForge.Text.Shown
import EntityForge.Text.Utf8

/-! # File trees

A file tree is the part of a file system around a working directory: the files and directories
that are there, each at its location. Walking a path from the working directory reaches a location
or fails the way an operating system does.
-/

namespace EntityForge

/-- Why an operation on files fails. -/
inductive FileError
  | noEntry
  | exists
  | notDirectory
  | isDirectory
  | nameTooLong
  | other (number : Nat) (words : Text)
  deriving DecidableEq, Repr

/-- A failed operation and the path that it was called with. -/
structure FileFault where
  error : FileError
  path : Path
  deriving DecidableEq, Repr

/-- A failure in the words of the system. -/
def FileError.message : FileError → Text
  | .noEntry => text "[Errno 2] No such file or directory"
  | .exists => text "[Errno 17] File exists"
  | .notDirectory => text "[Errno 20] Not a directory"
  | .isDirectory => text "[Errno 21] Is a directory"
  | .nameTooLong => text "[Errno 36] File name too long"
  | .other number words => text "[Errno " ++ Text.ofNat number ++ text "] " ++ words

/-- A failed operation in the words of a message. -/
def FileFault.message (fault : FileFault) : Text :=
  fault.error.message ++ text ": " ++ fault.path.toText.shown

/-- A place in a file tree: so many levels above the working directory, then down the names. -/
structure Location where
  above : Nat := 0
  names : List Text := []
  deriving DecidableEq, Repr

namespace Location

/-- The place that a name in a directory denotes. -/
def child (l : Location) (name : Text) : Location := { l with names := l.names ++ [name] }

/-- The directory that holds a place. -/
def parent (l : Location) : Location :=
  if l.names.isEmpty then { l with above := l.above + 1 } else { l with names := l.names.dropLast }

/-- Is `l` inside the directory `base`, at any depth? -/
def isInside (l base : Location) : Bool :=
  l.above = base.above && base.names.isPrefixOf l.names && base.names.length < l.names.length

end Location

/-- What is at a place of a file tree. -/
inductive FileNode
  | directory
  | file (bytes : Bytes)
  deriving DecidableEq, Repr

/-- A file tree: what is where, in the order of creation. The working directory and those above it
are always there. -/
structure FileTree where
  nodes : List (Location × FileNode) := []
  deriving DecidableEq, Repr

namespace FileTree

/-- The greatest number of bytes of a name. -/
def maxNameBytes : Nat := 255

/-- The greatest number of bytes of a path. -/
def maxPathBytes : Nat := 4095

/-- The number of bytes of a name or a path. A lone surrogate stands for a byte. -/
def byteLength (t : Text) : Nat :=
  (t.map fun p => (p.toChar?.map Char.utf8Size).getD 1).foldr (· + ·) 0

/-- What is at a place. -/
def at? (tree : FileTree) (l : Location) : Option FileNode :=
  if l.names.isEmpty then some .directory else tree.nodes.lookup l

/-- Puts a node at a place, over what was there. -/
def put (tree : FileTree) (l : Location) (node : FileNode) : FileTree :=
  if tree.nodes.any fun entry => entry.1 = l then
    ⟨tree.nodes.map fun entry => if entry.1 = l then (l, node) else entry⟩
  else ⟨tree.nodes ++ [(l, node)]⟩

/-- Walks down from a place by names. -/
def walk (tree : FileTree) (l : Location) : List Text → Except FileError Location
  | [] => .ok l
  | name :: rest =>
      match tree.at? l with
      | some .directory =>
          if name = text ".." then walk tree l.parent rest
          else if maxNameBytes < byteLength name then .error .nameTooLong
          else if (tree.at? (l.child name)).isNone then .error .noEntry
          else walk tree (l.child name) rest
      | _ => .error .notDirectory

/-- The place of a path. Nothing is known below a root. -/
def locate (tree : FileTree) (path : Path) : Except FileError Location :=
  if maxPathBytes < byteLength path.toText then .error .nameTooLong
  else if !path.isRelative then .error .noEntry
  else tree.walk {} path.parts

/-- What a path leads to. -/
def stat (tree : FileTree) (path : Path) : Except FileError FileNode := do
  let l ← tree.locate path
  match tree.at? l with
  | some node => .ok node
  | none => .error .noEntry

/-- A question about what a path leads to: no answer but "no" if it leads nowhere. -/
def test (tree : FileTree) (path : Path) (question : FileNode → Bool) : Except FileFault Bool :=
  match tree.stat path with
  | .ok node => .ok (question node)
  | .error .nameTooLong => .error ⟨.nameTooLong, path⟩
  | .error _ => .ok false

/-- Does a path lead anywhere? -/
def has (tree : FileTree) (path : Path) : Except FileFault Bool := tree.test path fun _ => true

/-- Does a path lead to a directory? -/
def hasDirectory (tree : FileTree) (path : Path) : Except FileFault Bool :=
  tree.test path (· = .directory)

/-- The bytes of the file at a path. -/
def read (tree : FileTree) (path : Path) : Except FileFault Bytes :=
  match tree.stat path with
  | .ok (.file bytes) => .ok bytes
  | .ok .directory => .error ⟨.isDirectory, path⟩
  | .error error => .error ⟨error, path⟩

/-- The place of a path whose last name need not be there yet. -/
def locateNew (tree : FileTree) (path : Path) : Except FileError Location :=
  if maxPathBytes < byteLength path.toText then .error .nameTooLong
  else if !path.isRelative then .error .noEntry
  else if path.parts.isEmpty || path.name = text ".." then tree.walk {} path.parts
  else do
    let directory ← tree.walk {} path.parent.parts
    match tree.at? directory with
    | some .directory =>
        if maxNameBytes < byteLength path.name then .error .nameTooLong
        else .ok (directory.child path.name)
    | _ => .error .notDirectory

/-- Writes the file at a path, over an earlier one. -/
def write (tree : FileTree) (path : Path) (bytes : Bytes) : Except FileFault FileTree :=
  match tree.locateNew path with
  | .error error => .error ⟨error, path⟩
  | .ok l =>
      match tree.at? l with
      | some .directory => .error ⟨.isDirectory, path⟩
      | _ => .ok (tree.put l (.file bytes))

/-- Makes a directory in one that is there. -/
def makeDirectory (tree : FileTree) (path : Path) : Except FileFault FileTree :=
  match tree.locateNew path with
  | .error error => .error ⟨error, path⟩
  | .ok l =>
      match tree.at? l with
      | some _ => .error ⟨.exists, path⟩
      | none => .ok (tree.put l .directory)

/-- Makes a directory unless it is there. -/
def ensureDirectory (tree : FileTree) (path : Path) : Except FileFault FileTree :=
  match tree.makeDirectory path with
  | .ok tree => .ok tree
  | .error fault =>
      if fault.error = .noEntry then .error fault
      else
        match tree.hasDirectory path with
        | .error fault => .error fault
        | .ok true => .ok tree
        | .ok false => .error fault

/-- Makes a directory and those above it unless they are there. The names of its path come
innermost first. -/
def ensureDirectoriesFrom (tree : FileTree) (root : Text) :
    List Text → Except FileFault FileTree
  | [] => tree.ensureDirectory ⟨root, []⟩
  | name :: above =>
      let path : Path := ⟨root, (name :: above).reverse⟩
      match tree.ensureDirectory path with
      | .error ⟨.noEntry, _⟩ => do
          let tree ← ensureDirectoriesFrom tree root above
          tree.ensureDirectory path
      | result => result

/-- Makes a directory and those above it unless they are there. -/
def ensureDirectories (tree : FileTree) (path : Path) : Except FileFault FileTree :=
  tree.ensureDirectoriesFrom path.root path.parts.reverse

/-- The files of the working directory with their paths, in the order of the path texts. -/
def listing (tree : FileTree) : List (Text × Bytes) :=
  let files := tree.nodes.filterMap fun entry =>
    match entry.2 with
    | .file bytes =>
        if entry.1.above = 0 then some (Text.join (text "/") entry.1.names, bytes) else none
    | .directory => none
  files.mergeSort fun a b => Text.le a.1 b.1

end FileTree

end EntityForge
