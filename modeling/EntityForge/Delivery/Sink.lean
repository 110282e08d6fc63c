import EntityForge.CSharp.Generator

/-! # Sinks

A sink receives artifacts one by one and remembers the names that were delivered; no name is
delivered twice. What becomes of an artifact is up to the medium of the sink: a list that keeps
artifacts, or a directory into which each is written as a file.
-/

namespace EntityForge

/-- Where artifacts go: writing one changes the state of the medium and may fail. -/
structure Medium (σ : Type) where
  write : σ → Artifact → σ × Option Failure

/-- A sink: the names delivered so far, in order, and the state of its medium. -/
structure Sink (σ : Type) where
  delivered : List Text := []
  state : σ
  deriving DecidableEq, Repr

namespace Sink

variable {σ : Type}

/-- Delivers one artifact. -/
def add (medium : Medium σ) (sink : Sink σ) (a : Artifact) : Sink σ × Option Failure :=
  if a.name ∈ sink.delivered then (sink, some (.delivery (.deliveredTwice a.name)))
  else
    match medium.write sink.state a with
    | (state, none) => (⟨sink.delivered ++ [a.name], state⟩, none)
    | (state, some failure) => ({ sink with state }, some failure)

/-- Delivers artifacts in order, up to the first failure. -/
def addAll (medium : Medium σ) (sink : Sink σ) : List Artifact → Sink σ × Option Failure
  | [] => (sink, none)
  | a :: rest =>
      match sink.add medium a with
      | (sink, none) => addAll medium sink rest
      | (sink, some failure) => (sink, some failure)

end Sink

/-- The medium that keeps artifacts in order. -/
def Medium.list : Medium (List Artifact) where
  write kept a := (kept ++ [a], none)

/-- Where files are written: what making a directory with all above it, opening a file anew and
filling it do to the state, also when they fail. Nothing is taken for granted of them. -/
structure Disk (σ : Type) where
  makeDirectories : σ → Path → σ × Option Breakdown
  openFile : σ → Path → σ × Option Breakdown
  fill : σ → Path → Bytes → σ × Option Breakdown

namespace Disk

/-- The failure of writing a file. Those of the system are foreseen. -/
def failureAt (path : Path) : Breakdown → Failure
  | .file fault => .delivery (.unwritable path fault)
  | cause => .breakdown cause

/-- Writes an artifact as a file into a directory, which is made if it is not there. -/
def writeInto {σ : Type} (disk : Disk σ) (directory : Path) (state : σ) (a : Artifact) :
    σ × Option Failure :=
  match disk.makeDirectories state directory with
  | (state, some cause) => (state, some (.breakdown cause))
  | (state, none) =>
      let path := directory.child a.name
      match disk.openFile state path with
      | (state, some cause) => (state, some (failureAt path cause))
      | (state, none) =>
          match Utf8.encode a.content with
          | .error run => (state, some (.breakdown (.unencodable run)))
          | .ok bytes =>
              match disk.fill state path bytes with
              | (state, some cause) => (state, some (failureAt path cause))
              | (state, none) => (state, none)

/-- The medium that writes artifacts into a directory of a disk. -/
def medium {σ : Type} (disk : Disk σ) (directory : Path) : Medium σ where
  write := disk.writeInto directory

end Disk

namespace FileTree

/-- A change of a file tree, as a step of a disk. -/
def step (tree : FileTree) : Except FileFault FileTree → FileTree × Option Breakdown
  | .error fault => (tree, some (.file fault))
  | .ok changed => (changed, none)

/-- The disk of a file tree. No file has a name that does not stand for bytes. -/
def disk : Disk FileTree where
  makeDirectories tree path :=
    match nameFault? path.toText with
    | some cause => (tree, some cause)
    | none => tree.step (tree.ensureDirectories path)
  openFile tree path :=
    match nameFault? path.toText with
    | some cause => (tree, some cause)
    | none => tree.step (tree.write path [])
  fill tree path bytes := tree.step (tree.write path bytes)

end FileTree

/-- The medium that writes artifacts into a directory of a file tree. -/
def Medium.directory (path : Path) : Medium FileTree := FileTree.disk.medium path

end EntityForge
