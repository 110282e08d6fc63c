import EntityForge.Console.Program

/-! # The command as a program

The files below the working directory are read before the command runs, and those that it has
changed are written after it. There is no connection to the web.
-/

namespace EntityForge.Console

/-- Reads a file or a directory with all that is in it. -/
partial def load (tree : FileTree) (place : Location) (entry : IO.FS.DirEntry) : IO FileTree := do
  let place := place.child (text entry.fileName)
  if ← entry.path.isDir then
    let mut tree := tree.put place .directory
    for below in ← entry.path.readDir do
      tree ← load tree place below
    return tree
  else
    let bytes ← IO.FS.readBinFile entry.path
    return tree.put place (.file bytes.toList)

/-- Reads all that is in the working directory. -/
def loadAll : IO FileTree := do
  let mut tree : FileTree := {}
  for entry in ← (← IO.currentDir).readDir do
    tree ← load tree {} entry
  return tree

/-- Writes the files that were not there before, or have changed. -/
def store (before after : FileTree) : IO Unit := do
  let known := before.listing
  for (name, bytes) in after.listing do
    unless known.contains (name, bytes) do
      let directory := (Path.parse name).parent
      IO.FS.createDirAll directory.toText.toString
      IO.FS.writeBinFile name.toString ⟨bytes.toArray⟩

/-- Runs the command in the working directory and gives its code. -/
def runInDirectory (arguments : List String) : IO UInt32 := do
  let files ← loadAll
  let input ← if arguments.contains "--stdin" then (← IO.getStdin).readToEnd else pure ""
  let around := Surroundings.ofTree files (text input) fun _ => .failed .connection
  match run around (arguments.map text) with
  | .ok outcome =>
      store files outcome.state
      for line in outcome.lines do
        IO.println line.toString
      return outcome.code.toUInt32
  | .error failure =>
      IO.eprintln failure.message.toString
      return 1

end EntityForge.Console

/-- Runs the command. -/
def main (arguments : List String) : IO UInt32 := EntityForge.Console.runInDirectory arguments
