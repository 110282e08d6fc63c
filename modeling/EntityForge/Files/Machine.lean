import EntityForge.Files.Search

/-! # Machines

Paths are looked at and files are read on a machine. Nothing is taken for granted of what a machine
answers: it may break off at any question for a cause of its own, such as a permission that it does
not give. Over a file tree there is a machine whose answers are known.
-/

namespace EntityForge

/-- A machine: does a path lead anywhere, does it lead to a directory, what are the bytes of the
file there, and to which files does a path pattern lead from a directory? It may also break off
taking in a document of lists and objects that stand too deep one inside the other, and limit how
deep they stand in a value that it spells out. -/
structure Machine where
  has : Path → Except Breakdown Bool
  hasDirectory : Path → Except Breakdown Bool
  read : Path → Except Breakdown Bytes
  search : Path → Text → Except Breakdown (List Path)
  takesIn : Text → Except Breakdown Unit := fun _ => .ok ()
  depth : Option Nat := none

/-- The machine over a file tree, on which a search goes so many directories deep. -/
def FileTree.searched (tree : FileTree) (limit : Nat) : Machine where
  has path := (tree.has path).mapError .file
  hasDirectory path := (tree.hasDirectory path).mapError .file
  read path := (tree.read path).mapError .file
  search := tree.search limit

/-- The machine over a file tree on which a search goes as deep as there are directories. -/
def FileTree.machine (tree : FileTree) : Machine := tree.searched (tree.nodes.length + 1)

instance : Coe FileTree Machine := ⟨FileTree.machine⟩

/-- The machine on which there is no file. -/
instance : EmptyCollection Machine := ⟨FileTree.machine {}⟩

end EntityForge
