import EntityForge.Files.Machine
import EntityForge.Template.Library

/-! # Hosts

Code is generated on a host: a machine with a template engine. The engine is set up for a directory
of templates, if there is one, and for templates kept in memory. A file tree is a host whose machine
and engine are known.
-/

namespace EntityForge

open Template

/-- A machine with a template engine. -/
structure Host where
  machine : Machine
  engine : Option Path → Entries Text → Renderer

/-- The host of a file tree. -/
def FileTree.host (tree : FileTree) : Host where
  machine := tree
  engine directory sources :=
    TemplateLibrary.renderer { directory := directory.map fun path => (tree, path), sources }

instance : Coe FileTree Host := ⟨FileTree.host⟩

/-- The host on which there is no file. -/
instance : EmptyCollection Host := ⟨FileTree.host {}⟩

/-- The directory of templates, if there is one, must be there. -/
def Machine.checkTemplates (machine : Machine) : Option Path → Except Failure Unit
  | none => .ok ()
  | some path =>
      match machine.hasDirectory path with
      | .error cause => .error (.breakdown cause)
      | .ok false => .error (.template (.directoryNotFound path))
      | .ok true => .ok ()

/-- The engine of a host for a directory, which must be there, and for templates kept in memory. -/
def Host.renderer (host : Host) (directory : Option Path) (sources : Entries Text) :
    Except Failure Renderer := do
  host.machine.checkTemplates directory
  return host.engine directory sources

/-- The host at a time when its engines have answered some calls. -/
def Host.later (host : Host) (calls : List Call) : Host :=
  { host with engine := fun directory sources => (host.engine directory sources).after calls }

end EntityForge
