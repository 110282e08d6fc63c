import EntityForge.Template.Engine
import EntityForge.Text.Lower

/-! # Template libraries

Templates are found by name: first among the files of a directory, if there is one, then among the
sources kept in memory. Rendering fails if the template is not there, if it is malformed, or if it
reaches for something that its variables do not hold.

The library is an engine for what the built-in templates are made of, and little more. In particular
it has no memory, and gives no text for what is told apart by its place there.
-/

namespace EntityForge

/-- The templates at hand: a directory of a file tree, and sources by name. -/
structure TemplateLibrary where
  directory : Option (FileTree × Path) := none
  sources : Entries Text := []

namespace TemplateLibrary

open Template

/-- The library with one more source, or with another source for a name. -/
def add (library : TemplateLibrary) (name source : Text) : TemplateLibrary :=
  { library with sources := library.sources.put name source }

/-- The path of a template below a directory. A name that leads upwards has none. -/
def pathIn (directory : Path) (name : Text) : Option Path :=
  let parts := Text.splitOn '/' name
  if parts.contains (text "..") then none
  else
    some { directory with
      parts := directory.parts ++ parts.filter fun part => !part.isEmpty && part ≠ text "." }

/-- The bytes of a template that is a file. -/
def fileBytes? (library : TemplateLibrary) (name : Text) : Option Bytes := do
  let (files, directory) ← library.directory
  let path ← pathIn directory name
  match files.stat path with
  | .ok (.file bytes) => some bytes
  | _ => none

/-- The source of a template, if it is there. -/
def source? (library : TemplateLibrary) (name : Text) : Except Utf8.Fault (Option Text) :=
  match library.fileBytes? name with
  | some bytes => (Utf8.decode bytes).map some
  | none => .ok (library.sources.lookup? name)

/-- What a look for a template gives. -/
inductive Lookup
  | missing
  | malformed (fault : Malformed)
  | found (nodes : List Node)

/-- Looks for a template. -/
def find (library : TemplateLibrary) (name : Text) : Except Utf8.Fault Lookup :=
  match library.source? name with
  | .error fault => .error fault
  | .ok none => .ok .missing
  | .ok (some source) =>
      match parse source with
      | .error fault => .ok (.malformed fault)
      | .ok nodes => .ok (.found nodes)

/-- Is there a template of that name? A malformed one breaks the question off. -/
def knows (library : TemplateLibrary) (name : Text) : Except Breakdown Bool :=
  match library.find name with
  | .error fault => .error (.undecodable fault)
  | .ok .missing => .ok false
  | .ok (.malformed fault) => .error (.malformedTemplate fault)
  | .ok (.found _) => .ok true

/-- Is a template a markup document, going by its name? -/
def isMarkup (name : Text) : Bool :=
  name.lower.endsWith (text ".html") || name.lower.endsWith (text ".xml")

/-- The fault of an engine that a fault of rendering is. -/
def engineFault : RenderFault → EngineFault
  | .notIterable kind => .other (.notIterable kind)
  | .unknownFilter filter => .other (.unknownFilter filter)
  | .placeInMemory =>
      .other (.foreign (text "NotImplementedError") RenderFault.placeInMemory.message)
  | fault => .undefined fault.message

/-- The name of the list that all calls for a template share. -/
def sharedName : Text := text "usings"

/-- Answers a call for which the shared list stands turned round or not, and says whether the
template turns it round. No variable may take the name by which the template refers to itself. -/
def perform (library : TemplateLibrary) (turned : Bool) (call : Call) :
    Except EngineFault Text × Bool :=
  match library.find call.name with
  | .error fault => (.error (.other (.undecodable fault)), false)
  | .ok .missing => (.error (.missing call.name), false)
  | .ok (.malformed _) => (.error (.malformed (text "malformed template")), false)
  | .ok (.found nodes) =>
      if (call.given.lookup? selfName).isSome then
        (.error (.other (.takenName (text "Template.render") selfName)), false)
      else
        let given := if turned then turnIn call.given sharedName else call.given
        let (rendered, turns) := renderTemplate (isMarkup call.name) call.name given nodes
        (rendered.mapError engineFault, turns sharedName)

/-- Does the shared list stand turned round after calls for the template of that name? A template
without reversals never turns it round. -/
def isTurnedAfter (library : TemplateLibrary) (name : Text) (past : List Call) : Bool :=
  match library.find name with
  | .ok (.found nodes) =>
      if nodes.any fun node => node.reversed?.isSome then
        (past.filter (·.name = name)).foldl
          (fun turned call => turned != (library.perform turned call).2) false
      else false
  | _ => false

/-- The library as an engine. -/
def renderer (library : TemplateLibrary) : Renderer where
  answer past call := (library.perform (library.isTurnedAfter call.name past) call).1
  knows := library.knows

instance : Coe TemplateLibrary Renderer := ⟨renderer⟩

end TemplateLibrary

end EntityForge
