import EntityForge.Files.Machine

/-! # Documents in projects

The document of a project is the first file in its directory, at any depth, whose name ends with a
given text. That text also counts as the end of a path pattern, so a file has to satisfy both.
-/

namespace EntityForge.Source

/-- The first of some paths. -/
def first? : List Path → Option Path
  | [] => none
  | path :: rest => some (rest.foldl (fun least p => if least.le p then least else p) path)

/-- The document of a project. -/
def findFile (machine : Machine) (directory : Path) (ending : Text) :
    Except Failure (Option Path) :=
  match machine.hasDirectory directory with
  | .error cause => .error (.breakdown cause)
  | .ok false => .error (.source (.noProjectDirectory directory))
  | .ok true =>
      match machine.search directory (.char '*' :: ending) with
      | .error cause => .error (.breakdown cause)
      | .ok files => .ok (first? (files.filter fun path => path.name.endsWith ending))

end EntityForge.Source
