import EntityForge.Text.Basic

/-! # Paths

A path is a list of names, possibly below a root. Empty names and single dots say nothing and are
dropped when a path is read; two dots are kept, since what they mean depends on the file tree.
-/

namespace EntityForge

/-- A path: its root (empty for a relative path) and its names. -/
structure Path where
  root : Text := []
  parts : List Text := []
  deriving DecidableEq, Repr

namespace Path

/-- The root at the head of a path text. Two slashes are a root of their own, three are one. -/
def rootOf : Text → Text
  | .char '/' :: .char '/' :: .char '/' :: _ => text "/"
  | .char '/' :: .char '/' :: _ => text "//"
  | .char '/' :: _ => text "/"
  | _ => []

/-- The path that a text denotes. -/
def parse (t : Text) : Path where
  root := rootOf t
  parts := (Text.splitOn '/' t).filter fun part => !part.isEmpty && part ≠ text "."

/-- The text of a path. -/
def toText (p : Path) : Text :=
  if p.root.isEmpty && p.parts.isEmpty then text "." else p.root ++ Text.join (text "/") p.parts

/-- Is the path relative? -/
def isRelative (p : Path) : Bool := p.root.isEmpty

/-- The path that `name` denotes when it is looked up from `p`. -/
def child (p : Path) (name : Text) : Path :=
  let below := parse name
  if below.isRelative then { p with parts := p.parts ++ below.parts } else below

/-- The path without its last name. -/
def parent (p : Path) : Path := { p with parts := p.parts.dropLast }

/-- The last name of a path, empty if there is none. -/
def name (p : Path) : Text := p.parts.getLast?.getD []

/-- The end of the last name from its last dot on, unless that dot is the first or the last code
point of the name. -/
def extension (p : Path) : Text :=
  let back := p.name.reverse.takeWhile (· ≠ .char '.')
  if back.isEmpty || p.name.length ≤ back.length + 1 then [] else .char '.' :: back.reverse

/-- Order by names, one after the other. -/
def le (p q : Path) : Bool := compareParts p.parts q.parts
where
  /-- Order of lists of names, a proper beginning coming first. -/
  compareParts : List Text → List Text → Bool
    | [], _ => true
    | _ :: _, [] => false
    | a :: s, b :: t => if a = b then compareParts s t else Text.le a b

end Path

end EntityForge
