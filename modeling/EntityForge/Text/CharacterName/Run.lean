import EntityForge.Text.Basic

/-! # Runs of names

The names of neighbouring code points often open alike. A run of names gives the openings that its
names take turns with and, between semicolons, what follows them.
-/

namespace EntityForge

/-- The names of neighbouring code points: the first of them, the openings that each name in turn
begins with, and the rests of the names. A rest stands after every opening before the next rest
comes; an empty opening is none. -/
structure NameRun where
  first : Nat
  openings : List String
  rests : String
  deriving DecidableEq, Repr

namespace NameRun

/-- The rest of a name after an opening and a space. -/
def restAfter? (opening name : Text) : Option Text :=
  if opening.isEmpty then some name
  else if (opening ++ text " ").isPrefixOf name then some (name.drop (opening.length + 1))
  else none

/-- The code point of the name with an opening that stands at a place among the openings. -/
def codeAt? (run : NameRun) (name : Text) (opening : String) (place : Nat) : Option Nat := do
  let rest ← restAfter? (text opening) name
  let index ← (Text.splitOn (.char ';') (text run.rests)).idxOf? rest
  return run.first + index * run.openings.length + place

/-- The code point of a name of the run. -/
def code? (run : NameRun) (name : Text) : Option Nat :=
  run.openings.zipIdx.findSome? fun (opening, place) => run.codeAt? name opening place

end NameRun

end EntityForge
