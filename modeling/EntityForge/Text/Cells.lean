import EntityForge.Text.Width

/-! # Columns of a text

What a text fills on a terminal is not the sum of what its code points fill. A joiner makes one
symbol of those on either side of it, and a selector asks for the emoji form of the symbol before
it. A text falls into clusters that are never torn apart: a code point that fills a column and all
that is shown together with it.
-/

namespace EntityForge

namespace CodePoint

/-- Does the code point join those on either side of it? -/
def isJoiner (p : CodePoint) : Bool := p.toNat = 0x200D

/-- Does the code point ask for the emoji form of the one before it? -/
def isSelector (p : CodePoint) : Bool := p.toNat = 0xFE0F

/-- The code point, if it fills a column, or else the one that did before. -/
def orFilling (p : CodePoint) (before : Option CodePoint) : Option CodePoint :=
  if p.cells = 0 then before else some p

/-- The columns that a selector adds after this code point. -/
def addedCells : Option CodePoint → Nat
  | none => 0
  | some p => if p.isWidened then 1 else 0

end CodePoint

/-- Code points that are shown together, and the number of columns that they fill. -/
structure Cluster where
  codes : Text
  cells : Nat
  deriving DecidableEq, Repr

namespace Text

/-- The number of columns that a text fills, given the code point before it that a selector would
change. What follows a joiner fills no column of its own. -/
def cellsAfter (before : Option CodePoint) : Text → Nat
  | [] => 0
  | p :: rest =>
      if p.isJoiner then
        match rest with
        | [] => 0
        | _ :: rest => cellsAfter before rest
      else if p.isSelector then CodePoint.addedCells before + cellsAfter none rest
      else p.cells + cellsAfter (p.orFilling before) rest

/-- The number of columns that a text fills. -/
def cells (t : Text) : Nat := cellsAfter none t

end Text

namespace Cluster

/-- The cluster with more code points at its end. -/
def extend (c : Cluster) (more : Text) : Cluster := { c with codes := c.codes ++ more }

/-- The clusters of a cluster at hand and what follows it, given the code point before that a
selector would change. -/
def gather (c : Cluster) (before : Option CodePoint) : Text → List Cluster
  | [] => [c]
  | p :: rest =>
      if p.isJoiner then
        match rest with
        | [] => [c.extend [p]]
        | q :: rest => gather (c.extend [p, q]) before rest
      else if p.isSelector then
        match CodePoint.addedCells before with
        | 0 => gather (c.extend [p]) before rest
        | added => gather ⟨c.codes ++ [p], c.cells + added⟩ none rest
      else if p.cells = 0 then gather (c.extend [p]) before rest
      else c :: gather ⟨[p], p.cells⟩ (some p) rest

/-- The clusters of a text. -/
def ofText : Text → List Cluster
  | [] => []
  | p :: rest => gather ⟨[p], p.cells⟩ (p.orFilling none) rest

end Cluster

namespace Text

/-- The pieces of a text that fill at most `width` columns each, given what is in the piece at hand
and the columns that it fills. What fills no column makes no piece at the end. -/
def chopClusters (width : Nat) (piece : Text) (filled : Nat) : List Cluster → List Text
  | [] => if filled = 0 then [] else [piece]
  | c :: rest =>
      if width < filled + c.cells then piece :: chopClusters width c.codes c.cells rest
      else chopClusters width (piece ++ c.codes) (filled + c.cells) rest

/-- The pieces of a text that fill at most `width` columns each. -/
def chop (width : Nat) (t : Text) : List Text := chopClusters width [] 0 (Cluster.ofText t)

/-- As many clusters as fit into `width` columns, with blanks in the place of one that does not fit
as a whole. -/
def cropClusters (width : Nat) : List Cluster → Text
  | [] => []
  | c :: rest =>
      if width = 0 then []
      else if width < c.cells then [.char ' ']
      else c.codes ++ cropClusters (width - c.cells) rest

/-- As much of a text as fits into `width` columns. -/
def crop (width : Nat) (t : Text) : Text :=
  if t.cells ≤ width then t else cropClusters width (Cluster.ofText t)

end Text

end EntityForge
