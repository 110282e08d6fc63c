import EntityForge.Text.Basic

/-! # Name patterns

A pattern matches whole names: a star stands for any text, a question mark for any code point, and
a bracket for one of a set of code points. A bracket that is never closed stands for itself.
-/

namespace EntityForge

/-- One part of a pattern. -/
inductive GlobPart
  | literal (p : CodePoint)
  | anyText
  | anyCode
  | oneOf (negated : Bool) (ranges : List (Nat × Nat))
  deriving DecidableEq, Repr

namespace Glob

/-- The chunks of a bracket between the hyphens that make ranges. After each such hyphen the next
two code points cannot make a range again. The first argument counts the code points that are
passed over before the next hyphen is looked for. -/
def chunksOf (passed : Nat) (chunk : Text) : Text → List Text
  | [] => [chunk.reverse]
  | p :: rest =>
      match passed with
      | 0 =>
          if p = .char '-' then chunk.reverse :: chunksOf 2 [] rest
          else chunksOf 0 (p :: chunk) rest
      | passed + 1 => chunksOf passed (p :: chunk) rest

/-- The chunks of the inside of a bracket; a hyphen at its end belongs to the chunk before it. No
range begins with the negation mark. -/
def chunks (inside : Text) : List Text :=
  let passed := if inside.head? = some (.char '!') then 2 else 1
  match (chunksOf passed [] inside).reverse with
  | [] :: last :: before => ((last ++ text "-") :: before).reverse
  | found => found.reverse

/-- Chunks without the ranges whose end lies before their beginning: such a range vanishes together
with its two ends. The chunks come last first and are given back in order. -/
def dropEmptyRanges (merged : List Text) : List Text → List Text
  | [] => merged
  | chunk :: before =>
      match merged with
      | next :: later =>
          match chunk.getLast?, next.head? with
          | some a, some b =>
              if b.toNat < a.toNat then
                dropEmptyRanges ((chunk.dropLast ++ next.tail) :: later) before
              else dropEmptyRanges (chunk :: merged) before
          | _, _ => dropEmptyRanges (chunk :: merged) before
      | [] => dropEmptyRanges [chunk] before

/-- The code points of chunks: each by itself, and between two chunks the range from the end of the
one to the beginning of the other. A hyphen that has nothing before it stands for itself. -/
def rangesOf : List Text → List (Nat × Nat)
  | [] => []
  | chunk :: rest =>
      let singles := chunk.map fun p => (p.toNat, p.toNat)
      let between :=
        match chunk.getLast?, rest.head?.bind List.head? with
        | some a, some b => [(a.toNat, b.toNat)]
        | none, some _ => [(0x2D, 0x2D)]
        | _, none => []
      singles ++ between ++ rangesOf rest

/-- The inside of a bracket at the head of a text and what follows the bracket. A closing bracket
right at the beginning, or after the negation mark, belongs to the inside. -/
def bracket? (t : Text) : Option (Text × Text) :=
  let marks := if t.head? = some (.char '!') then 1 else 0
  let marks := if (t.drop marks).head? = some (.char ']') then marks + 1 else marks
  let inside := (t.drop marks).takeWhile (· ≠ .char ']')
  match (t.drop marks).drop inside.length with
  | [] => none
  | _ :: rest => some (t.take marks ++ inside, rest)

theorem length_of_bracket? {t inside rest : Text} (h : bracket? t = some (inside, rest)) :
    rest.length < t.length := by
  simp only [bracket?] at h
  split at h
  · simp at h
  · next _ p tail hDrop =>
      simp only [Option.some.injEq, Prod.mk.injEq] at h
      obtain ⟨-, rfl⟩ := h
      have hLength := congrArg List.length hDrop
      simp only [List.length_drop, List.length_cons] at hLength
      omega

/-- The part that a bracket stands for. The negation mark counts if it stands first after the empty
ranges are gone; with nothing after it the bracket stands for any code point. -/
def bracketPart (inside : Text) : GlobPart :=
  let kept :=
    if inside.contains (.char '-') then dropEmptyRanges [] (chunks inside).reverse else [inside]
  match kept with
  | (.char '!' :: first) :: later => .oneOf true (rangesOf (first :: later))
  | kept => .oneOf false (rangesOf kept)

/-- The parts of a pattern. -/
def parse (pattern : Text) : List GlobPart :=
  match pattern with
  | [] => []
  | .char '*' :: rest => .anyText :: parse rest
  | .char '?' :: rest => .anyCode :: parse rest
  | .char '[' :: rest =>
      match h : bracket? rest with
      | none => .literal (.char '[') :: parse rest
      | some (inside, after) =>
          have := length_of_bracket? h
          bracketPart inside :: parse after
  | p :: rest => .literal p :: parse rest
termination_by pattern.length

/-- Does a part that stands for one code point stand for this one? -/
def isMatch (part : GlobPart) (p : CodePoint) : Bool :=
  match part with
  | .literal q => p = q
  | .anyText => true
  | .anyCode => true
  | .oneOf negated ranges =>
      (ranges.any fun range => range.1 ≤ p.toNat && p.toNat ≤ range.2) != negated

/-- Do the parts match a whole name? -/
def accepts : List GlobPart → Text → Bool
  | [], name => name.isEmpty
  | .anyText :: parts, [] => accepts parts []
  | .anyText :: parts, p :: name => accepts parts (p :: name) || accepts (.anyText :: parts) name
  | _ :: _, [] => false
  | part :: parts, p :: name => isMatch part p && accepts parts name

end Glob

end EntityForge
