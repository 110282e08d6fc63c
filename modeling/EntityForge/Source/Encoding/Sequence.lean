import EntityForge.Text.Utf8

/-! # Sequences of bytes

Most encodings are read one sequence of bytes at a time, and some of them change how they read as
they go. A reader of sequences says what the sequence at the head of the bytes stands for. U+FFFD
takes the place of a bad sequence.
-/

namespace EntityForge

/-- A sequence of bytes: the code points that it stands for, or none at all if it is bad, and how
many bytes after its first belong to it. -/
inductive ByteSequence
  | codes (codes : List Nat) (more : Nat)
  | bad (more : Nat)
  deriving DecidableEq, Repr

/-- A reader of the sequence that begins with a byte, given the bytes after it. -/
abbrev SequenceReader := UInt8 → Bytes → ByteSequence

namespace ByteSequence

/-- The text that a sequence stands for. -/
def toText : ByteSequence → Text
  | .codes read _ => read.map .ofNat
  | .bad _ => [.char '\uFFFD']

/-- How many bytes after its first belong to a sequence. -/
def more : ByteSequence → Nat
  | .codes _ more => more
  | .bad more => more

/-- A sequence of two bytes, or a bad one of a single byte. -/
def ofPair : Option (List Nat) → ByteSequence
  | none => .bad 0
  | some read => .codes read 1

/-- Decodes bytes with a reader that carries a state from sequence to sequence. -/
def decodeFrom {σ : Type} (read : σ → UInt8 → Bytes → ByteSequence × σ) (state : σ) :
    Bytes → Text
  | [] => []
  | b :: rest =>
      let (found, state) := read state b rest
      found.toText ++ decodeFrom read state (rest.drop found.more)
termination_by bytes => bytes.length
decreasing_by
  simp only [List.length_drop, List.length_cons]
  omega

/-- Decodes bytes with a reader. -/
def decodeWith (read : SequenceReader) (bytes : Bytes) : Text :=
  decodeFrom (fun (_ : Unit) b rest => (read b rest, ())) () bytes

/-- A reader of sequences of one byte, where a byte has a code of its own, and of two bytes. A
sequence that is cut short is bad. -/
def ofBytes (one? : Nat → Option Nat) (pair : Nat → Nat → ByteSequence) : SequenceReader
  | b, rest =>
      match one? b.toNat, rest with
      | some code, _ => .codes [code] 0
      | none, [] => .bad 0
      | none, c :: _ => pair b.toNat c.toNat

/-- The code of a byte of ASCII. -/
def ascii? (b : Nat) : Option Nat := if b < 0x80 then some b else none

end ByteSequence

end EntityForge
