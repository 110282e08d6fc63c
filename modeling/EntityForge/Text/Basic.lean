/-! # Texts as lists of code points

A schema document can spell half of a surrogate pair (`\ud800`), and such a name has to be shown
in a message. A text is therefore a list of code points, where a code point is a character or a
surrogate half that stands alone; every list operation and its lemmas apply to texts.
-/

namespace EntityForge

/-- A code point: a character, or the surrogate half `0xD800 + offset` standing alone. -/
inductive CodePoint
  | char (c : Char)
  | surrogate (offset : Fin 2048)
  deriving DecidableEq, Repr

instance : Inhabited CodePoint := ⟨.char ' '⟩

instance : Coe Char CodePoint := ⟨.char⟩

namespace CodePoint

/-- The number of a code point, below `0x110000`. -/
def toNat : CodePoint → Nat
  | .char c => c.toNat
  | .surrogate k => 0xD800 + k.val

/-- The code point of a number; numbers past the last code point give the null character. -/
def ofNat (n : Nat) : CodePoint :=
  if h : 0xD800 ≤ n ∧ n < 0xE000 then .surrogate ⟨n - 0xD800, by omega⟩ else .char (Char.ofNat n)

/-- The character of a code point that is one. -/
def toChar? : CodePoint → Option Char
  | .char c => some c
  | .surrogate _ => none

/-- Is this the character `c`? -/
def isChar (p : CodePoint) (c : Char) : Bool := p == .char c

/-- An ASCII decimal digit. -/
def isDigit (p : CodePoint) : Bool := 0x30 ≤ p.toNat && p.toNat ≤ 0x39

/-- The value of a hexadecimal digit in either case. -/
def hexValue? (p : CodePoint) : Option Nat :=
  let n := p.toNat
  if 0x30 ≤ n ∧ n ≤ 0x39 then some (n - 0x30)
  else if 0x41 ≤ n ∧ n ≤ 0x46 then some (n - 0x37)
  else if 0x61 ≤ n ∧ n ≤ 0x66 then some (n - 0x57)
  else none

@[simp]
theorem ofNat_toNat (p : CodePoint) : ofNat p.toNat = p := by
  cases p with
  | char c =>
      have hValid : ¬ (0xD800 ≤ c.toNat ∧ c.toNat < 0xE000) := by
        have h := c.valid
        simp only [UInt32.isValidChar, Nat.isValidChar] at h
        simp only [Char.toNat]
        omega
      simp [ofNat, toNat, hValid]
  | surrogate k =>
      have hRange : 0xD800 ≤ 0xD800 + k.val ∧ 0xD800 + k.val < 0xE000 := by omega
      simp [ofNat, toNat, hRange]

theorem toNat_injective {p q : CodePoint} (h : p.toNat = q.toNat) : p = q := by
  rw [← ofNat_toNat p, ← ofNat_toNat q, h]

end CodePoint

/-- A text is a list of code points. -/
abbrev Text := List CodePoint

instance : LawfulBEq Text := inferInstance

/-- The text of a string. -/
def text (s : String) : Text := s.toList.map .char

namespace Text

/-- The string of a text; a lone surrogate has no place in a string and becomes U+FFFD. -/
def toString (t : Text) : String :=
  String.ofList (t.map fun p => p.toChar?.getD '\uFFFD')

/-- The pieces of a text between the occurrences of `sep`; there is always at least one. -/
def splitOn (sep : CodePoint) : Text → List Text
  | [] => [[]]
  | p :: rest =>
      if p = sep then [] :: splitOn sep rest
      else
        match splitOn sep rest with
        | [] => [[p]]
        | piece :: pieces => (p :: piece) :: pieces

/-- The lines of a text, which a line feed separates. -/
def lines (t : Text) : List Text := splitOn '\n' t

/-- The texts of a list with `sep` between them. -/
def join (sep : Text) (ts : List Text) : Text := sep.intercalate ts

/-- Does the text begin with `front`? -/
def startsWith (t front : Text) : Bool := front.isPrefixOf t

/-- Does the text end with `back`? -/
def endsWith (t back : Text) : Bool := back.isSuffixOf t

/-- Does `part` occur somewhere in the text? -/
def hasPart (t part : Text) : Bool :=
  part.isPrefixOf t ||
    match t with
    | [] => false
    | _ :: rest => hasPart rest part

/-- Order by code point number, a proper beginning coming first. -/
def le : Text → Text → Bool
  | [], _ => true
  | _ :: _, [] => false
  | p :: s, q :: t => if p = q then le s t else p.toNat < q.toNat

/-- The decimal numeral of a natural number. -/
def ofNat (n : Nat) : Text := (Nat.toDigits 10 n).map .char

/-- The decimal numeral of an integer. -/
def ofInt (n : Int) : Text :=
  if n < 0 then .char '-' :: ofNat n.natAbs else ofNat n.natAbs

/-- A lower-case hexadecimal numeral, padded with zeros to at least `width` digits. -/
def ofNatHex (width n : Nat) : Text :=
  let digits := (Nat.toDigits 16 n).map CodePoint.char
  List.replicate (width - digits.length) (.char '0') ++ digits

/-- The number that a run of ASCII digits denotes. -/
def digitsValue (t : Text) : Nat := t.foldl (fun n p => 10 * n + (p.toNat - 0x30)) 0

/-- Every carriage return, alone or before a line feed, becomes one line feed. -/
def unifyNewlines : Text → Text
  | [] => []
  | .char '\r' :: .char '\n' :: rest => .char '\n' :: unifyNewlines rest
  | .char '\r' :: rest => .char '\n' :: unifyNewlines rest
  | p :: rest => p :: unifyNewlines rest

theorem splitOn_ne_nil (sep : CodePoint) (t : Text) : splitOn sep t ≠ [] := by
  induction t with
  | nil => simp [splitOn]
  | cons p rest ih =>
      simp only [splitOn]
      split
      · simp
      · split <;> simp

@[simp]
theorem splitOn_nil (sep : CodePoint) : splitOn sep [] = [[]] := rfl

@[simp]
theorem splitOn_cons_self (sep : CodePoint) (t : Text) :
    splitOn sep (sep :: t) = [] :: splitOn sep t := by
  simp [splitOn]

end Text

end EntityForge
