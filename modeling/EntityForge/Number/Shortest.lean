import EntityForge.Number.Binary64
import EntityForge.Text.Basic

/-! # Shortest decimals

A floating-point number is written with the fewest decimal digits that read back as the same
number, and with the nearest of those. The search tries the two neighbours of the number on ever
finer decimal grids; a number that no grid of 17 digits catches would be written out exactly.
How the digits are laid out is a record of its own.
-/

namespace EntityForge

/-- The decimal `digits · 10 ^ exponent`. -/
structure Decimal where
  digits : Nat
  exponent : Int
  deriving DecidableEq, Repr

namespace Decimal

/-- The same decimal with the fewest digits. -/
def normal (d : Decimal) : Decimal :=
  if d.digits = 0 then ⟨0, 0⟩
  else if d.digits % 10 = 0 then normal ⟨d.digits / 10, d.exponent + 1⟩
  else d
termination_by d.digits
decreasing_by omega

end Decimal

namespace Binary64

/-- `mantissa · 2 ^ exponent` as a fraction. -/
def toRatio (mantissa : Nat) (exponent : Int) : Nat × Nat :=
  let power := Nat.pow 2 exponent.natAbs
  if exponent < 0 then (mantissa, power) else (mantissa * power, 1)

/-- `num / den / 10 ^ exponent` as a fraction. -/
def scaleTen (num den : Nat) (exponent : Int) : Nat × Nat :=
  let power := Nat.pow 10 exponent.natAbs
  if exponent < 0 then (num * power, den) else (num, den * power)

/-- The greatest `e` with `10 ^ e ≤ num / den`, for positive `num` and `den`. -/
def log10Ratio (num den : Nat) : Int :=
  let e : Int := (Nat.toDigits 10 num).length - (Nat.toDigits 10 den).length
  let (n, d) := scaleTen num den e
  if d ≤ n then e else e - 1

/-- The neighbours of `num / den` on the grid of the multiples of `10 ^ exponent`, the nearer one
first; of two that are as near the even one. -/
def gridNeighbours (num den : Nat) (exponent : Int) : List Decimal :=
  let (n, d) := scaleTen num den exponent
  let low := n / d
  let rest := 2 * (n % d)
  let below : Decimal := ⟨low, exponent⟩
  let above : Decimal := ⟨low + 1, exponent⟩
  if rest < d ∨ (rest = d ∧ low % 2 = 0) then [below, above] else [above, below]

/-- The exact decimal of `mantissa · 2 ^ exponent`. -/
def exactDecimal (mantissa : Nat) (exponent : Int) : Decimal :=
  if exponent < 0 then ⟨mantissa * Nat.pow 5 exponent.natAbs, exponent⟩
  else ⟨mantissa * Nat.pow 2 exponent.natAbs, 0⟩

/-- The shortest decimal that reads back as `mantissa · 2 ^ exponent`. -/
def shortest (mantissa : Nat) (exponent : Int) : Decimal :=
  let (num, den) := toRatio mantissa exponent
  let top := log10Ratio num den
  let readsBack (d : Decimal) : Bool :=
    ofDecimal false d.digits d.exponent = .finite false mantissa exponent
  let found := (List.range 17).findSome? fun (n : Nat) =>
    (gridNeighbours num den (top - n)).find? readsBack
  (found.getD (exactDecimal mantissa exponent)).normal

/-- How a floating-point number is laid out. -/
structure Layout where
  /-- The text of no number. -/
  nan : Text
  /-- The text of infinity, after the sign. -/
  infinity : Text
  /-- The least exponent of the leading digit that is written without an exponent. -/
  leastPlain : Int
  /-- The greatest exponent of the leading digit that is written without an exponent. -/
  greatestPlain : Int
  /-- The least number of digits of a written exponent. -/
  exponentDigits : Nat

/-- The digits of a decimal with the point where `lead`, the exponent of its first digit, puts
it; a whole number ends in `.0`. -/
def plainDigits (digits : Text) (lead : Int) : Text :=
  if lead < 0 then text "0." ++ List.replicate (lead.natAbs - 1) (.char '0') ++ digits
  else
    let whole := lead.toNat + 1
    let front := digits.take whole
    let back := digits.drop whole
    front ++ List.replicate (whole - digits.length) (.char '0') ++ text "." ++
      (if back.isEmpty then text "0" else back)

/-- The digits of a decimal with the point after the first one and an exponent. -/
def scientificDigits (layout : Layout) (digits : Text) (lead : Int) : Text :=
  let exponent := Text.ofNat lead.natAbs
  digits.take 1 ++ (if digits.length ≤ 1 then [] else .char '.' :: digits.drop 1) ++
    text "e" ++ (if lead < 0 then text "-" else text "+") ++
    List.replicate (layout.exponentDigits - exponent.length) (.char '0') ++ exponent

/-- The numeral of a floating-point number: its shortest digits in a layout. -/
def numeral (layout : Layout) : Binary64 → Text
  | .nan => layout.nan
  | .infinite negative => (if negative then text "-" else []) ++ layout.infinity
  | .finite negative 0 _ => (if negative then text "-" else []) ++ text "0.0"
  | .finite negative mantissa exponent =>
      let d := shortest mantissa exponent
      let digits := Text.ofNat d.digits
      let lead : Int := d.exponent + digits.length - 1
      (if negative then text "-" else []) ++
        (if layout.leastPlain ≤ lead ∧ lead ≤ layout.greatestPlain then plainDigits digits lead
         else scientificDigits layout digits lead)

end Binary64

end EntityForge
