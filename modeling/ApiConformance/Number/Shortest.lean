import ApiConformance.Number.Binary64
import ApiConformance.Text.Decimal

/-!
The shortest decimal text of a floating-point number: the fewest digits that
read back as the number, the nearest such digits to it, positional notation from
`0.0001` to below `10 ^ 16`, and an exponent of at least two digits elsewhere.
-/
namespace ApiConformance.Binary64

/-- A decimal number `digits · 10 ^ exponent`. -/
structure Decimal where
  digits : Nat
  exponent : Int
  deriving DecidableEq, Repr

namespace Decimal

/-- Drops trailing zeros of the digits; `fuel` bounds their number. -/
def normalize : Nat → Decimal → Decimal
  | 0, d => d
  | fuel + 1, d =>
    if d.digits ≠ 0 ∧ d.digits % 10 = 0 then normalize fuel ⟨d.digits / 10, d.exponent + 1⟩ else d

end Decimal

/-- Bounds of the reals that round to `mantissa · 2 ^ exponent`, as numerators over one
denominator: below, the number itself, above, and the denominator. -/
def neighbourhood (mantissa : Nat) (exponent : Int) : Nat × Nat × Nat × Nat :=
  let below := if 2 * mantissa = mantissaBound ∧ minExponent < exponent then 1 else 2
  let unit := exponent - 2
  let up (n : Nat) := if 0 ≤ unit then n <<< unit.toNat else n
  (up (4 * mantissa - below), up (4 * mantissa), up (4 * mantissa + 2),
    if 0 ≤ unit then 1 else 1 <<< (-unit).toNat)

/-- The point of the grid of `count` digits that rounds to the number, if there is one. -/
def gridPoint (mantissa : Nat) (exponent magnitude : Int) (count : Nat) : Option Decimal :=
  let (low, value, high, den) := neighbourhood mantissa exponent
  let place := magnitude - count
  -- all four scaled so that the grid has unit one
  let up (n : Nat) := if 0 ≤ place then n else n * Nat.pow 10 (-place).toNat
  let unit := if 0 ≤ place then den * Nat.pow 10 place.toNat else den
  let even := mantissa % 2 = 0
  let inside (n : Nat) : Bool :=
    if even then decide (up low ≤ n * unit ∧ n * unit ≤ up high)
    else decide (up low < n * unit ∧ n * unit < up high)
  let floor := up value / unit
  let down := inside floor
  let above := inside (floor + 1)
  if down && above then
    let twice := 2 * (up value % unit)
    let upward := unit < twice || (unit == twice && floor % 2 == 1)
    some ⟨if upward then floor + 1 else floor, place⟩
  else if down then some ⟨floor, place⟩
  else if above then some ⟨floor + 1, place⟩
  else none

/-- The decimal exponent `p` with `10 ^ (p - 1) ≤ value < 10 ^ p`. -/
def magnitude (mantissa : Nat) (exponent : Int) : Int :=
  let (num, den) := scaled mantissa 1 (-exponent)
  let guess : Int := (Nat.toDigits 10 num).length - (Nat.toDigits 10 den).length
  let above : Bool :=
    if 0 ≤ guess then decide (den * Nat.pow 10 guess.toNat ≤ num)
    else decide (den ≤ num * Nat.pow 10 (-guess).toNat)
  if above then guess + 1 else guess

/-- The fewest digits that read back; seventeen always do. -/
def shortest (mantissa : Nat) (exponent : Int) : Decimal :=
  let size := magnitude mantissa exponent
  let found := (List.range 17).findSome? fun n => gridPoint mantissa exponent size (n + 1)
  Decimal.normalize 17 (found.getD ⟨0, 0⟩)

/-- Where the decimal point stands, counted from the first digit, decides the notation. -/
def decimalText (d : Decimal) : String :=
  let digits := (Text.natural d.digits).toList
  let point : Int := digits.length + d.exponent
  if -4 < point ∧ point ≤ 16 then
    if point ≤ 0 then
      "0." ++ String.ofList (List.replicate (-point).toNat '0' ++ digits)
    else
      let whole := point.toNat
      let padded := digits ++ List.replicate (whole - digits.length) '0'
      let fraction := padded.drop whole
      String.ofList (padded.take whole) ++ "." ++
        (if fraction.isEmpty then "0" else String.ofList fraction)
  else
    let power := point - 1
    let mark := if power < 0 then "e-" else "e+"
    String.ofList (digits.take 1)
      ++ (if digits.length ≤ 1 then "" else "." ++ String.ofList (digits.drop 1))
      ++ mark ++ Text.padded 2 power.natAbs

def text : Binary64 → String
  | .nan => "nan"
  | .infinite negative => if negative then "-inf" else "inf"
  | .finite negative mantissa exponent =>
    let magnitude := if mantissa = 0 then "0.0" else decimalText (shortest mantissa exponent)
    if negative then "-" ++ magnitude else magnitude

end ApiConformance.Binary64
