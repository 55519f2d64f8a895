/-!
Binary floating-point numbers of 64 bits, as exact values: a finite number is
`± mantissa · 2 ^ exponent`, with the mantissa below `2 ^ 53` and the exponent
the least that allows it. Rounding goes to the nearest number, and a tie to the
even mantissa. Everything is natural-number arithmetic, so results can be
computed inside proofs.
-/
namespace ApiConformance

inductive Binary64 where
  | nan
  | infinite (negative : Bool)
  | finite (negative : Bool) (mantissa : Nat) (exponent : Int)
  deriving DecidableEq, Repr, Inhabited

namespace Binary64

def minExponent : Int := -1074
def maxExponent : Int := 971

/-- The least mantissa that is too large. -/
def mantissaBound : Nat := 1 <<< 53

def zero (negative : Bool) : Binary64 := .finite negative 0 minExponent

/-- The nearest integer to `num / den`, a half going to the even neighbour. -/
def roundHalfEven (num den : Nat) : Nat :=
  let floor := num / den
  let twice := 2 * (num % den)
  if twice < den then floor
  else if den < twice then floor + 1
  else if floor % 2 = 0 then floor
  else floor + 1

/-- Numerator and denominator of `num / (den · 2 ^ exponent)`. -/
def scaled (num den : Nat) (exponent : Int) : Nat × Nat :=
  if 0 ≤ exponent then (num, den <<< exponent.toNat)
  else (num <<< (-exponent).toNat, den)

/-- The number nearest to `± num / den`. -/
def ofRatio (negative : Bool) (num den : Nat) : Binary64 :=
  if num = 0 then zero negative
  else
    let low := max ((num.log2 : Int) - den.log2 - 53) minExponent
    let (n, d) := scaled num den low
    let exponent := if mantissaBound ≤ n / d then low + 1 else low
    let (n, d) := scaled num den exponent
    let mantissa := roundHalfEven n d
    let (mantissa, exponent) :=
      if mantissa = mantissaBound then (mantissa / 2, exponent + 1) else (mantissa, exponent)
    if mantissa = 0 then zero negative
    else if maxExponent < exponent then .infinite negative
    else .finite negative mantissa exponent

/-- The number nearest to `± digits · 10 ^ exponent`. Exponents so far out that the answer is
infinite or zero whatever the digits are never raised to a power. -/
def ofDecimal (negative : Bool) (digits : Nat) (exponent : Int) : Binary64 :=
  if digits = 0 then zero negative
  else if 400 < exponent then .infinite negative
  else if exponent + digits.log2 < -400 then zero negative
  else if 0 ≤ exponent then ofRatio negative (digits * Nat.pow 10 exponent.toNat) 1
  else ofRatio negative digits (Nat.pow 10 (-exponent).toNat)

def ofNat (n : Nat) : Binary64 := ofRatio false n 1

def isFinite : Binary64 → Bool
  | .finite .. => true
  | _ => false

def negate : Binary64 → Binary64
  | .nan => .nan
  | .infinite negative => .infinite (!negative)
  | .finite negative mantissa exponent => .finite (!negative) mantissa exponent

/-- The integer that a finite number without a fractional part stands for. -/
def toInt? : Binary64 → Option Int
  | .finite negative mantissa exponent =>
    let magnitude : Option Nat :=
      if 0 ≤ exponent then some (mantissa <<< exponent.toNat)
      else
        let unit := 1 <<< (-exponent).toNat
        if mantissa % unit = 0 then some (mantissa / unit) else none
    magnitude.map fun n => if negative then -(n : Int) else n
  | _ => none

/-- The product of the magnitudes, rounded once. -/
def mul : Binary64 → Binary64 → Binary64
  | .finite a m p, .finite b n q =>
    let (num, den) := scaled (m * n) 1 (-(p + q))
    ofRatio (a != b) num den
  | .nan, _ => .nan
  | _, .nan => .nan
  | .infinite a, .finite b n _ => if n = 0 then .nan else .infinite (a != b)
  | .finite a m _, .infinite b => if m = 0 then .nan else .infinite (a != b)
  | .infinite a, .infinite b => .infinite (a != b)

/-- The sum, rounded once. -/
def add : Binary64 → Binary64 → Binary64
  | .finite a m p, .finite b n q =>
    let base := min p q
    let x : Int := m <<< (p - base).toNat
    let y : Int := n <<< (q - base).toNat
    let sum := (if a then -x else x) + (if b then -y else y)
    if sum = 0 then zero (a && b)
    else
      let (num, den) := scaled sum.natAbs 1 (-base)
      ofRatio (sum < 0) num den
  | .nan, _ => .nan
  | _, .nan => .nan
  | .infinite a, .infinite b => if a = b then .infinite a else .nan
  | .infinite a, _ => .infinite a
  | _, .infinite b => .infinite b

end Binary64

end ApiConformance
