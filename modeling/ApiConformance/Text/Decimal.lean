/-! Integers written in decimal, without leading zeros and with one minus sign. -/
namespace ApiConformance.Text

def natural (n : Nat) : String := n.repr

/-- The decimal of an integer, however long it is; `isWritable` tells whether it is too long. -/
def integer : Int → String
  | .ofNat n => natural n
  | .negSucc n => "-" ++ natural (n + 1)

@[simp] theorem integer_ofNat (n : Nat) : integer (Int.ofNat n) = natural n := rfl

/-- The most digits that are ever written. -/
def maxDigits : Nat := 4300

/-- Whether an integer has no more digits than are ever written. -/
def isWritable (n : Int) : Bool := n.natAbs < Nat.pow 10 maxDigits

/-- Left-pads a number with zeros to at least `width` digits. -/
def padded (width n : Nat) : String :=
  let digits := natural n
  String.ofList (List.replicate (width - digits.length) '0') ++ digits

/-- The value of a digit in bases up to sixteen. -/
def digitValue (c : Char) : Option Nat :=
  if '0' ≤ c ∧ c ≤ '9' then some (c.toNat - '0'.toNat)
  else if 'a' ≤ c ∧ c ≤ 'f' then some (c.toNat - 'a'.toNat + 10)
  else if 'A' ≤ c ∧ c ≤ 'F' then some (c.toNat - 'A'.toNat + 10)
  else none

def isDigit (c : Char) : Bool := decide ('0' ≤ c ∧ c ≤ '9')

def isHexDigit (c : Char) : Bool := (digitValue c).isSome

/-- Reads digits of a base, or nothing when a character is no digit of it. -/
def readBase (base : Nat) (digits : List Char) : Option Nat :=
  digits.foldlM (fun n c =>
    match digitValue c with
    | some d => if d < base then some (n * base + d) else none
    | none => none) 0

/-- Characters that are no digits count as zero, so callers check them first. -/
def readDecimal (digits : List Char) : Nat :=
  digits.foldl (fun n c => n * 10 + (c.toNat - '0'.toNat)) 0

/-- Lower-case digits in base sixteen, padded with zeros to `width`. -/
def hexadecimal (width n : Nat) : String :=
  let digits := Nat.toDigits 16 n
  String.ofList (List.replicate (width - digits.length) '0' ++ digits)

end ApiConformance.Text
