import ApiConformance.Text.Blank
import ApiConformance.Text.Decimal
import ApiConformance.Validation.Checked

/-!
Integers that are written as texts. Before the number itself a text may have
blanks, a sign and zeros; single underscores may stand between digits, and a point
with zeros after them. What is left without these is a number with an optional
minus sign and without zeros that lead it.
-/
namespace ApiConformance.Validation

/-- What follows zeros, the last of which (or of the underscores among them) is `last`. Zeros alone
leave their last character, and zeros before a point leave the one next to it. -/
def afterZeros (last : Char) : List Char → Option (List Char)
  | [] => some [last]
  | c :: rest =>
    if c = '0' ∨ c = '_' then afterZeros c rest
    else if c = '.' then some (last :: c :: rest)
    else if Text.isDigit c ∨ c = '-' then some (c :: rest)
    else none

/-- A number without the zeros that lead it. -/
def dropLeadingZeros : List Char → Option (List Char)
  | [] => none
  | c :: rest =>
    if c = '0' then afterZeros c rest
    else if Text.isDigit c ∨ c = '-' then some (c :: rest)
    else none

/-- A number without a point that zeros alone follow. -/
def dropZeroFraction (cs : List Char) : List Char :=
  match cs.dropWhile (· != '.') with
  | '.' :: c :: rest => if (c :: rest).all (· = '0') then cs.takeWhile (· != '.') else cs
  | _ => cs

/-- Whether underscores stand only between other characters, and never two together. -/
def isSeparated : List Char → Bool
  | [] => true
  | ['_'] => false
  | '_' :: '_' :: _ => false
  | _ :: rest => isSeparated rest

/-- A number without the underscores that separate its characters. -/
def dropSeparators (cs : List Char) : List Char :=
  if cs.head? != some '_' && isSeparated cs then cs.filter (· != '_') else cs

/-- The number of digits that are read as an integer. -/
def maxIntegerDigits : Nat := 4300

/-- A number in decimal with an optional minus sign and without leading zeros. -/
def plainInteger (cs : List Char) : Checked Int :=
  let (negative, unsigned) := match cs with
    | '-' :: rest => (true, rest)
    | _ => (false, cs)
  let digits := unsigned.takeWhile Text.isDigit
  if digits.isEmpty then .fault .integerText
  else if digits.head? = some '0' then if unsigned = ['0'] then .ok 0 else .fault .integerText
  else if maxIntegerDigits < digits.length then .fault .integerSize
  else if digits.length < unsigned.length then .fault .integerText
  else
    let magnitude : Int := Text.readDecimal digits
    .ok (if negative then -magnitude else magnitude)

/-- A text without the plus sign that starts it, unless a minus sign follows. -/
def dropPlus : List Char → List Char
  | '+' :: '-' :: rest => '+' :: '-' :: rest
  | '+' :: rest => rest
  | cs => cs

/-- An integer in decimal, between blanks. -/
def integerOfText (s : String) : Checked Int :=
  let (negative, unsigned) := match dropPlus (Text.trimBlank s.toList) with
    | '-' :: rest => (true, rest)
    | cs => (false, cs)
  match dropLeadingZeros unsigned with
  | none => .fault .integerText
  | some cs =>
    let cs := dropSeparators (dropZeroFraction cs)
    plainInteger (if negative then '-' :: cs else cs)

end ApiConformance.Validation
