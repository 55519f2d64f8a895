import ApiConformance.Text.Blank
import ApiConformance.Text.Case
import ApiConformance.Text.Digit
import ApiConformance.Value.Key
import ApiConformance.Yaml.Tag
import ApiConformance.Yaml.Token

/-!
What scalars stand for, given their tags. Numbers may have underscores, a sign, a
prefix for their base, or parts in base sixty; text that a tag does not fit is a
bad value.
-/
namespace ApiConformance.Yaml

def isNegative (cs : List Char) : Bool := cs.head? == some '-'

def withoutUnderscores (s : String) : List Char := s.toList.filter (· != '_')

/-- Digits without the mark that a base may have in front of them. -/
def dropBaseMark (base : Nat) (cs : List Char) : List Char :=
  match cs with
  | '0' :: mark :: digits =>
    if [(2, 'b'), (2, 'B'), (8, 'o'), (8, 'O'), (16, 'x'), (16, 'X')].contains (base, mark) then
      digits
    else cs
  | _ => cs

/-- An optional sign and digits of a base, between blanks; digits may be those of any script. Too
many digits in base ten are not read, whatever follows them. -/
def signedDigits (base : Nat) (cs : List Char) : Except BadValue Int :=
  let trimmed := (Text.trimBlank cs).map Text.plainDigit
  let digits := dropBaseMark base (Tag.dropSign trimmed)
  let run := (digits.takeWhile Text.isDigit).length
  if base = 10 ∧ Scanner.maxDigits < run then .error (.integerDigits run)
  else
    match Text.readBase base digits with
    | some n =>
      if digits.isEmpty then .error (.integerText base (String.ofList cs))
      else .ok (if isNegative trimmed then -(n : Int) else n)
    | none => .error (.integerText base (String.ofList cs))

/-- Parts in base sixty, the last one being the units. -/
def sexagesimal (parts : List Int) : Int :=
  parts.foldl (fun n part => n * 60 + part) 0

def integerMagnitude (cs : List Char) : Except BadValue Int :=
  match cs with
  | [] => .error .emptyNumber
  | ['0'] => .ok 0
  | '0' :: 'b' :: digits => signedDigits 2 digits
  | '0' :: 'x' :: digits => signedDigits 16 digits
  | '0' :: _ => signedDigits 8 cs
  | _ =>
    if cs.contains ':' then sexagesimal <$> (Tag.splitColons cs).mapM (signedDigits 10)
    else signedDigits 10 cs

def integerOf (s : String) : Except BadValue Int :=
  let cs := withoutUnderscores s
  match cs with
  | [] => .error .emptyNumber
  | _ => (integerMagnitude (Tag.dropSign cs)).map fun n => if isNegative cs then -n else n

/-- An exponent and its sign. -/
def exponentOf (cs : List Char) : Option Int :=
  match cs with
  | [] => some 0
  | e :: rest =>
    let digits := Tag.dropSign rest
    if e = 'e' ∧ !digits.isEmpty ∧ digits.all Text.isDigit then
      let n : Int := Text.readDecimal digits
      some (if isNegative rest then -n else n)
    else none

/-- A decimal number with an optional sign, fraction and exponent, between blanks; or a word for
infinity or for no number. -/
def realNumber (cs : List Char) : Except BadValue Binary64 :=
  let trimmed := (Text.trimBlank cs).map Text.plainDigit
  let negative := isNegative trimmed
  let unsigned := Tag.dropSign trimmed
  let bad := .error (.realText (String.ofList cs))
  if ["inf", "infinity"].contains (String.ofList unsigned) then .ok (.infinite negative)
  else if String.ofList unsigned = "nan" then .ok .nan
  else
    let whole := unsigned.takeWhile Text.isDigit
    let rest := unsigned.dropWhile Text.isDigit
    let (fraction, tail) := match rest with
      | '.' :: more => (more.takeWhile Text.isDigit, more.dropWhile Text.isDigit)
      | _ => ([], rest)
    match exponentOf tail with
    | some exponent =>
      if whole.isEmpty && fraction.isEmpty then bad
      else .ok (Binary64.ofDecimal negative (Text.readDecimal (whole ++ fraction))
        (exponent - fraction.length))
    | none => bad

/-- Parts in base sixty, added up from the units, each sum being rounded. What a part counts for has
to be finite. -/
def sexagesimalReal (parts : List Binary64) : Except BadValue Binary64 :=
  if !(Binary64.ofNat (Nat.pow 60 (parts.length - 1))).isFinite then .error .sexagesimalSize
  else .ok (parts.reverse.foldl (fun (sum, unit) part =>
    (sum.add (part.mul (Binary64.ofNat unit)), unit * 60)) (Binary64.zero false, 1)).1

/-- A real number as it is written, without underscores and sign and in lower case. -/
def unsignedReal (s : String) : List Char :=
  Tag.dropSign (Text.lower (String.ofList (withoutUnderscores s))).toList

/-- Whether a text is the word for no number, which always gives the same one. -/
def isNoNumber (s : String) : Bool := unsignedReal s == ['.', 'n', 'a', 'n']

def realOf (s : String) : Except BadValue Binary64 :=
  let cs := withoutUnderscores s
  let unsigned := unsignedReal s
  let signed (x : Binary64) := if isNegative cs then x.negate else x
  if cs.isEmpty then .error .emptyNumber
  else if unsigned.isEmpty then .error (.realText "")
  else if String.ofList unsigned = ".inf" then .ok (.infinite (isNegative cs))
  else if isNoNumber s then .ok .nan
  else if unsigned.contains ':' then do
    let parts ← (Tag.splitColons unsigned).mapM realNumber
    signed <$> sexagesimalReal parts
  else signed <$> realNumber unsigned

def booleanOf (s : String) : Except BadValue Bool :=
  let word := Text.lower s
  if ["yes", "true", "on"].contains word then .ok true
  else if ["no", "false", "off"].contains word then .ok false
  else .error (.booleanWord word)

/-! ### Octets in base sixty-four -/

def sextet (c : Char) : Option Nat :=
  if 'A' ≤ c ∧ c ≤ 'Z' then some (c.toNat - 'A'.toNat)
  else if 'a' ≤ c ∧ c ≤ 'z' then some (c.toNat - 'a'.toNat + 26)
  else if Text.isDigit c then some (c.toNat - '0'.toNat + 52)
  else if c = '+' then some 62
  else if c = '/' then some 63
  else none

/-- Takes characters one by one: `place` counts them within their group of four, `left` holds the
bits not yet used, `pads` counts the padding at hand. Other characters are passed over. -/
def sextets (place left pads : Nat) : List Char → Option (List UInt8)
  | [] => if place = 0 then some [] else none
  | c :: rest =>
    if c = '=' then
      if 2 ≤ place then
        if 4 ≤ place + pads + 1 then some [] else sextets place left (pads + 1) rest
      else sextets place left pads rest
    else
      match sextet c with
      | none => sextets place left pads rest
      | some n =>
        match place with
        | 0 => sextets 1 n 0 rest
        | 1 => (UInt8.ofNat (left * 4 + n / 16) :: ·) <$> sextets 2 (n % 16) 0 rest
        | 2 => (UInt8.ofNat (left * 16 + n / 4) :: ·) <$> sextets 3 (n % 4) 0 rest
        | _ => (UInt8.ofNat (left * 64 + n) :: ·) <$> sextets 0 0 0 rest

def octetsOf (s : String) : Except Failure (List UInt8) :=
  if s.toList.any fun c => 0x80 ≤ c.toNat then .error .malformed
  else
    match sextets 0 0 0 s.toList with
    | some octets => .ok octets
    | none => .error .malformed

/-! ### Dates and times -/

def dateOf (year month day : Nat) : Except BadValue Date :=
  if year = 0 then .error (.yearRange year)
  else if month = 0 ∨ 12 < month then .error .monthRange
  else if day = 0 ∨ daysInMonth year month < day then .error .dayRange
  else .ok ⟨year, month, day⟩

/-- The first six digits of a fraction of a second. -/
def microseconds (fraction : List Char) : Nat :=
  let digits := fraction.take 6
  Text.readDecimal (digits ++ List.replicate (6 - digits.length) '0')

def offsetOf : Option (Option Bool × List Char × List Char) → Except BadValue (Option Int)
  | none => .ok none
  | some (none, _) => .ok (some 0)
  | some (some negative, hours, minutes) =>
    let size : Int := Text.readDecimal hours * 60 + Text.readDecimal minutes
    let offset := if negative then -size else size
    if 24 * 60 ≤ size then .error (.offsetRange offset) else .ok (some offset)

def momentOf (s : String) : Except BadValue Moment := do
  match Tag.readMoment (Tag.withoutLineEnd s.toList) with
  | none => throw .notTimestamp
  | some m =>
    let date := dateOf (Text.readDecimal m.year) (Text.readDecimal m.month)
      (Text.readDecimal m.day)
    match m.clock with
    | none => return ⟨← date, none⟩
    | some (hour, minute, second, fraction) =>
      let offset ← offsetOf m.offset
      let date ← date
      let hour := Text.readDecimal hour
      let minute := Text.readDecimal minute
      let second := Text.readDecimal second
      if 23 < hour then throw .hourRange
      if 59 < minute then throw .minuteRange
      if 59 < second then throw .secondRange
      return ⟨date, some ⟨hour, minute, second, microseconds fraction, offset⟩⟩

end ApiConformance.Yaml
