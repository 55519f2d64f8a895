import ApiConformance.Yaml.Cursor

/-!
Tags: what a YAML node stands for. A plain scalar without a tag gets one from the
way it is written.
-/
namespace ApiConformance.Yaml

inductive Tag where
  | null
  | boolean
  | integer
  | real
  | text
  | octets
  | moment
  /-- The key `<<`, which brings in the entries of other mappings. -/
  | merge
  /-- The key `=`, which is only a key. -/
  | value
  | sequence
  | mapping
  | set
  | orderedMap
  | pairs
  | unknown (name : String)
  deriving DecidableEq, Repr

namespace Tag

def core : String := "tag:yaml.org,2002:"

def ofName (name : String) : Tag :=
  let known := [("null", Tag.null), ("bool", .boolean), ("int", .integer), ("float", .real),
    ("str", .text), ("binary", .octets), ("timestamp", .moment), ("merge", .merge),
    ("value", .value), ("seq", .sequence), ("map", .mapping), ("set", .set), ("omap", .orderedMap),
    ("pairs", .pairs)]
  ((known.map fun (short, t) => (core ++ short, t)).lookup name).getD (.unknown name)

/-! ### How plain scalars are written -/

def isDigitOrLine (c : Char) : Bool := Text.isDigit c || c = '_'

def dropSign : List Char → List Char
  | '-' :: rest => rest
  | '+' :: rest => rest
  | cs => cs

def splitColons : List Char → List (List Char)
  | [] => [[]]
  | c :: cs =>
    if c = ':' then [] :: splitColons cs
    else
      match splitColons cs with
      | [] => [[c]]
      | part :: parts => (c :: part) :: parts

/-- A digit, then digits and underscores. -/
def isSeparatedNumber : List Char → Bool
  | [] => false
  | c :: rest => Text.isDigit c && rest.all isDigitOrLine

/-- A number below sixty, of at most two digits. -/
def isSixtieth : List Char → Bool
  | [a] => Text.isDigit a
  | [a, b] => '0' ≤ a && a ≤ '5' && Text.isDigit b
  | _ => false

def isBoolean (s : String) : Bool :=
  ["yes", "no", "true", "false", "on", "off"].any fun word =>
    s == word || s == word.capitalize || s == word.toUpper

def isNull (s : String) : Bool := ["", "~", "null", "Null", "NULL"].contains s

def isInteger (cs : List Char) : Bool :=
  match dropSign cs with
  | '0' :: 'b' :: rest => !rest.isEmpty && rest.all fun c => c = '0' || c = '1' || c = '_'
  | '0' :: 'x' :: rest => !rest.isEmpty && rest.all fun c => Text.isHexDigit c || c = '_'
  | '0' :: rest => rest.all fun c => ('0' ≤ c && c ≤ '7') || c = '_'
  | unsigned =>
    match splitColons unsigned with
    | whole :: parts => isSeparatedNumber whole && parts.all isSixtieth
    | [] => false

/-- Digits and underscores, then perhaps an exponent, which has to have a sign. -/
def isFractionTail (cs : List Char) : Bool :=
  match cs.dropWhile isDigitOrLine with
  | [] => true
  | e :: sign :: digits =>
    (e = 'e' || e = 'E') && (sign = '+' || sign = '-') && !digits.isEmpty && digits.all Text.isDigit
  | _ => false

def isReal (cs : List Char) : Bool :=
  let unsigned := dropSign cs
  if [".inf", ".Inf", ".INF"].contains (String.ofList unsigned) then true
  else if [".nan", ".NaN", ".NAN"].contains (String.ofList cs) then true
  else
    match cs with
    | '.' :: c :: rest => Text.isDigit c && isFractionTail rest
    | _ =>
      match unsigned.dropWhile (· != '.') with
      | [] => false
      | _ :: tail =>
        match splitColons (unsigned.takeWhile (· != '.')) with
        | [whole] => isSeparatedNumber whole && isFractionTail tail
        | whole :: parts =>
          isSeparatedNumber whole && parts.all isSixtieth && tail.all isDigitOrLine
        | [] => false

/-- The parts of a date or time as written. -/
structure MomentText where
  year : List Char
  month : List Char
  day : List Char
  /-- Hour, minute, second and fraction. -/
  clock : Option (List Char × List Char × List Char × List Char)
  /-- The sign, hours and minutes of an offset; without a sign it is universal time. -/
  offset : Option (Option Bool × List Char × List Char)

/-- Takes as many digits as there are, up to `most`. -/
def takeDigits (most : Nat) (cs : List Char) : List Char × List Char :=
  let run := (cs.take most).takeWhile Text.isDigit
  (run, cs.drop run.length)

def readOffset (cs : List Char) : Option (Option (Option Bool × List Char × List Char)) :=
  match cs.dropWhile fun c => c = ' ' || c = '\t' with
  | [] => if cs.isEmpty then some none else none
  | ['Z'] => some (some (none, [], []))
  | sign :: rest =>
    if sign = '+' ∨ sign = '-' then
      let (hours, rest) := takeDigits 2 rest
      if hours.isEmpty then none
      else
        match rest with
        | [] => some (some (some (sign = '-'), hours, []))
        | [':', a, b] =>
          if Text.isDigit a && Text.isDigit b then some (some (some (sign = '-'), hours, [a, b]))
          else none
        | _ => none
    else none

/-- Reads hour, minute, second and fraction, then an offset. -/
def readClock (cs : List Char) :
    Option ((List Char × List Char × List Char × List Char)
      × Option (Option Bool × List Char × List Char)) :=
  let (hour, rest) := takeDigits 2 cs
  match rest with
  | ':' :: a :: b :: ':' :: c :: d :: rest =>
    if hour.isEmpty || !([a, b, c, d].all Text.isDigit) then none
    else
      let (fraction, rest) := match rest with
        | '.' :: more => (more.takeWhile Text.isDigit, more.dropWhile Text.isDigit)
        | _ => ([], rest)
      (readOffset rest).map fun offset => ((hour, [a, b], [c, d], fraction), offset)
  | _ => none

def readMoment (cs : List Char) : Option MomentText :=
  let (year, rest) := takeDigits 4 cs
  match rest with
  | '-' :: rest =>
    let (month, rest) := takeDigits 2 rest
    match rest with
    | '-' :: rest =>
      let (day, rest) := takeDigits 2 rest
      if year.length < 4 || month.isEmpty || day.isEmpty then none
      else
        match rest with
        | [] => some ⟨year, month, day, none, none⟩
        | c :: more =>
          let clock :=
            if c = 'T' ∨ c = 't' then readClock more
            else if c = ' ' ∨ c = '\t' then
              readClock (more.dropWhile fun c => c = ' ' || c = '\t')
            else none
          clock.map fun (clock, offset) => ⟨year, month, day, some clock, offset⟩
    | _ => none
  | _ => none

/-- A day alone is a date only when month and day have two digits. -/
def isMoment (cs : List Char) : Bool :=
  match readMoment cs with
  | none => false
  | some m => m.clock.isSome || (m.month.length == 2 && m.day.length == 2)

/-- A text without the line feed that ends it, if that is not all of it. -/
def withoutLineEnd (cs : List Char) : List Char :=
  if cs.length ≤ 1 then cs else if cs.getLast? = some '\n' then cs.dropLast else cs

/-- The tag of a scalar that is taken as plain. -/
def ofPlain (scalar : String) : Tag :=
  let cs := withoutLineEnd scalar.toList
  let s := String.ofList cs
  if isNull s then .null
  else if isBoolean s then .boolean
  else if isReal cs then .real
  else if isInteger cs then .integer
  else if s = "<<" then .merge
  else if isMoment cs then .moment
  else if s = "=" then .value
  else if ["!", "&", "*"].contains s then .unknown (core ++ "yaml")
  else .text

end Tag

end ApiConformance.Yaml
