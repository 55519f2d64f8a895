import ApiConformance.Text.Decimal
import ApiConformance.Text.Surrogate
import ApiConformance.Value.Basic

/-!
Tokens of JSON text. A token is the longest one at its place; what starts no
token, or starts a text that does not end well, is a token of its own, so that
the grammar decides which complaint comes first. Offsets count characters.
-/
namespace ApiConformance.Json

/-- What lists and maps are put between. -/
inductive Bracket where
  | list
  | map
  deriving DecidableEq, Repr

/-- What keeps even well-written text from being read. -/
inductive Stop where
  /-- An integer too long to be read. -/
  | integerDigits (count : Nat)
  /-- More lists and maps inside one another than there is room for; the innermost begins with
  this bracket. -/
  | tooDeep (b : Bracket)
  /-- Half of a surrogate pair without the other half: no text of characters holds it. -/
  | halfPair
  deriving DecidableEq, Repr

inductive Cause where
  | byteOrderMark
  | expectedValue
  | expectedName
  | expectedColon
  | expectedComma
  | extraData
  | unterminatedText
  | controlCharacter
  | escape
  | unicodeEscape
  | stop (s : Stop)
  deriving DecidableEq, Repr

structure Failure where
  cause : Cause
  offset : Nat
  deriving DecidableEq, Repr

inductive Token where
  | openList
  | closeList
  | openMap
  | closeMap
  | colon
  | comma
  /-- A text; a torn one has half of a surrogate pair in it, for which another character stands. -/
  | text (s : String) ( torn : Bool)
  | value (v : Value)
  /-- A text or number that cannot be read. -/
  | bad (f : Failure)
  | unknown
  | stop

/-- The value of four hexadecimal digits; more text has to follow them. -/
def hexQuad : List Char → Option Nat
  | a :: b :: c :: d :: _ :: _ => Text.readBase 16 [a, b, c, d]
  | _ => none

/-- The second half of a surrogate pair, if one follows; a second escape with bad digits is an
error even so. -/
def lowSurrogate (offset : Nat) : List Char → Except Failure (Option Nat)
  | '\\' :: 'u' :: more =>
    if more.length ≤ 4 then .ok none
    else
      match hexQuad more with
      | some low => .ok (if Text.isLowSurrogate low then some low else none)
      | none => .error ⟨.unicodeEscape, offset + 1⟩
  | _ => .ok none

def simpleEscape? (c : Char) : Option Char :=
  if c = '\x22' ∨ c = '\\' ∨ c = '/' then some c
  else if c = 'b' then some '\x08'
  else if c = 'f' then some '\x0c'
  else if c = 'n' then some '\n'
  else if c = 'r' then some '\r'
  else if c = 't' then some '\t'
  else none

/-- The code point that an escape stands for, and how many characters it has after its backslash,
which stands at `offset`. -/
def readEscape (start offset : Nat) : List Char → Except Failure (Nat × Nat)
  | [] => .error ⟨.unterminatedText, start⟩
  | 'u' :: rest =>
    match hexQuad rest with
    | none => .error ⟨.unicodeEscape, offset + 1⟩
    | some code =>
      if Text.isHighSurrogate code then
        match lowSurrogate (offset + 6) (rest.drop 4) with
        | .error f => .error f
        | .ok (some low) => .ok (Text.joinSurrogates code low, 11)
        | .ok none => .ok (code, 5)
      else .ok (code, 5)
  | c :: _ =>
    match simpleEscape? c with
    | some c' => .ok (c'.toNat, 1)
    | none => .error ⟨.escape, offset⟩

/-- Reads a text after its opening quote, which stands at `start`, passing over `skip` characters
first. Gives the text's code points in reverse and the offset after the closing quote. -/
def readText (start skip offset : Nat) (done : List Nat) :
    List Char → Except Failure (List Nat × Nat)
  | [] => .error ⟨.unterminatedText, start⟩
  | c :: rest =>
    match skip with
    | skip + 1 => readText start skip (offset + 1) done rest
    | 0 =>
      if c = '\x22' then .ok (done, offset + 1)
      else if c = '\\' then
        match readEscape start offset rest with
        | .error f => .error f
        | .ok (code, length) => readText start length (offset + 1) (code :: done) rest
      else if c < ' ' then .error ⟨.controlCharacter, offset⟩
      else readText start 0 (offset + 1) (c.toNat :: done) rest

/-- A number: an integer part without leading zeros, then as much of a fraction and an exponent
as is complete. `length` counts its characters. -/
structure Numeral where
  negative : Bool
  whole : List Char
  fraction : List Char
  /-- Sign and digits of the exponent. -/
  exponent : Option (Bool × List Char)
  length : Nat

/-- The digits after a decimal point, none when the point has none. -/
def readFraction : List Char → List Char
  | '.' :: rest => rest.takeWhile Text.isDigit
  | _ => []

/-- Whether a sign is negative, and how many characters it has. -/
def readSign : List Char → Bool × Nat
  | '-' :: _ => (true, 1)
  | '+' :: _ => (false, 1)
  | _ => (false, 0)

/-- Sign and digits of an exponent, and how many characters it has. -/
def readExponent : List Char → Option ((Bool × List Char) × Nat)
  | c :: rest =>
    if c = 'e' ∨ c = 'E' then
      let (negative, width) := readSign rest
      let digits := (rest.drop width).takeWhile Text.isDigit
      if digits.isEmpty then none else some ((negative, digits), 1 + width + digits.length)
    else none
  | [] => none

def Numeral.read (cs : List Char) : Option Numeral :=
  let (negative, sign) := match cs with
    | '-' :: _ => (true, 1)
    | _ => (false, 0)
  let unsigned := cs.drop sign
  let whole := match unsigned with
    | '0' :: _ => ['0']
    | _ => unsigned.takeWhile Text.isDigit
  if whole.isEmpty then none
  else
    let rest := unsigned.drop whole.length
    let fraction := readFraction rest
    let point := if fraction.isEmpty then 0 else fraction.length + 1
    match readExponent (rest.drop point) with
    | none => some ⟨negative, whole, fraction, none, sign + whole.length + point⟩
    | some (exponent, width) =>
      some ⟨negative, whole, fraction, some exponent, sign + whole.length + point + width⟩

/-- The most digits that an integer may have. -/
def maxIntegerDigits : Nat := 4300

/-- An integer unless a fraction or an exponent is written. -/
def Numeral.value (n : Numeral) : Except Cause Value :=
  match n.fraction, n.exponent with
  | [], none =>
    if maxIntegerDigits < n.whole.length then .error (.stop (.integerDigits n.whole.length))
    else
      let magnitude : Int := Text.readDecimal n.whole
      .ok (.int (if n.negative then -magnitude else magnitude))
  | fraction, exponent =>
    let power : Int := match exponent with
      | none => 0
      | some (negative, digits) =>
        let size : Int := Text.readDecimal digits
        if negative then -size else size
    .ok (.real (Binary64.ofDecimal n.negative (Text.readDecimal (n.whole ++ fraction))
      (power - fraction.length)))

def words : List (List Char × Value) := [
  ("null".toList, .null), ("true".toList, .bool true), ("false".toList, .bool false),
  ("NaN".toList, .real .nan), ("Infinity".toList, .real (.infinite false)),
  ("-Infinity".toList, .real (.infinite true))]

def isSpace (c : Char) : Bool := c = ' ' || c = '\t' || c = '\n' || c = '\r'

def punctuation? (c : Char) : Option Token :=
  if c = '[' then some .openList
  else if c = ']' then some .closeList
  else if c = '\x7b' then some .openMap
  else if c = '\x7d' then some .closeMap
  else if c = ':' then some .colon
  else if c = ',' then some .comma
  else none

/-- A word or a number at the head of a text, and how many characters it has. -/
def readScalar (offset : Nat) (cs : List Char) : Option (Token × Nat) :=
  match words.find? fun (word, _) => word.isPrefixOf cs with
  | some (word, value) => some (.value value, word.length)
  | none =>
    match Numeral.read cs with
    | none => none
    | some n =>
      match n.value with
      | .ok value => some (.value value, n.length)
      | .error cause => some (.bad ⟨cause, offset⟩, n.length)

structure Placed where
  token : Token
  offset : Nat

/-- The tokens of a text, up to its end or to the first that cannot be read. Passes over `skip`
characters first. -/
def tokens (skip offset : Nat) (cs : List Char) : List Placed :=
  match cs with
  | [] => [⟨.stop, offset⟩]
  | c :: rest =>
    match skip with
    | skip + 1 => tokens skip (offset + 1) rest
    | 0 =>
      if isSpace c then tokens 0 (offset + 1) rest
      else
        match punctuation? c with
        | some token => ⟨token, offset⟩ :: tokens 0 (offset + 1) rest
        | none =>
          if c = '\x22' then
            match readText offset 0 (offset + 1) [] rest with
            | .error f => [⟨.bad f, offset⟩]
            | .ok (done, next) =>
              ⟨.text (Text.ofCodes done.reverse) (done.any Text.isSurrogate), offset⟩ ::
                tokens (next - offset - 1) (offset + 1) rest
          else
            match readScalar offset (c :: rest) with
            | some (.bad f, _) => [⟨.bad f, offset⟩]
            | some (token, length) => ⟨token, offset⟩ :: tokens (length - 1) (offset + 1) rest
            | none => [⟨.unknown, offset⟩]

end ApiConformance.Json
