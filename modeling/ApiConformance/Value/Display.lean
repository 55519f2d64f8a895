import ApiConformance.Value.Basic
import ApiConformance.Number.Shortest
import ApiConformance.Text.Quoted

/-!
Values as messages show them. The literal form quotes texts and spells out
moments; the plain form, for a value that stands alone, leaves a text as it is
and writes a moment as a date. Nothing with an integer of more digits than are ever
read has a plain form; what kind of thing it is is said instead.
-/
namespace ApiConformance

namespace Moment

private def joined (parts : List String) : String := ", ".intercalate parts

/-- An offset as whole days and seconds, the seconds never negative. -/
def offsetSpan (minutes : Int) : String :=
  let seconds := minutes * 60
  let days := Int.fdiv seconds 86400
  let rest := Int.fmod seconds 86400
  "datetime.timedelta(" ++ joined (
    (if days = 0 then [] else ["days=" ++ Text.integer days])
      ++ (if rest = 0 then [] else ["seconds=" ++ Text.integer rest])) ++ ")"

private def zone (minutes : Int) : String :=
  if minutes = 0 then "datetime.timezone.utc"
  else "datetime.timezone(" ++ offsetSpan minutes ++ ")"

/-- Seconds and microseconds are left out while they are zero. -/
private def clockFields (c : Clock) : List Nat :=
  if c.microsecond ≠ 0 then [c.hour, c.minute, c.second, c.microsecond]
  else if c.second ≠ 0 then [c.hour, c.minute, c.second]
  else [c.hour, c.minute]

def literal (m : Moment) : String :=
  let date := [m.date.year, m.date.month, m.date.day]
  match m.clock with
  | none => "datetime.date(" ++ joined (date.map Text.natural) ++ ")"
  | some c =>
    let zoned := match c.offset with
      | none => []
      | some minutes => ["tzinfo=" ++ zone minutes]
    "datetime.datetime(" ++ joined ((date ++ clockFields c).map Text.natural ++ zoned) ++ ")"

private def offsetText (minutes : Int) : String :=
  let n := minutes.natAbs
  (if minutes < 0 then "-" else "+") ++ Text.padded 2 (n / 60) ++ ":" ++ Text.padded 2 (n % 60)

def plain (m : Moment) : String :=
  let date := Text.padded 4 m.date.year ++ "-" ++ Text.padded 2 m.date.month ++ "-"
    ++ Text.padded 2 m.date.day
  match m.clock with
  | none => date
  | some c =>
    date ++ " " ++ Text.padded 2 c.hour ++ ":" ++ Text.padded 2 c.minute ++ ":"
      ++ Text.padded 2 c.second
      ++ (if c.microsecond = 0 then "" else "." ++ Text.padded 6 c.microsecond)
      ++ (match c.offset with | none => "" | some minutes => offsetText minutes)

end Moment

namespace Atom

/-- Whether an atom is no integer of more digits than are ever written. -/
def isWritable : Atom → Bool
  | .int n => Text.isWritable n
  | _ => true

def literal : Atom → String
  | .null => "None"
  | .bool b => if b then "True" else "False"
  | .int n => Text.integer n
  | .real x => x.text
  | .text s => Text.quoted s
  | .octets bs => Text.quotedOctets bs
  | .moment m => m.literal

/-- What is said of something that has no plain form. -/
def unwritable (kind : String) : String := "<unprintable " ++ kind ++ " object>"

def plain : Atom → String
  | .text s => s
  | .moment m => m.plain
  | a => if a.isWritable then a.literal else unwritable "int"

end Atom

namespace Value

mutual

def literal : Value → String
  | .atom a => a.literal
  | .list items => "[" ++ ", ".intercalate (literals items) ++ "]"
  | .pair a b => "(" ++ literal a ++ ", " ++ literal b ++ ")"
  | .set [] => "set()"
  | .set items => "\x7b" ++ ", ".intercalate (items.map Atom.literal) ++ "\x7d"
  | .map entries => "\x7b" ++ ", ".intercalate (entryLiterals entries) ++ "\x7d"
  | .knot shown _ => shown.get

def literals : List Value → List String
  | [] => []
  | v :: vs => literal v :: literals vs

def entryLiterals : List (Atom × Value) → List String
  | [] => []
  | (k, v) :: rest => (k.literal ++ ": " ++ literal v) :: entryLiterals rest

end

mutual

/-- Whether all atoms of a value can be written. -/
def isWritable : Value → Bool
  | .atom a => a.isWritable
  | .list items => areWritable items
  | .pair a b => isWritable a && isWritable b
  | .set items => items.all Atom.isWritable
  | .map entries => entriesAreWritable entries
  | .knot .. => true

def areWritable : List Value → Bool
  | [] => true
  | v :: vs => isWritable v && areWritable vs

def entriesAreWritable : List (Atom × Value) → Bool
  | [] => true
  | (k, v) :: rest => k.isWritable && isWritable v && entriesAreWritable rest

end

/-- The word for what a value is. -/
def kindWord : Value → String
  | .list _ => "list"
  | .pair .. => "tuple"
  | .set _ => "set"
  | _ => "dict"

def plain : Value → String
  | .atom a => a.plain
  | .knot shown _ => shown.get
  | v => if v.isWritable then v.literal else Atom.unwritable v.kindWord

end Value

end ApiConformance
