import ApiConformance.Number.Binary64

/-!
Decoded data before it has a meaning: what JSON and YAML documents hold. JSON
gives only null, booleans, numbers, text, lists and maps whose keys are texts;
octets, moments, pairs, sets, knots and other keys come from YAML alone.
-/
namespace ApiConformance

structure Date where
  year : Nat
  month : Nat
  day : Nat
  deriving DecidableEq, Repr

/-- A time of day; `offset` is its distance from universal time in minutes, if it tells. -/
structure Clock where
  hour : Nat
  minute : Nat
  second : Nat
  microsecond : Nat
  offset : Option Int
  deriving DecidableEq, Repr

/-- A calendar day, or a time on it. -/
structure Moment where
  date : Date
  clock : Option Clock
  deriving DecidableEq, Repr

inductive Atom where
  | null
  | bool (b : Bool)
  | int (n : Int)
  | real (x : Binary64)
  | text (s : String)
  | octets (bs : List UInt8)
  | moment (m : Moment)
  deriving DecidableEq, Repr, Inhabited

inductive Value where
  | atom (a : Atom)
  | list (items : List Value)
  | pair (first second : Value)
  | set (items : List Atom)
  | map (entries : List (Atom × Value))
  /-- Data that holds itself somewhere: how messages show it, and as much of it as a reader of the
  document looks at. -/
  | knot (shown : Thunk String) (seen : Value)
  deriving Inhabited

namespace Value

@[match_pattern] abbrev null : Value := .atom .null
@[match_pattern] abbrev bool (b : Bool) : Value := .atom (.bool b)
@[match_pattern] abbrev int (n : Int) : Value := .atom (.int n)
@[match_pattern] abbrev real (x : Binary64) : Value := .atom (.real x)
@[match_pattern] abbrev text (s : String) : Value := .atom (.text s)

/-- What there is to see of a value. -/
def untied : Value → Value
  | .knot _ seen => seen
  | v => v

/-- A map whose keys are texts. -/
def object (fields : List (String × Value)) : Value :=
  .map (fields.map fun (name, value) => (.text name, value))

/-- The value under a text key. -/
def lookup (name : String) (entries : List (Atom × Value)) : Option Value :=
  entries.lookup (.text name)

/-- Puts a value under a key: a known key keeps its place, a new one comes last. -/
def put (entries : List (Atom × Value)) (key : Atom) (value : Value) : List (Atom × Value) :=
  match entries with
  | [] => [(key, value)]
  | (k, v) :: rest => if k = key then (k, value) :: rest else (k, v) :: put rest key value

end Value

end ApiConformance
