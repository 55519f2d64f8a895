import ApiConformance.Value.Basic

/-!
When two keys of a map are one. Numbers and truth values go by the number that they
equal, times by the moment that they name when both tell their offset, and all else
by what it is.
-/
namespace ApiConformance

def isLeapYear (year : Nat) : Bool :=
  year % 4 == 0 && (year % 100 != 0 || year % 400 == 0)

def daysInMonth (year month : Nat) : Nat :=
  if month = 2 then if isLeapYear year then 29 else 28
  else if [4, 6, 9, 11].contains month then 30
  else 31

/-- The number of a day, counted from the first day of the year 1. -/
def Date.number (d : Date) : Nat :=
  let years := d.year - 1
  let months := (List.range' 1 (d.month - 1)).foldl (fun n m => n + daysInMonth d.year m) 0
  years * 365 + years / 4 - years / 100 + years / 400 + months + d.day

/-- The microseconds of universal time up to a moment that tells its offset. -/
def Moment.instant? (m : Moment) : Option Int :=
  match m.clock with
  | none => none
  | some c => c.offset.map fun offset =>
    let minutes : Int := (m.date.number * 24 + c.hour) * 60 + c.minute
    ((minutes - offset) * 60 + c.second) * 1000000 + c.microsecond

namespace Atom

/-- The integer that a number or truth value equals. -/
def integral? : Atom → Option Int
  | .bool b => some (if b then 1 else 0)
  | .int n => some n
  | .real x => x.toInt?
  | _ => none

def instant? : Atom → Option Int
  | .moment m => m.instant?
  | _ => none

/-- Whether two keys are one. No number that is not one is the same as another. -/
def sameKey (a b : Atom) : Bool :=
  match a, b with
  | .real .nan, .real .nan => false
  | _, _ =>
    a == b || (a.integral?.isSome && a.integral? == b.integral?)
      || (a.instant?.isSome && a.instant? == b.instant?)

end Atom

end ApiConformance
