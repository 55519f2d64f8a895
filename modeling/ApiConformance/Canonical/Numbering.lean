/-! Canonical numbers for type variables, given out in the order in which the variables are
first met. -/
namespace ApiConformance

/-- The numbers given out so far, in the order of giving, and the next one to give. They are
natural, being counted up from zero: nothing here is said of a numbering that goes on from a
negative one. -/
structure Numbering where
  ids : List (Int × Nat)
  next : Nat
  deriving DecidableEq, Repr

namespace Numbering

def empty : Numbering := ⟨[], 0⟩

instance : Inhabited Numbering := ⟨empty⟩

def get? (s : Numbering) (id : Int) : Option Nat := s.ids.lookup id

/-- The number of a variable; a variable not met before gets the next one. -/
def resolve (s : Numbering) (id : Int) : Nat × Numbering :=
  match s.get? id with
  | some n => (n, s)
  | none => (s.next, ⟨s.ids ++ [(id, s.next)], s.next + 1⟩)

theorem resolve_of_get? {s : Numbering} {id : Int} {n : Nat} (h : s.get? id = some n) :
    s.resolve id = (n, s) := by
  simp [resolve, h]

theorem resolve_of_get?_none {s : Numbering} {id : Int} (h : s.get? id = none) :
    s.resolve id = (s.next, ⟨s.ids ++ [(id, s.next)], s.next + 1⟩) := by
  simp [resolve, h]

end Numbering

end ApiConformance
