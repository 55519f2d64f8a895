import ApiConformance.Value.Display

/-!
Data in cells that name one another, so that a cell may be part of several others,
and even of itself. A cell that does not lead back to itself, nor to one that does,
is a plain value; any other is a knot, which shows as a list or map with dots in
place of what it stands in already.
-/
namespace ApiConformance

/-- What a cell holds; other cells are named by their numbers. -/
inductive Cell where
  | atom (a : Atom)
  | list (items : List Nat)
  | pairs (items : List (Nat × Nat))
  | set (items : List Atom)
  | map (entries : List (Atom × Nat))
  deriving Repr, Inhabited

/-- The value of a cell, given those of the cells in it. -/
def Cell.value (part : Nat → Value) : Cell → Value
  | .atom a => .atom a
  | .list items => .list (items.map part)
  | .pairs items => .list (items.map fun (a, b) => .pair (part a) (part b))
  | .set items => .set items
  | .map entries => .map (entries.map fun (k, r) => (k, part r))

/-- The kind of thing that a cell holds, without anything in it. -/
def Cell.hollow : Cell → Value
  | .atom a => .atom a
  | .set _ => .set []
  | .map _ => .map []
  | _ => .list []

abbrev Graph := Array Cell

namespace Graph

def cell (g : Graph) (r : Nat) : Cell := g.getD r (.atom .null)

/-! ### Cells as messages show them -/

/-- The literal form of a cell inside others; there is none if an integer in it is too long to be
written. The fuel is for the cells that may be inside one another. -/
def literal? (g : Graph) (around : List Nat) : (fuel : Nat) → Nat → Option String
  | 0, _ => some "..."
  | fuel + 1, r =>
    let inside := literal? g (r :: around) fuel
    let atom (a : Atom) := if a.isWritable then some a.literal else none
    let sequence (parts : Option (List String)) :=
      parts.map fun parts => "[" ++ ", ".intercalate parts ++ "]"
    match g.cell r with
    | .atom a => atom a
    | .set items => if items.all Atom.isWritable then some (Value.set items).literal else none
    | .list items =>
      if around.contains r then some "[...]" else sequence (items.mapM inside)
    | .pairs items =>
      if around.contains r then some "[...]"
      else sequence (items.mapM fun (a, b) =>
        return "(" ++ (← inside a) ++ ", " ++ (← inside b) ++ ")")
    | .map entries =>
      if around.contains r then some "\x7b...\x7d"
      else do
        let parts ← entries.mapM fun (k, r) => return (← atom k) ++ ": " ++ (← inside r)
        return "\x7b" ++ ", ".intercalate parts ++ "\x7d"

/-- How messages show a cell that stands alone. -/
def shown (g : Graph) (r : Nat) : String :=
  (g.literal? [] (g.size + 1) r).getD (Atom.unwritable (g.cell r).hollow.kindWord)

/-! ### Cells as values -/

/-- What is known of a cell while the plain ones are looked for. -/
inductive Mark where
  | unseen
  /-- The cell is being looked at: to meet it again makes a knot. -/
  | entered
  | settled (v : Option Value)

/-- The value of a cell, if it is plain. The fuel is for the cells that may be inside one
another. -/
def settle (g : Graph) : (fuel : Nat) → Nat → StateM (Array Mark) (Option Value)
  | 0, _ => return none
  | fuel + 1, r => do
    match (← get).getD r .unseen with
    | .settled v => return v
    | .entered => return none
    | .unseen =>
      modify (·.setIfInBounds r .entered)
      let inside := settle g fuel
      let v ← match g.cell r with
        | .atom a => pure (some (.atom a))
        | .set items => pure (some (.set items))
        | .list items => do
          let parts ← items.mapM inside
          pure ((parts.mapM id).map .list)
        | .pairs items => do
          let parts ← items.mapM fun (a, b) => return (← inside a, ← inside b)
          let pairs := parts.mapM fun (a, b) => return Value.pair (← a) (← b)
          pure (pairs.map .list)
        | .map entries => do
          let parts ← entries.mapM fun (k, r) => return (k, ← inside r)
          let pairs := parts.mapM fun (k, v) => return (k, ← v)
          pure (pairs.map .map)
      modify (·.setIfInBounds r (.settled v))
      return v

/-- The plain values among the cells that a cell leads to. -/
def plainValues (g : Graph) (root : Nat) : Array (Option Value) :=
  let ((), marks) := (do let _ ← g.settle (g.size + 1) root : StateM (Array Mark) Unit).run
    (Array.replicate g.size .unseen)
  marks.map fun
    | .settled v => v
    | _ => none

/-- The values of all cells, knots being seen to a depth. -/
def seen (g : Graph) (plain : Array (Option Value)) : (depth : Nat) → Array Value
  | 0 => g.mapIdx fun r c =>
    match plain.getD r none with
    | some v => v
    | none => .knot (Thunk.mk fun _ => g.shown r) c.hollow
  | depth + 1 =>
    let inner := seen g plain depth
    g.mapIdx fun r c =>
      match plain.getD r none with
      | some v => v
      | none => .knot (Thunk.mk fun _ => g.shown r) (c.value fun r => inner.getD r .null)

/-- The value of a cell; where it is a knot, it is seen to a depth. -/
def value (g : Graph) (depth root : Nat) : Value :=
  let plain := g.plainValues root
  match plain.getD root none with
  | some v => v
  | none => (g.seen plain depth).getD root .null

end Graph

end ApiConformance
