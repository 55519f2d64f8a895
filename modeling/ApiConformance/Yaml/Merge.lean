import ApiConformance.Yaml.Node

/-!
Merge keys. A mapping takes in the entries of the mappings under its keys `<<`,
which have done so before; those entries come ahead of its own, so that its own
stand. What a mapping has taken in stays in it for all who name it later.
-/
namespace ApiConformance.Yaml

namespace Node

def tag : Node → Tag
  | .scalar t _ => t
  | .sequence t _ => t
  | .mapping t _ => t

/-- As a key, `=` is a text like any other. -/
def asKey : Node → Node
  | .scalar .value s => .scalar .text s
  | .sequence .value items => .sequence .text items
  | .mapping .value entries => .mapping .text entries
  | n => n

end Node

abbrev Merging := StateT (Array Node) (Except Failure)

namespace Merging

def node (r : Nat) : Merging Node := return (← get).getD r (.scalar .null "")

/-- The entries of a mapping; a node of another kind has none. -/
def entries (r : Nat) : Merging (Array (Nat × Nat)) := do
  match ← node r with
  | .mapping _ entries => return entries
  | _ => return #[]

def setEntries (r : Nat) (entries : Array (Nat × Nat)) : Merging Unit := do
  match ← node r with
  | .mapping tag _ => modify (·.setIfInBounds r (.mapping tag entries))
  | _ => return ()

/-- From one place on, the first merge key in some entries: its place, and what is under it. -/
def nextMerge? (nodes : Array Node) (entries : List (Nat × Nat)) (place : Nat) :
    Option (Nat × Nat) :=
  match entries with
  | [] => none
  | (k, v) :: rest =>
    if (nodes.getD k (.scalar .null "")).tag = .merge then some (place, v)
    else nextMerge? nodes rest (place + 1)

/-- Makes texts of the keys `=` in some entries. -/
def settleKeys (entries : Array (Nat × Nat)) : Merging Unit :=
  entries.forM fun (k, _) => modify (·.modify k Node.asKey)

mutual

/-- Takes in what the merge keys of a mapping bring, from one entry on; `brought` comes from the
merge keys before. Every merge key takes from the fuel. -/
def flatten (room r place : Nat) (brought : Array (Nat × Nat)) : Nat → Merging Unit
  | 0 => throw .malformed
  | fuel + 1 => do
    let own ← entries r
    match nextMerge? (← get) (own.toList.drop place) place with
    | none =>
      settleKeys (own.extract place own.size)
      if !brought.isEmpty then setEntries r (brought ++ own)
    | some (next, source) =>
      settleKeys (own.extract place next)
      setEntries r (own.eraseIdxIfInBounds next)
      let more ← match ← node source with
        | .mapping .. => mergedEntries room source fuel
        | .sequence _ items => do
          let groups ← items.mapM fun item => do
            match ← node item with
            | .mapping .. => mergedEntries room item fuel
            | _ => throw .malformed
          pure (groups.reverse.foldl (· ++ ·) #[])
        | .scalar .. => throw .malformed
      flatten room r next (brought ++ more) fuel

/-- The entries of a mapping after it has taken in what its merge keys bring; the mappings that
these name do so first, while there is room. -/
def mergedEntries (room r : Nat) : Nat → Merging (Array (Nat × Nat))
  | 0 => throw .malformed
  | fuel + 1 => do
    if room = 0 then throw (.badValue .tooDeep)
    flatten (room - 1) r 0 #[] fuel
    entries r

end

end Merging

end ApiConformance.Yaml
