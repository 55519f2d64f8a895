import ApiConformance.Value.Graph
import ApiConformance.Yaml.Merge
import ApiConformance.Yaml.Scalars

/-!
What the nodes of a document stand for: a cell for each node that is reached from
the root. A scalar gets its cell when it is first met. A collection is put off until
all that were met before it are filled, and so are the faults in it.
-/
namespace ApiConformance.Yaml

/-- A cell for each node that has been met, those of the nodes in `waiting` being empty still. -/
structure Content where
  nodes : Array Node
  cells : Array (Option Cell)
  waiting : Array Nat
  /-- More than twice the number of merge keys. -/
  mergeFuel : Nat
  /-- How many mappings may lead to one another by what they take in or lend. -/
  room : Nat

namespace Content

abbrev Filling := StateT Content (Except Failure)

def fail {α : Type} : Filling α := throw .malformed

def node (r : Nat) : Filling Node := return (← get).nodes.getD r (.scalar .null "")

def setCell (r : Nat) (c : Cell) : Filling Unit :=
  modify fun s => { s with cells := s.cells.setIfInBounds r (some c) }

/-! ### Scalars -/

/-- The text of a scalar; a mapping can lend the value of its key `=`, and may have borrowed it. -/
def scalarText (nodes : Array Node) (room r : Nat) : Except Failure String :=
  let kind (r : Nat) : Tag := (nodes.getD r (.scalar .null "")).tag
  match nodes.getD r (.scalar .null "") with
  | .scalar _ s => .ok s
  | .sequence .. => .error .malformed
  | .mapping _ entries =>
    match entries.find? fun (k, _) => kind k = .value with
    | none => .error .malformed
    | some (_, v) =>
      match room with
      | 0 => .error (.badValue .endlessText)
      | room + 1 => scalarText nodes room v

/-- What a text with one of the scalar tags stands for. -/
def scalarAtom (tag : Tag) (s : String) : Except Failure Atom :=
  let bad {α : Type} : Except BadValue α → Except Failure α := Except.mapError .badValue
  match tag with
  | .null => .ok .null
  | .boolean => bad ((booleanOf s).map .bool)
  | .integer => bad ((integerOf s).map .int)
  | .real => bad ((realOf s).map .real)
  | .moment => bad ((momentOf s).map .moment)
  | .octets => (octetsOf s).map .octets
  | .text => .ok (.text s)
  | _ => .error .malformed

def scalar (r : Nat) : Filling Atom := do
  let n ← node r
  let s ← get
  let s ← scalarText s.nodes s.room r
  match n.tag, n with
  | .moment, .mapping .. => throw (.badValue .mappingAsTimestamp)
  | tag, _ => scalarAtom tag s

/-- Makes the cell of a node, unless there is one. -/
def meet (r : Nat) : Filling Unit := do
  if ((← get).cells.getD r none).isSome then return
  match (← node r).tag with
  | .sequence | .orderedMap | .pairs | .set | .mapping => do
    setCell r (.list [])
    modify fun s => { s with waiting := s.waiting.push r }
  | .merge | .value | .unknown _ => fail
  | _ => setCell r (.atom (← scalar r))

/-! ### Collections -/

/-- The key that a node stands for. No numbers from different nodes are the same one, unless they
are written with the word for that. -/
structure Key where
  atom : Atom
  origin : Option Nat

def Key.isSame (a b : Key) : Bool :=
  match a.atom, b.atom with
  | .real .nan, .real .nan => a.origin == b.origin
  | _, _ => a.atom.sameKey b.atom

/-- Only what is no collection can be a key. -/
def key (r : Nat) : Filling Key := do
  meet r
  let s ← get
  match s.cells.getD r none with
  | some (.atom a) =>
    let text := (scalarText s.nodes s.room r).toOption.getD ""
    return ⟨a, if isNoNumber text then none else some r⟩
  | _ => fail

/-- Puts a cell under a key: a known key keeps its place, a new one comes last. -/
def put (entries : Array (Key × Nat)) (key : Key) (r : Nat) : Array (Key × Nat) :=
  match entries.findIdx? fun (k, _) => k.isSame key with
  | some i => entries.modify i fun (k, _) => (k, r)
  | none => entries.push (key, r)

/-- The entries of a mapping, together with those that it takes in. -/
def entries (r : Nat) : Filling (List (Atom × Nat)) := do
  match ← node r with
  | .mapping .. => do
    let s ← get
    let (pairs, nodes) ← (Merging.mergedEntries s.room r s.mergeFuel).run s.nodes
    set { s with nodes }
    let found ← pairs.foldlM (fun found (k, v) => do
      let key ← key k
      meet v
      return put found key v) #[]
    return (found.map fun (k, v) => (k.atom, v)).toList
  | _ => fail

/-- The only entry of a node that is a mapping of one. -/
def onlyEntry (r : Nat) : Filling (Nat × Nat) := do
  match ← node r with
  | .mapping _ #[(k, v)] => do
    meet k
    meet v
    return (k, v)
  | _ => fail

/-- Fills the cell of a collection. -/
def fill (r : Nat) : Filling Unit := do
  match (← node r).tag, ← node r with
  | .sequence, .sequence _ items => do
    items.forM meet
    setCell r (.list items)
  | .orderedMap, .sequence _ items | .pairs, .sequence _ items => do
    setCell r (.pairs (← items.mapM onlyEntry))
  | .set, _ => do setCell r (.set ((← entries r).map Prod.fst))
  | .mapping, _ => do setCell r (.map (← entries r))
  | _, _ => fail

/-- Fills the cells that wait, and those that come to wait meanwhile. -/
def fillAll : Nat → Filling Unit
  | 0 => return ()
  | fuel + 1 => do
    let waiting := (← get).waiting
    if waiting.isEmpty then return
    modify fun s => { s with waiting := #[] }
    waiting.forM fill
    fillAll fuel

end Content

/-- The number of entries in the mappings of a document. -/
def Document.entryCount (d : Document) : Nat :=
  d.nodes.foldl (fun n node =>
    match node with
    | .mapping _ entries => n + entries.size
    | _ => n) 0

/-- The data of a document. -/
def Document.graph (room : Nat) (d : Document) : Except Failure Graph := do
  let fill : Content.Filling Unit := do
    Content.meet d.root
    Content.fillAll (d.nodes.size + 1)
  let start : Content :=
    ⟨d.nodes, Array.replicate d.nodes.size none, #[], 2 * d.entryCount + 2, room⟩
  let ((), s) ← fill.run start
  return s.cells.map (·.getD (.atom .null))

end ApiConformance.Yaml
