import ApiConformance.Yaml.Tag
import ApiConformance.Yaml.Tokens

/-!
Nodes of a YAML document: scalars, sequences and mappings with their tags. A node
names the nodes in it by their numbers, as an alias may stand for any node that has
begun before it, and for one around it as well.
-/
namespace ApiConformance.Yaml

inductive Node where
  | scalar (tag : Tag) (text : String)
  | sequence (tag : Tag) (items : List Nat)
  | mapping (tag : Tag) (entries : Array (Nat × Nat))

/-- A document: all of its nodes, and the one that holds the others. -/
structure Document where
  nodes : Array Node
  root : Nat

namespace Node

structure State where
  tokens : Tokens
  /-- What the handles of tags stand for. -/
  handles : List (String × String)
  anchors : List (String × Nat)
  nodes : Array Node
  /-- How many more nodes there may be inside one another. -/
  room : Nat

abbrev Parse := StateT State (Except Failure)

def fail {α : Type} : Parse α := throw .malformed

/-- The next token. What is wrong with the text shows when there is none. -/
def peek : Parse Token := do
  let ts := (← get).tokens
  match ts.ready, ts.failure with
  | t :: _, _ => return t
  | [], some f => throw f
  | [], none => return .stop

/-- Takes a token. -/
def take : Parse Token := do
  let t ← peek
  modify fun s => { s with tokens := { s.tokens with ready := s.tokens.ready.tail } }
  return t

/-- Reads what is inside a node, if there is room for that. -/
def inside {α : Type} (p : Parse α) : Parse α := do
  match (← get).room with
  | 0 => throw (.badValue .tooDeep)
  | room + 1 =>
    modify ({ · with room })
    let a ← p
    modify ({ · with room := room + 1 })
    return a

/-- Adds a node to the document. -/
def add (n : Node) : Parse Nat := do
  let r := (← get).nodes.size
  modify fun s => { s with nodes := s.nodes.push n }
  return r

/-- Adds an empty scalar. -/
def addEmpty : Parse Nat := add (.scalar .null "")

/-- Puts a node in the place of one that has begun. -/
def finish (r : Nat) (n : Node) : Parse Nat := do
  modify fun s => { s with nodes := s.nodes.setIfInBounds r n }
  return r

/-- What comes before a node. -/
structure Properties where
  anchor : Option String
  tag : Option String

def resolveTag (handle : Option String) (suffix : String) : Parse String := do
  match handle with
  | none => return suffix
  | some handle =>
    match (← get).handles.lookup handle with
    | none => fail
    | some expansion => return expansion ++ suffix

def anchor? : Parse (Option String) := do
  match ← peek with
  | .anchor name =>
    let _ ← take
    return some name
  | _ => return none

/-- A tag as it is written. -/
def tag? : Parse (Option (Option String × String)) := do
  match ← peek with
  | .tag handle suffix =>
    let _ ← take
    return some (handle, suffix)
  | _ => return none

/-- An anchor and a tag, in either order. -/
def properties : Parse Properties := do
  let (anchor, tag) ← match ← anchor? with
    | some anchor => pure (some anchor, ← tag?)
    | none =>
      match ← tag? with
      | none => pure (none, none)
      | some tag => pure (← anchor?, some tag)
  return ⟨anchor, ← tag.mapM fun (handle, suffix) => resolveTag handle suffix⟩

/-- Whether a node's tag follows from the node itself. -/
def Properties.isImplicit (p : Properties) : Bool :=
  match p.tag with
  | none => true
  | some tag => tag == "!"

def Properties.collectionTag (p : Properties) (default : Tag) : Tag :=
  if p.isImplicit then default else Tag.ofName (p.tag.getD "")

/-- Quotes make a text of a scalar, unless it has the tag that asks for nothing. -/
def Properties.scalarTag (p : Properties) (text : String) (plain : Bool) : Tag :=
  match p.tag with
  | none => if plain then Tag.ofPlain text else .text
  | some tag => if tag == "!" then Tag.ofPlain text else Tag.ofName tag

/-- Begins a node. If it has a name, that has to be a new one. -/
def begin (p : Properties) (n : Node) : Parse Nat := do
  match p.anchor with
  | none => add n
  | some name =>
    if ((← get).anchors.lookup name).isSome then fail
    let r ← add n
    modify fun s => { s with anchors := (name, r) :: s.anchors }
    return r

/-- Where a node may stand: inside a flow collection, in a block, or after a key, where a sequence
need not be indented. -/
inductive Context where
  | flow
  | block
  | afterKey
  deriving DecidableEq

def isOneOf (t : Token) : List Token → Bool
  | [] => false
  | u :: us => sameKind t u || isOneOf t us
where
  sameKind : Token → Token → Bool
    | .key, .key | .value, .value | .item, .item | .comma, .comma | .blockEnd, .blockEnd
    | .closeSequence, .closeSequence | .closeMapping, .closeMapping | .stop, .stop
    | .documentStart, .documentStart | .documentEnd, .documentEnd
    | .directive _, .directive _ => true
    | _, _ => false

mutual

/-- A node; every step down or on takes from the fuel. -/
def node (context : Context) : Nat → Parse Nat
  | 0 => fail
  | fuel + 1 => do
    if let .reference name := ← peek then
      let _ ← take
      match (← get).anchors.lookup name with
      | none => fail
      | some r => return r
    else
      let p ← properties
      match ← peek with
      | .scalar text plain =>
        let _ ← take
        begin p (.scalar (p.scalarTag text plain) text)
      | .openSequence =>
        let tag := p.collectionTag .sequence
        let r ← begin p (.sequence tag [])
        let _ ← take
        finish r (.sequence tag (← inside (flowItems true fuel)))
      | .openMapping =>
        let tag := p.collectionTag .mapping
        let r ← begin p (.mapping tag #[])
        let _ ← take
        finish r (.mapping tag (← inside (flowEntries true fuel)).toArray)
      | .item =>
        if context = .afterKey then
          let tag := p.collectionTag .sequence
          let r ← begin p (.sequence tag [])
          finish r (.sequence tag (← inside (indentlessItems fuel)))
        else bare p
      | .blockSequence =>
        if context = .flow then bare p
        else
          let tag := p.collectionTag .sequence
          let r ← begin p (.sequence tag [])
          let _ ← take
          finish r (.sequence tag (← inside (blockItems fuel)))
      | .blockMapping =>
        if context = .flow then bare p
        else
          let tag := p.collectionTag .mapping
          let r ← begin p (.mapping tag #[])
          let _ ← take
          finish r (.mapping tag (← inside (blockEntries fuel)).toArray)
      | _ => bare p

/-- An anchor or a tag may stand alone, before an empty scalar. -/
def bare (p : Properties) : Parse Nat := do
  if p.anchor.isNone && p.tag.isNone then fail
  begin p (.scalar (p.scalarTag "" true) "")

/-- A node, or an empty one before certain tokens. -/
def nodeUnless (ends : List Token) (context : Context) : Nat → Parse Nat
  | 0 => fail
  | fuel + 1 => do if isOneOf (← peek) ends then addEmpty else node context fuel

def blockItems : Nat → Parse (List Nat)
  | 0 => fail
  | fuel + 1 => do
    match ← take with
    | .item =>
      let r ← nodeUnless [.item, .blockEnd] .block fuel
      return r :: (← blockItems fuel)
    | .blockEnd => return []
    | _ => fail

/-- The items of a sequence that ends where something else begins. -/
def indentlessItems : Nat → Parse (List Nat)
  | 0 => fail
  | fuel + 1 => do
    if isOneOf (← peek) [.item] then
      let _ ← take
      let r ← nodeUnless [.item, .key, .value, .blockEnd] .block fuel
      return r :: (← indentlessItems fuel)
    else return []

/-- A value, which is empty when there is no colon. -/
def valueUnless (ends : List Token) (context : Context) : Nat → Parse Nat
  | 0 => fail
  | fuel + 1 => do
    if isOneOf (← peek) [.value] then
      let _ ← take
      nodeUnless ends context fuel
    else addEmpty

def blockEntries : Nat → Parse (List (Nat × Nat))
  | 0 => fail
  | fuel + 1 => do
    match ← take with
    | .key =>
      let k ← nodeUnless [.key, .value, .blockEnd] .afterKey fuel
      let v ← valueUnless [.key, .value, .blockEnd] .afterKey fuel
      return (k, v) :: (← blockEntries fuel)
    | .blockEnd => return []
    | _ => fail

/-- The items of a flow sequence; a key in it starts a mapping of one entry. -/
def flowItems (first : Bool) : Nat → Parse (List Nat)
  | 0 => fail
  | fuel + 1 => do
    if isOneOf (← peek) [.closeSequence] then
      let _ ← take
      return []
    else
      if !first then
        if isOneOf (← peek) [.comma] then
          let _ ← take
        else fail
      match ← peek with
      | .key =>
        let _ ← take
        let entry ← inside do
          let k ← nodeUnless [.value, .comma, .closeSequence] .flow fuel
          return (k, ← valueUnless [.comma, .closeSequence] .flow fuel)
        let r ← add (.mapping .mapping #[entry])
        return r :: (← flowItems false fuel)
      | .closeSequence =>
        let _ ← take
        return []
      | _ =>
        let r ← node .flow fuel
        return r :: (← flowItems false fuel)

/-- The entries of a flow mapping; what is no key stands for one with an empty value. -/
def flowEntries (first : Bool) : Nat → Parse (List (Nat × Nat))
  | 0 => fail
  | fuel + 1 => do
    if isOneOf (← peek) [.closeMapping] then
      let _ ← take
      return []
    else
      if !first then
        if isOneOf (← peek) [.comma] then
          let _ ← take
        else fail
      match ← peek with
      | .key =>
        let _ ← take
        let k ← nodeUnless [.value, .comma, .closeMapping] .flow fuel
        let v ← valueUnless [.comma, .closeMapping] .flow fuel
        return (k, v) :: (← flowEntries false fuel)
      | .closeMapping =>
        let _ ← take
        return []
      | _ =>
        let r ← node .flow fuel
        return (r, ← addEmpty) :: (← flowEntries false fuel)

end

/-- Directives before a document; the version and each handle may be set once. -/
def directives (versioned : Bool) (handles : List (String × String)) : Nat → Parse Unit
  | 0 => fail
  | fuel + 1 => do
    match ← peek with
    | .directive d =>
      let _ ← take
      match d with
      | .version major =>
        if versioned || major != 1 then fail
        directives true handles fuel
      | .tag handle expansion =>
        if (handles.lookup handle).isSome then fail
        directives versioned ((handle, expansion) :: handles) fuel
      | .other => directives versioned handles fuel
    | _ => modify fun s => { s with handles := handles ++ s.handles }

def skipDocumentEnds : Nat → Parse Unit
  | 0 => fail
  | fuel + 1 => do
    if isOneOf (← peek) [.documentEnd] then
      let _ ← take
      skipDocumentEnds fuel

/-- The only document of a text; none if the text is empty. -/
def document (fuel : Nat) : Parse (Option Nat) := do
  let root ← match ← peek with
    | .stop => pure none
    | .directive _ | .documentStart => do
      directives false [] fuel
      match ← take with
      | .documentStart =>
        let r ← nodeUnless [.directive .other, .documentStart, .documentEnd, .stop] .block fuel
        pure (some r)
      | _ => fail
    | _ => some <$> node .block fuel
  skipDocumentEnds fuel
  match ← peek with
  | .stop => return root
  | .directive _ => do
    directives false [] fuel
    fail
  | _ => fail

end Node

/-- The document that tokens spell. -/
def Document.ofTokens (room : Nat) (tokens : Tokens) : Except Failure (Option Document) := do
  let handles := [("!", "!"), ("!!", Tag.core)]
  let fuel := 4 * tokens.ready.length + 8
  let (root, s) ← (Node.document fuel).run ⟨tokens, handles, [], #[], room⟩
  return root.map fun r => ⟨s.nodes, r⟩

end ApiConformance.Yaml
