import ApiConformance.Validation.Problem

/-!
Problems as an answer tells them: each with the part of the request at fault, or,
when something is missing, with the part that lacks it.
-/
namespace ApiConformance

/-- The part of a value at a location. A chosen kind does not lead further in. -/
def Value.at? : Location → Value → Option Value
  | [], v => some v
  | .kind _ :: rest, v => at? rest v
  | .key name :: rest, .map entries => (lookup name entries).bind (at? rest)
  | .index i :: rest, .list vs => vs[i]?.bind (at? rest)
  | _ :: _, _ => none

mutual

/-- A value as answers show it: names that begin with `_sa` are left out. -/
def Value.shown : Value → Value
  | .map entries => .map (shownEntries entries)
  | .list vs => .list (shownItems vs)
  | .pair a b => .pair a.shown b.shown
  | v => v

def Value.shownItems : List Value → List Value
  | [] => []
  | v :: vs => v.shown :: shownItems vs

def Value.shownEntries : List (Atom × Value) → List (Atom × Value)
  | [] => []
  | (.text name, v) :: rest =>
    if "_sa".isPrefixOf name then shownEntries rest else (.text name, v.shown) :: shownEntries rest
  | (k, v) :: rest => (k, v.shown) :: shownEntries rest

end

mutual

/-- Whether every number in a value is finite, as JSON wants it. -/
def Value.isFinite : Value → Bool
  | .real x => x.isFinite
  | .map entries => finiteEntries entries
  | .list vs => finiteItems vs
  | .pair a b => a.isFinite && b.isFinite
  | _ => true

def Value.finiteItems : List Value → Bool
  | [] => true
  | v :: vs => v.isFinite && finiteItems vs

def Value.finiteEntries : List (Atom × Value) → Bool
  | [] => true
  | (_, v) :: rest => v.isFinite && finiteEntries rest

end

mutual

/-- How many lists and maps there are inside one another. -/
def Value.levels : Value → Nat
  | .map entries => entryLevels entries + 1
  | .list vs => itemLevels vs + 1
  | .pair a b => max a.levels b.levels + 1
  | _ => 0

def Value.itemLevels : List Value → Nat
  | [] => 0
  | v :: vs => max v.levels (itemLevels vs)

def Value.entryLevels : List (Atom × Value) → Nat
  | [] => 0
  | (_, v) :: rest => max v.levels (entryLevels rest)

end

/-- Records and values of several kinds are missed in the same words. -/
def Fault.unshaped : Fault → Fault
  | .notRecord _ => .notFields
  | f => f

/-- What the message of a fault was made of. -/
def Fault.context : Fault → Option Value
  | .kindMissing => some (.object [("discriminator", .text "\x27kind\x27")])
  | .kindUnknown tag expected => some (.object [
      ("discriminator", .text "\x27kind\x27"), ("tag", .text tag),
      ("expected_tags", .text (choices expected))])
  | .below bound => some (.object [("ge", .int bound)])
  | _ => none

/-- Where the fault of a problem is to be seen. -/
def Problem.seenAt (p : Problem) : Location :=
  match p.fault with
  | .missing => p.location.dropLast
  | _ => p.location

/-- A problem of the body of a request. -/
def Problem.detail (body : Value) (p : Problem) : Value :=
  let fault := p.fault.unshaped
  let input := ((Value.at? p.seenAt body).getD .null).shown
  .object ([
    ("type", .text fault.code), ("loc", .list (.text "body" :: p.location.map Step.value)),
    ("msg", .text fault.message), ("input", input)]
    ++ (fault.context.map fun c => ("ctx", c)).toList)

end ApiConformance
