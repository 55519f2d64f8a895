import ApiConformance.Table
import ApiConformance.Text.Utf8
import ApiConformance.Validation.Numeral

/-!
Decoders for the parts that all documents share: texts, integers, booleans,
tuples, tables, records and values of several kinds. Integers and booleans may
be written as numbers or as texts; nothing else is converted.
-/
namespace ApiConformance.Validation

variable {α : Type}

def text : Value → Checked String
  | .text s => .ok s
  | .atom (.octets bs) =>
    match Text.Utf8.decode bs with
    | .ok s => .ok s
    | .error _ => .fault .notUnicode
  | _ => .fault .notText

/-- The text of a value where a number may be written as one. -/
def numeralText? : Value → Option (Except Unit String)
  | .text s => some (.ok s)
  | .atom (.octets bs) => some ((Text.Utf8.decode bs).mapError fun _ => ())
  | _ => none

/-- Whether an integer has fewer than 64 bits, its sign counted. -/
def isNarrow (n : Int) : Bool := n.natAbs < 1 <<< 63

/-- A floating-point number counts as an integer when it is one of fewer than 64 bits. -/
def integerOfReal (x : Binary64) : Checked Int :=
  if !x.isFinite then .fault .integerFinite
  else
    match x.toInt? with
    | none => .fault .integerFraction
    | some n => if isNarrow n then .ok n else .fault .integerSize

def integer (v : Value) : Checked Int :=
  match v with
  | .int n => .ok n
  | .bool b => .ok (if b then 1 else 0)
  | .real x => integerOfReal x
  | _ =>
    match numeralText? v with
    | some (.ok s) => integerOfText s
    | some (.error ()) => .fault .integerText
    | none => .fault .notInteger

def naturalNumber (v : Value) : Checked Nat :=
  match integer v with
  | .ok (.ofNat n) => .ok n
  | .ok (.negSucc _) => .fault (.below 0)
  | .failed ps => .failed ps

/-- The words for truth and falsehood, in lower case. -/
def booleanOfWord (s : String) : Option Bool :=
  if ["0", "off", "f", "false", "n", "no"].contains s then some false
  else if ["1", "on", "t", "true", "y", "yes"].contains s then some true
  else none

/-- Zero and one are truth values. Other integers could have been meant as one, unless they are
wider than 64 bits. -/
def booleanOfInteger (n : Int) (wide : Bool) : Checked Bool :=
  if wide then .fault .notBoolean
  else if n = 0 then .ok false
  else if n = 1 then .ok true
  else .fault .booleanText

def lowerAscii (s : String) : String := String.ofList (s.toList.map Char.toLower)

def boolean (v : Value) : Checked Bool :=
  match v with
  | .bool b => .ok b
  | .int n => booleanOfInteger n (!isNarrow n && !isNarrow (n + 1))
  | .real x =>
    match x.toInt? with
    | some n => booleanOfInteger n (!isNarrow n)
    | none => .fault .notBoolean
  | _ =>
    match numeralText? v with
    | some (.ok s) =>
      match booleanOfWord (lowerAscii s) with
      | some b => .ok b
      | none => .fault .booleanText
    | some (.error ()) => .fault .booleanText
    | none => .fault .notBoolean

/-- A value that may be absent; null says so. -/
def nullable (decode : Value → Checked α) : Value → Checked (Option α)
  | .null => .ok none
  | v => some <$> decode v

/-- One of a few words. -/
def oneOf (choices : List (String × α)) (v : Value) : Checked α :=
  let failure := .fault (.notOneOf (choices.map Prod.fst))
  match v with
  | .text s => match choices.lookup s with | some a => .ok a | none => failure
  | _ => failure

/-- Decodes items in order, each below its index. -/
def items (decode : Value → Checked α) (vs : List Value) : Checked (List α) :=
  .all (vs.mapIdx fun i v => (decode v).under (.index i))

/-- The items of a list or of a pair, or of a set in its order. -/
def items? (v : Value) : Option (List Value) :=
  match v.untied with
  | .list vs => some vs
  | .pair a b => some [a, b]
  | .set as => some (as.map .atom)
  | _ => none

def tuple (decode : Value → Checked α) (v : Value) : Checked (List α) :=
  match items? v with
  | some vs => items decode vs
  | none => .fault .notTuple

def list (decode : Value → Checked α) (v : Value) : Checked (List α) :=
  match items? v with
  | some vs => items decode vs
  | none => .fault .notList

/-- One entry of a table, below its key, which has to be a text. -/
def entry (decode : Value → Checked α) (key : Atom) (v : Value) : Checked (String × α) :=
  match key with
  | .text name => (name, ·) <$> (decode v).under (.key name)
  | _ =>
    let keyProblem : Checked String :=
      ((Checked.fault .notText).under (.key "[key]")).under (.key key.plain)
    Prod.mk <$> keyProblem <*> (decode v).under (.key key.plain)

def table (decode : Value → Checked α) (v : Value) : Checked (Table α) :=
  match v.untied with
  | .map entries => Table.ofList <$> .all (entries.map fun (k, v) => entry decode k v)
  | _ => .fault .notMap

/-- The entries of a value of one shape. -/
def record (shape : String) (decode : List (Atom × Value) → Checked α) (v : Value) : Checked α :=
  match v.untied with
  | .map entries => decode entries
  | _ => .fault (.notRecord shape)

/-- The value under the first of some names that is present, and that name. -/
def find (names : List String) (entries : List (Atom × Value)) : Option (String × Value) :=
  names.findSome? fun name => (Value.lookup name entries).map (name, ·)

/-- A field that has to be present. Its first name is the one that is missed. -/
def requiredField (names : List String) (decode : Value → Checked α)
    (entries : List (Atom × Value)) : Checked α :=
  match find names entries with
  | some (name, v) => (decode v).under (.key name)
  | none => .failed [⟨[.key (names.headD "")], .missing⟩]

def optionalField (names : List String) (default : α) (decode : Value → Checked α)
    (entries : List (Atom × Value)) : Checked α :=
  match find names entries with
  | some (name, v) => (decode v).under (.key name)
  | none => .ok default

/-- A value whose entry `kind` tells which of several decoders reads it. A moment has fields, but
none of that name. -/
def tagged (decoders : List (String × (List (Atom × Value) → Checked α))) (v : Value) :
    Checked α :=
  match v.untied with
  | .map entries =>
    match Value.lookup "kind" entries with
    | none => .fault .kindMissing
    | some tag =>
      let unknown := .fault (.kindUnknown tag.plain (decoders.map Prod.fst))
      match tag with
      | .text s =>
        match decoders.lookup s with
        | some decode => (decode entries).under (.kind s)
        | none => unknown
      | _ => unknown
  | .atom (.moment _) => .fault .kindMissing
  | _ => .fault .notFields

end ApiConformance.Validation
