import ApiConformance.Interface.Basic
import ApiConformance.Value.Basic

/-!
Writing an interface as data, with every default filled in. Fields that have two
names are written under the one that the spelling chooses.
-/
namespace ApiConformance

/-- Which of its two names a field is written under. -/
inductive Spelling where
  | document
  | field
  deriving DecidableEq, Repr

def Spelling.choose (s : Spelling) (document field : String) : String :=
  match s with
  | .document => document
  | .field => field

def Value.ofOption {α : Type} (encode : α → Value) : Option α → Value
  | none => .null
  | some a => encode a

namespace TypeExpr

mutual

def toValue (s : Spelling) : TypeExpr → Value
  | .variable id => .object [("kind", .text "variable"), ("id", .int id)]
  | .tuple elements => .object [("kind", .text "tuple"), ("elements", .list (toValues s elements))]
  | .named package module name parameters => .object [
      ("kind", .text "named"), ("package", .text package), ("module", .text module),
      ("name", .text name), ("parameters", .list (toValues s parameters))]
  | .fn parameters result => .object [
      ("kind", .text "fn"), ("parameters", .list (toValues s parameters)),
      (s.choose "return" "return_", result.toValue s)]

def toValues (s : Spelling) : List TypeExpr → List Value
  | [] => []
  | t :: ts => t.toValue s :: toValues s ts

end

end TypeExpr

/-- A table as a map, in its order. -/
def Table.toValue {α : Type} (encode : α → Value) (t : Table α) : Value :=
  .object (t.entries.map fun (name, a) => (name, encode a))

def Parameter.toValue (s : Spelling) (p : Parameter) : Value :=
  .object [("label", .ofOption .text p.label), ("type", p.type.toValue s)]

def Function.toValue (s : Spelling) (f : Function) : Value :=
  .object [
    ("parameters", .list (f.parameters.map (·.toValue s))),
    (s.choose "return" "return_", .ofOption (·.toValue s) f.result)]

def Constructor.toValue (s : Spelling) (c : Constructor) : Value :=
  .object [("name", .text c.name), ("parameters", .list (c.parameters.map (·.toValue s)))]

def TypeDefinition.toValue (s : Spelling) (d : TypeDefinition) : Value :=
  .object [
    (s.choose "parameters" "arity", .int d.arity),
    ("constructors", .list (d.constructors.map (·.toValue s))),
    ("opaque", .bool d.isOpaque)]

def TypeAlias.toValue (s : Spelling) (a : TypeAlias) : Value :=
  .object [(s.choose "parameters" "arity", .int a.arity), ("alias", a.aliased.toValue s)]

def Module.toValue (s : Spelling) (m : Module) : Value :=
  .object [
    ("functions", m.functions.toValue (·.toValue s)),
    ("types", m.types.toValue (·.toValue s)),
    (s.choose "type-aliases" "type_aliases", m.aliases.toValue (·.toValue s))]

def Interface.toValue (s : Spelling) (i : Interface) : Value :=
  .object [
    ("name", .text i.name),
    ("version", .ofOption .text i.version),
    ("modules", i.modules.toValue (·.toValue s))]

/-- The labels of every function of every module. -/
def Interface.labels (i : Interface) : Value :=
  i.modules.toValue fun m => m.functions.toValue fun f => .list (f.labels.map .text)

end ApiConformance
