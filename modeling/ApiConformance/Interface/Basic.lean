import ApiConformance.Table

/-!
The public interface of a package: modules with the functions, custom types and
type aliases that they export. Variable numbers mean something only inside the
definition or alias that they occur in.
-/
namespace ApiConformance

inductive TypeExpr where
  | variable (id : Int)
  | tuple (elements : List TypeExpr)
  | named (package module name : String) (parameters : List TypeExpr)
  | fn (parameters : List TypeExpr) (result : TypeExpr)
  deriving Repr, Inhabited

namespace TypeExpr

mutual

def decEq : (a b : TypeExpr) → Decidable (a = b)
  | .variable i, .variable j => decidable_of_iff (i = j) (by simp)
  | .tuple xs, .tuple ys =>
    have := decEqList xs ys
    decidable_of_iff (xs = ys) (by simp)
  | .named p m n xs, .named q k l ys =>
    have := decEqList xs ys
    decidable_of_iff (p = q ∧ m = k ∧ n = l ∧ xs = ys) (by simp)
  | .fn xs r, .fn ys s =>
    have := decEqList xs ys
    have := decEq r s
    decidable_of_iff (xs = ys ∧ r = s) (by simp)
  | .variable _, .tuple _ => isFalse (by simp)
  | .variable _, .named .. => isFalse (by simp)
  | .variable _, .fn .. => isFalse (by simp)
  | .tuple _, .variable _ => isFalse (by simp)
  | .tuple _, .named .. => isFalse (by simp)
  | .tuple _, .fn .. => isFalse (by simp)
  | .named .., .variable _ => isFalse (by simp)
  | .named .., .tuple _ => isFalse (by simp)
  | .named .., .fn .. => isFalse (by simp)
  | .fn .., .variable _ => isFalse (by simp)
  | .fn .., .tuple _ => isFalse (by simp)
  | .fn .., .named .. => isFalse (by simp)

def decEqList : (xs ys : List TypeExpr) → Decidable (xs = ys)
  | [], [] => isTrue rfl
  | [], _ :: _ => isFalse (by simp)
  | _ :: _, [] => isFalse (by simp)
  | x :: xs, y :: ys =>
    have := decEq x y
    have := decEqList xs ys
    decidable_of_iff (x = y ∧ xs = ys) (by simp)

end

instance : DecidableEq TypeExpr := decEq

end TypeExpr

/-- What stands for the label of a parameter that has none. -/
def unlabeled : String := "_"

/-- A parameter of a function or a constructor. -/
structure Parameter where
  label : Option String
  type : TypeExpr
  deriving DecidableEq, Repr, Inhabited

def Parameter.labelText (p : Parameter) : String := p.label.getD unlabeled

structure Function where
  parameters : List Parameter
  result : Option TypeExpr
  deriving DecidableEq, Repr, Inhabited

/-- The labels of the parameters in order. -/
def Function.labels (f : Function) : List String := f.parameters.map Parameter.labelText

structure Constructor where
  name : String
  parameters : List Parameter
  deriving DecidableEq, Repr, Inhabited

/-- A custom type: how many parameters it takes, and its variants as declared. -/
structure TypeDefinition where
  arity : Int
  constructors : List Constructor
  isOpaque : Bool
  deriving DecidableEq, Repr, Inhabited

structure TypeAlias where
  arity : Int
  aliased : TypeExpr
  deriving DecidableEq, Repr, Inhabited

structure Module where
  functions : Table Function
  types : Table TypeDefinition
  aliases : Table TypeAlias
  deriving DecidableEq, Repr, Inhabited

structure Interface where
  name : String
  version : Option String
  modules : Table Module
  deriving DecidableEq, Repr, Inhabited

/-- What a type name stands for. -/
inductive Declaration where
  | definition (d : TypeDefinition)
  | typeAlias (a : TypeAlias)
  deriving DecidableEq, Repr, Inhabited

/-- A definition hides an alias of the same name. -/
def Module.declaration? (m : Module) (name : String) : Option Declaration :=
  match m.types.get? name with
  | some d => some (.definition d)
  | none => (m.aliases.get? name).map .typeAlias

end ApiConformance
