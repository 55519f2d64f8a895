import ApiConformance.Canonical.Numbering
import ApiConformance.Interface.Basic
import ApiConformance.Text.Decimal

/-!
Canonical keys: a text for every type, in which variables carry canonical numbers
in place of their own. Two declarations that differ in how their variables are
numbered, or in the order of their constructors, have one key.
-/
namespace ApiConformance

def joined (separator : String) (keys : List String) : String := separator.intercalate keys

namespace TypeExpr

mutual

/-- The key of a type, and the numbering after every variable in it. -/
def key : TypeExpr → Numbering → String × Numbering
  | .variable id, s =>
    let (n, s) := s.resolve id
    ("v" ++ Text.natural n, s)
  | .tuple elements, s =>
    let (ks, s) := keys elements s
    ("tuple(" ++ joined "," ks ++ ")", s)
  | .named package module name parameters, s =>
    let (ks, s) := keys parameters s
    ("named(" ++ package ++ "|" ++ module ++ "|" ++ name ++ ")<" ++ joined "," ks ++ ">", s)
  | .fn parameters result, s =>
    let (ks, s) := keys parameters s
    let (k, s) := result.key s
    ("fn(" ++ joined "," ks ++ ")->" ++ k, s)

/-- The keys of several types from left to right, under one numbering. -/
def keys : List TypeExpr → Numbering → List String × Numbering
  | [], s => ([], s)
  | t :: ts, s =>
    let (k, s) := t.key s
    let (ks, s) := keys ts s
    (k :: ks, s)

end

theorem key_var (id : Int) (s : Numbering) :
    (TypeExpr.variable id).key s = ("v" ++ Text.natural (s.resolve id).1, (s.resolve id).2) := rfl

theorem key_tuple (elements : List TypeExpr) (s : Numbering) :
    (tuple elements).key s =
      ("tuple(" ++ joined "," (keys elements s).1 ++ ")", (keys elements s).2) := rfl

theorem key_named (package module name : String) (parameters : List TypeExpr) (s : Numbering) :
    (named package module name parameters).key s =
      ("named(" ++ package ++ "|" ++ module ++ "|" ++ name ++ ")<"
        ++ joined "," (keys parameters s).1 ++ ">", (keys parameters s).2) := rfl

theorem key_fn (parameters : List TypeExpr) (result : TypeExpr) (s : Numbering) :
    (fn parameters result).key s =
      ("fn(" ++ joined "," (keys parameters s).1 ++ ")->" ++ (result.key (keys parameters s).2).1,
        (result.key (keys parameters s).2).2) := rfl

theorem keys_cons (t : TypeExpr) (ts : List TypeExpr) (s : Numbering) :
    keys (t :: ts) s =
      ((t.key s).1 :: (keys ts (t.key s).2).1, (keys ts (t.key s).2).2) := rfl

end TypeExpr

def Parameter.key (p : Parameter) (s : Numbering) : String × Numbering :=
  let (k, s) := p.type.key s
  (p.labelText ++ ":" ++ k, s)

/-- The keys of several things from left to right, under one numbering. -/
def keysWith {α : Type} (key : α → Numbering → String × Numbering) :
    List α → Numbering → List String × Numbering
  | [], s => ([], s)
  | a :: as, s =>
    let (k, s) := key a s
    let (ks, s) := keysWith key as s
    (k :: ks, s)

def Constructor.key (c : Constructor) (s : Numbering) : String × Numbering :=
  let (ks, s) := keysWith Parameter.key c.parameters s
  (c.name ++ "(" ++ joined "," ks ++ ")", s)

/-- The constructors in ascending order of their names; those of one name stay in order. -/
def TypeDefinition.sortedConstructors (d : TypeDefinition) : List Constructor :=
  d.constructors.mergeSort fun a b => decide (a.name ≤ b.name)

/-- Constructors share one numbering, so a variable keeps its number from one to the next. -/
def TypeDefinition.key (d : TypeDefinition) : String :=
  "type(" ++ Text.integer d.arity ++ "):"
    ++ joined "|" (keysWith Constructor.key d.sortedConstructors .empty).1

def TypeAlias.key (a : TypeAlias) : String :=
  "alias(" ++ Text.integer a.arity ++ "):" ++ (a.aliased.key .empty).1

def Declaration.key : Declaration → String
  | .definition d => d.key
  | .typeAlias a => a.key

end ApiConformance
