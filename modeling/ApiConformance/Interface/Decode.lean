import ApiConformance.Interface.Basic
import ApiConformance.Validation.Field

/-!
Reading an interface from decoded data. Entries that mean nothing here are passed
over; a field with two names may be given under either, the first one winning.
-/
namespace ApiConformance

open Validation

/-- How many types may be nested in one another inside a declaration. -/
def TypeExpr.maxDepth : Nat := 255

/-- Reads a type expression that at most `room` levels of types may fill. A kind that does not
exist is reported before the lack of room. -/
def TypeExpr.decode : (room : Nat) → Value → Checked TypeExpr
  | 0 => tagged (["variable", "tuple", "named", "fn"].map (·, fun _ => .fault .tooDeep))
  | room + 1 => tagged [
      ("variable", fun r => .variable <$> requiredField ["id"] integer r),
      ("tuple", fun r => .tuple
        <$> optionalField ["elements"] [] (Validation.tuple (decode room)) r),
      ("named", fun r => .named
        <$> optionalField ["package"] "" text r
        <*> requiredField ["module"] text r
        <*> requiredField ["name"] text r
        <*> optionalField ["parameters"] [] (Validation.tuple (decode room)) r),
      ("fn", fun r => .fn
        <$> optionalField ["parameters"] [] (Validation.tuple (decode room)) r
        <*> requiredField ["return", "return_"] (decode room) r)]

/-- The type expression of a declaration. -/
def TypeExpr.ofField : Value → Checked TypeExpr := decode maxDepth

/-- A type expression that stands alone; it counts as nested in one. -/
def TypeExpr.ofValue : Value → Checked TypeExpr := decode (maxDepth - 1)

def Parameter.ofValue : Value → Checked Parameter :=
  record "Parameter" fun r => .mk
    <$> optionalField ["label"] none (nullable text) r
    <*> requiredField ["type"] TypeExpr.ofField r

def Function.ofValue : Value → Checked Function :=
  record "Function" fun r => .mk
    <$> optionalField ["parameters"] [] (tuple Parameter.ofValue) r
    <*> optionalField ["return", "return_"] none (nullable TypeExpr.ofField) r

def Constructor.ofValue : Value → Checked Constructor :=
  record "TypeConstructor" fun r => .mk
    <$> requiredField ["name"] text r
    <*> optionalField ["parameters"] [] (tuple Parameter.ofValue) r

def TypeDefinition.ofValue : Value → Checked TypeDefinition :=
  record "TypeDefinition" fun r => .mk
    <$> optionalField ["parameters", "arity"] 0 integer r
    <*> optionalField ["constructors"] [] (tuple Constructor.ofValue) r
    <*> optionalField ["opaque"] false boolean r

def TypeAlias.ofValue : Value → Checked TypeAlias :=
  record "TypeAlias" fun r => .mk
    <$> optionalField ["parameters", "arity"] 0 integer r
    <*> requiredField ["alias"] TypeExpr.ofField r

def Module.ofValue : Value → Checked Module :=
  record "Module" fun r => .mk
    <$> optionalField ["functions"] .empty (table Function.ofValue) r
    <*> optionalField ["types"] .empty (table TypeDefinition.ofValue) r
    <*> optionalField ["type-aliases", "type_aliases"] .empty (table TypeAlias.ofValue) r

def Interface.ofValue : Value → Checked Interface :=
  record "PackageInterface" fun r => .mk
    <$> optionalField ["name"] "" text r
    <*> optionalField ["version"] none (nullable text) r
    <*> optionalField ["modules"] .empty (table Module.ofValue) r

end ApiConformance
