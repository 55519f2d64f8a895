import ApiConformance.Rule.Basic
import ApiConformance.Validation.Field

/-!
Reading rules from decoded data. In a list of parameter specs a text stands for a
label and null for a parameter without one.
-/
namespace ApiConformance

open Validation

def ParamSpec.ofLongForm : Value → Checked ParamSpec :=
  tagged [
    ("labeled", fun r => .labeled <$> requiredField ["label"] text r),
    ("unlabeled", fun _ => .ok .unlabeled)]

/-- A parameter spec inside a list, where the short forms are allowed. -/
def ParamSpec.ofValue : Value → Checked ParamSpec
  | .null => .ok .unlabeled
  | .text label => .ok (.labeled label)
  | v => ofLongForm v

/-- A list of parameter specs. The short forms are not looked for in a set. -/
def ParamSpec.listOfValue (v : Value) : Checked (List ParamSpec) :=
  match v.untied with
  | .list vs => items ofValue vs
  | .pair a b => items ofValue [a, b]
  | v => tuple ofLongForm v

def ExportSpec.ofValue : Value → Checked ExportSpec :=
  record "ExportSpec" fun r => .mk
    <$> requiredField ["name"] text r
    <*> requiredField ["arity"] naturalNumber r
    <*> optionalField ["labels"] [] ParamSpec.listOfValue r

def MirrorRule.ofEntries (r : List (Atom × Value)) : Checked MirrorRule :=
  .mk
    <$> requiredField ["source"] text r
    <*> requiredField ["target"] text r
    <*> optionalField ["prefix_params"] [] ParamSpec.listOfValue r
    <*> optionalField ["exceptions"] [] (tuple text) r

def RequiredExports.ofEntries (r : List (Atom × Value)) : Checked RequiredExports :=
  .mk
    <$> requiredField ["module"] text r
    <*> optionalField ["exports"] [] (tuple ExportSpec.ofValue) r

def SharedTypes.ofEntries (r : List (Atom × Value)) : Checked SharedTypes :=
  .mk
    <$> requiredField ["module_a"] text r
    <*> requiredField ["module_b"] text r
    <*> optionalField ["types", "type_names"] [] (tuple text) r

def Rule.ofValue : Value → Checked Rule :=
  tagged [
    ("mirror", fun r => .mirror <$> MirrorRule.ofEntries r),
    ("require_exports", fun r => .requiredExports <$> RequiredExports.ofEntries r),
    ("shared_types", fun r => .sharedTypes <$> SharedTypes.ofEntries r)]

end ApiConformance
