import ApiConformance.Rule.Decode

/-! Building rules part by part. Each part is checked as soon as it is built, and a rule is never
changed afterwards. -/
namespace ApiConformance

open Validation

def ParamSpec.build (label : Value) : Checked ParamSpec :=
  .labeled <$> (text label).under (.key "label")

def ExportSpec.build (name arity : Value) (labels : List ParamSpec) : Checked ExportSpec :=
  .mk <$> (text name).under (.key "name")
    <*> (naturalNumber arity).under (.key "arity")
    <*> .ok labels

def MirrorRule.build (source target : Value) (lead : List ParamSpec) : Checked MirrorRule :=
  .mk <$> (text source).under (.key "source")
    <*> (text target).under (.key "target")
    <*> .ok lead
    <*> .ok []

def RequiredExports.build (module : Value) (exports : List ExportSpec) : Checked RequiredExports :=
  .mk <$> (text module).under (.key "module") <*> .ok exports

def SharedTypes.build (moduleA moduleB : Value) (names : List Value) : Checked SharedTypes :=
  .mk <$> (text moduleA).under (.key "module_a")
    <*> (text moduleB).under (.key "module_b")
    <*> (items text names).under (.key "type_names")

/-- No field of a rule can be assigned. -/
def Rule.assign (_ : Rule) (field : String) : Checked Rule :=
  .failed [⟨[.key field], .frozen⟩]

end ApiConformance
