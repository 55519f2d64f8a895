import ApiConformance.Rule.Basic
import ApiConformance.Value.Basic

/-! Writing rules as data, in the form that contract files have. -/
namespace ApiConformance

def ParamSpec.toValue : ParamSpec → Value
  | .labeled label => .object [("kind", .text "labeled"), ("label", .text label)]
  | .unlabeled => .object [("kind", .text "unlabeled")]

def ExportSpec.toValue (e : ExportSpec) : Value :=
  .object [
    ("name", .text e.name), ("arity", .int e.arity),
    ("labels", .list (e.labels.map ParamSpec.toValue))]

def Rule.toValue : Rule → Value
  | .mirror r => .object [
      ("kind", .text "mirror"), ("source", .text r.source), ("target", .text r.target),
      ("prefix_params", .list (r.lead.map ParamSpec.toValue)),
      ("exceptions", .list (r.exceptions.map .text))]
  | .requiredExports r => .object [
      ("kind", .text "require_exports"), ("module", .text r.module),
      ("exports", .list (r.exports.map ExportSpec.toValue))]
  | .sharedTypes r => .object [
      ("kind", .text "shared_types"), ("module_a", .text r.moduleA), ("module_b", .text r.moduleB),
      ("types", .list (r.names.map .text))]

/-- The labels that a rule asks for; a rule on types asks for none. -/
def Rule.labels : Rule → Option Value
  | .mirror r => some (.list ((labelTexts r.lead).map .text))
  | .requiredExports r =>
    some (.list (r.exports.map fun e => .list ((labelTexts e.labels).map .text)))
  | .sharedTypes _ => none

end ApiConformance
