import ApiConformance.Validation.Field
import ApiConformance.Violation.Basic

/-! Reading violations from decoded data, and writing them. -/
namespace ApiConformance.Violation

open Validation

/-- The fields of each kind of violation, in their order. -/
def decoders : List (Kind × (List (Atom × Value) → Checked Violation)) := [
  (.missingFunction, fun r => .missingFunction
    <$> requiredField ["source_module"] text r
    <*> requiredField ["target_module"] text r
    <*> requiredField ["name"] text r),
  (.parameterMismatch, fun r => .parameterMismatch
    <$> requiredField ["module"] text r
    <*> requiredField ["function"] text r
    <*> requiredField ["expected"] (tuple text) r
    <*> requiredField ["actual"] (tuple text) r),
  (.missingType, fun r => .missingType
    <$> requiredField ["module"] text r
    <*> requiredField ["name"] text r),
  (.typeMismatch, fun r => .typeMismatch
    <$> requiredField ["module_a"] text r
    <*> requiredField ["module_b"] text r
    <*> requiredField ["name"] text r
    <*> requiredField ["reason"] text r),
  (.missingExport, fun r => .missingExport
    <$> requiredField ["module"] text r
    <*> requiredField ["name"] text r
    <*> requiredField ["arity"] integer r),
  (.moduleNotFound, fun r => .moduleNotFound
    <$> requiredField ["module"] text r),
  (.loadFailure, fun r => .loadFailure
    <$> requiredField ["path"] text r
    <*> requiredField ["reason"] (oneOf [("read", .read), ("decode", .decode)]) r
    <*> requiredField ["detail"] text r)]

def ofValue : Value → Checked Violation :=
  tagged (decoders.map fun (kind, decode) => (kind.text, decode))

def toValue (v : Violation) : Value :=
  .object (("kind", .text v.kind.text) :: match v with
    | .missingFunction source target name => [
        ("source_module", .text source), ("target_module", .text target), ("name", .text name)]
    | .parameterMismatch module function expected actual => [
        ("module", .text module), ("function", .text function),
        ("expected", .list (expected.map .text)), ("actual", .list (actual.map .text))]
    | .missingType module name => [("module", .text module), ("name", .text name)]
    | .typeMismatch moduleA moduleB name reason => [
        ("module_a", .text moduleA), ("module_b", .text moduleB), ("name", .text name),
        ("reason", .text reason)]
    | .missingExport module name arity => [
        ("module", .text module), ("name", .text name), ("arity", .int arity)]
    | .moduleNotFound module => [("module", .text module)]
    | .loadFailure path reason detail => [
        ("path", .text path), ("reason", .text reason.text), ("detail", .text detail)])

end ApiConformance.Violation
