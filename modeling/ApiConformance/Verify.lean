import ApiConformance.Canonical.Key
import ApiConformance.Rule.Basic
import ApiConformance.Violation.Basic

/-!
Checking rules against an interface. Every rule is checked by itself and to its
end; within a rule, things are visited in ascending order of their names, so the
order in which an interface lists its entries does not matter. A rule that names
an absent module reports nothing else.
-/
namespace ApiConformance

/-- The paths among these that the interface does not have. -/
def Interface.missingModules (i : Interface) (paths : List String) : List Violation :=
  (paths.filter fun path => (i.modules.get? path).isNone).map .moduleNotFound

/-- What one function of the source of a mirror rule gives rise to. -/
def MirrorRule.checkFunction (r : MirrorRule) (target : Module) (name : String) (f : Function) :
    Option Violation :=
  match target.functions.get? name with
  | none => some (.missingFunction r.source r.target name)
  | some g =>
    if r.exceptions.contains name then none
    else
      let expected := labelTexts r.lead ++ f.labels
      if expected = g.labels then none
      else some (.parameterMismatch r.target name expected g.labels)

def MirrorRule.checkModules (r : MirrorRule) (source target : Module) : List Violation :=
  source.functions.sorted.filterMap fun (name, f) => r.checkFunction target name f

def MirrorRule.check (r : MirrorRule) (i : Interface) : List Violation :=
  match i.modules.get? r.source, i.modules.get? r.target with
  | some source, some target => r.checkModules source target
  | _, _ => i.missingModules [r.source, r.target]

/-- The order in which exports are visited: by name, then by arity. -/
def ExportSpec.precedes (a b : ExportSpec) : Bool :=
  decide (a.name < b.name ∨ (a.name = b.name ∧ a.arity ≤ b.arity))

def ExportSpec.check (e : ExportSpec) (path : String) (m : Module) : Option Violation :=
  match m.functions.get? e.name with
  | none => some (.missingExport path e.name e.arity)
  | some f =>
    let expected := labelTexts e.labels
    if e.arity = f.labels.length ∧ expected = f.labels then none
    else some (.parameterMismatch path e.name expected f.labels)

def RequiredExports.checkModule (r : RequiredExports) (m : Module) : List Violation :=
  (r.exports.mergeSort ExportSpec.precedes).filterMap fun e => e.check r.module m

def RequiredExports.check (r : RequiredExports) (i : Interface) : List Violation :=
  match i.modules.get? r.module with
  | some m => r.checkModule m
  | none => i.missingModules [r.module]

/-- How two declarations with different keys differ. -/
def Declaration.mismatchReason : Declaration → Declaration → String
  | .definition _, .definition _ => "type definitions differ structurally"
  | .typeAlias _, .typeAlias _ => "type aliases differ structurally"
  | .definition _, .typeAlias _ =>
    "kind mismatch: custom type in the first module, type alias in the second"
  | .typeAlias _, .definition _ =>
    "kind mismatch: type alias in the first module, custom type in the second"

def SharedTypes.checkName (r : SharedTypes) (a b : Module) (name : String) : List Violation :=
  match a.declaration? name, b.declaration? name with
  | some x, some y =>
    if x.key = y.key then []
    else [.typeMismatch r.moduleA r.moduleB name (x.mismatchReason y)]
  | x, y =>
    (if x.isNone then [.missingType r.moduleA name] else [])
      ++ (if y.isNone then [.missingType r.moduleB name] else [])

/-- The distinct names in ascending order. -/
def sortedNames (names : List String) : List String :=
  names.eraseDups.mergeSort fun a b => decide (a ≤ b)

def SharedTypes.checkModules (r : SharedTypes) (a b : Module) : List Violation :=
  (sortedNames r.names).flatMap (r.checkName a b)

def SharedTypes.check (r : SharedTypes) (i : Interface) : List Violation :=
  match i.modules.get? r.moduleA, i.modules.get? r.moduleB with
  | some a, some b => r.checkModules a b
  | _, _ => i.missingModules [r.moduleA, r.moduleB]

def Rule.check (r : Rule) (i : Interface) : List Violation :=
  match r with
  | .mirror r => r.check i
  | .requiredExports r => r.check i
  | .sharedTypes r => r.check i

/-- The violations of every rule, in the order of the rules. -/
def Interface.verify (i : Interface) (rules : List Rule) : List Violation :=
  rules.flatMap (·.check i)

end ApiConformance
