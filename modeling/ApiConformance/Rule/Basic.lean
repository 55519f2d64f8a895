import ApiConformance.Interface.Basic

/-!
Rules that an interface has to satisfy. A mirror rule wants one module to offer
every function of another; a required-exports rule wants certain functions with
certain labels; a shared-types rule wants types to be equal in two modules.
-/
namespace ApiConformance

/-- The label that a parameter has to have. -/
inductive ParamSpec where
  | labeled (label : String)
  | unlabeled
  deriving DecidableEq, Repr, Inhabited

def ParamSpec.labelText : ParamSpec → String
  | .labeled label => label
  | .unlabeled => ApiConformance.unlabeled

def labelTexts (specs : List ParamSpec) : List String := specs.map ParamSpec.labelText

structure ExportSpec where
  name : String
  arity : Nat
  labels : List ParamSpec
  deriving DecidableEq, Repr, Inhabited

/-- Every function of `source` has to be in `target`, its labels after those of `lead`. The
labels of functions in `exceptions` do not matter. -/
structure MirrorRule where
  source : String
  target : String
  lead : List ParamSpec
  exceptions : List String
  deriving DecidableEq, Repr, Inhabited

structure RequiredExports where
  module : String
  exports : List ExportSpec
  deriving DecidableEq, Repr, Inhabited

structure SharedTypes where
  moduleA : String
  moduleB : String
  names : List String
  deriving DecidableEq, Repr, Inhabited

inductive Rule where
  | mirror (r : MirrorRule)
  | requiredExports (r : RequiredExports)
  | sharedTypes (r : SharedTypes)
  deriving DecidableEq, Repr, Inhabited

/-- Excuses more functions from having the right labels. -/
def MirrorRule.withExceptions (r : MirrorRule) (names : List String) : MirrorRule :=
  { r with exceptions := r.exceptions ++ names }

/-- Only mirror rules have exceptions; other rules stay as they are. -/
def Rule.withExceptions (r : Rule) (names : List String) : Rule :=
  match r with
  | .mirror r => .mirror (r.withExceptions names)
  | r => r

/-- The modules that a rule speaks of, in the order in which it names them. -/
def Rule.modules : Rule → List String
  | .mirror r => [r.source, r.target]
  | .requiredExports r => [r.module]
  | .sharedTypes r => [r.moduleA, r.moduleB]

end ApiConformance
