import ApiConformance.Interface.Load
import ApiConformance.Verify

/-! Checking rules against an interface that is still in a file. -/
namespace ApiConformance

/-- A failure to load is itself a violation, the only one, and no rule is checked. -/
def verifyFile (s : System) (path : String) (rules : List Rule) :
    Except LoadError (List Violation) :=
  match Interface.load s path with
  | .ok i => .ok (i.verify rules)
  | .error (.failure source fault) =>
    .ok [.loadFailure source fault.reason (fault.detail source)]
  | .error e => .error e

end ApiConformance
