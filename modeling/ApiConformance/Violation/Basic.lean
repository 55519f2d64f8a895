/-! What can be found wrong with an interface. -/
namespace ApiConformance

/-- The step at which loading an interface failed. -/
inductive LoadReason where
  | read
  | decode
  deriving DecidableEq, Repr, Inhabited

def LoadReason.text : LoadReason → String
  | .read => "read"
  | .decode => "decode"

inductive Violation where
  | missingFunction (source target name : String)
  | parameterMismatch (module function : String) (expected actual : List String)
  | missingType (module name : String)
  | typeMismatch (moduleA moduleB name reason : String)
  | missingExport (module name : String) (arity : Int)
  | moduleNotFound (module : String)
  | loadFailure (path : String) (reason : LoadReason) (detail : String)
  deriving DecidableEq, Repr, Inhabited

inductive Violation.Kind where
  | missingFunction
  | parameterMismatch
  | missingType
  | typeMismatch
  | missingExport
  | moduleNotFound
  | loadFailure
  deriving DecidableEq, Repr

def Violation.Kind.text : Violation.Kind → String
  | .missingFunction => "missing_function"
  | .parameterMismatch => "parameter_mismatch"
  | .missingType => "missing_type"
  | .typeMismatch => "type_mismatch"
  | .missingExport => "missing_export"
  | .moduleNotFound => "module_not_found"
  | .loadFailure => "interface_load_failure"

def Violation.kind : Violation → Violation.Kind
  | .missingFunction .. => .missingFunction
  | .parameterMismatch .. => .parameterMismatch
  | .missingType .. => .missingType
  | .typeMismatch .. => .typeMismatch
  | .missingExport .. => .missingExport
  | .moduleNotFound _ => .moduleNotFound
  | .loadFailure .. => .loadFailure

end ApiConformance
