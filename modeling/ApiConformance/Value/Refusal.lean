import ApiConformance.Value.Display

/-! What is said of a value that stands where only decoded things belong. -/
namespace ApiConformance

/-- The places where decoded things belong. -/
inductive Place where
  | typeExpression
  | declaration
  | paramSpec
  | rule
  | violation
  deriving DecidableEq, Repr

def Place.noun : Place → String
  | .typeExpression => "type expression"
  | .declaration => "type declaration"
  | .paramSpec => "parameter spec"
  | .rule => "rule"
  | .violation => "violation"

def Place.refusal (p : Place) (v : Value) : String := "Unknown " ++ p.noun ++ ": " ++ v.literal

end ApiConformance
