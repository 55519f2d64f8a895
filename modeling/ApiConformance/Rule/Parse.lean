import ApiConformance.Rule.Decode
import ApiConformance.Storage.Files

/-!
Reading the rules of a contract: a list of rules, or a map whose entry `rules` is
one. The first rule that is not valid is reported, with everything wrong with it.
-/
namespace ApiConformance

inductive ContractError where
  | unspecified
  | notFound (path : String)
  | unreadable (path : String) (e : FileError)
  | notYaml (path : String)
  | noRuleList (source : String)
  | notList (source : String)
  | invalidRule (source : String) (index : Nat) (problems : List Problem)
  deriving DecidableEq, Repr

/-- What is said of an error. Where a library has found what is wrong, its own words follow. -/
def ContractError.message : ContractError → String
  | .unspecified => "No contract file specified"
  | .notFound path => "Contract file not found: " ++ path
  | .unreadable path e =>
    "Could not read contract file " ++ path ++ ": " ++ e.message (.ofString path)
  | .notYaml path => "Invalid YAML in " ++ path
  | .noRuleList source => source ++ ": expected a top-level \x27rules\x27 list"
  | .notList source => source ++ ": expected a list of rules"
  | .invalidRule source index _ => source ++ ": rule " ++ Text.natural index ++ " is invalid"

def ContractError.isFoundByLibrary : ContractError → Bool
  | .notYaml _ | .invalidRule .. => true
  | _ => false

namespace Contract

/-- The rules of a list whose first entry has the given index. -/
def ofEntries (source : String) (index : Nat) : List Value → Except ContractError (List Rule)
  | [] => .ok []
  | v :: vs =>
    match Rule.ofValue v with
    | .failed ps => .error (.invalidRule source index ps)
    | .ok r => (ofEntries source (index + 1) vs).map (r :: ·)

/-- An empty document holds no rules. -/
def ofValue (source : String) (v : Value) : Except ContractError (List Rule) :=
  match v.untied with
  | .null => .ok []
  | .list vs => ofEntries source 0 vs
  | .map entries =>
    match (Value.lookup "rules" entries).map Value.untied with
    | some (.list vs) => ofEntries source 0 vs
    | _ => .error (.noRuleList source)
  | _ => .error (.notList source)

end Contract

end ApiConformance
