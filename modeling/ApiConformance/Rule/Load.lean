import ApiConformance.System
import ApiConformance.Yaml.Reader

/-!
Loading a contract from a YAML file. What is wrong with the file, its YAML or its
rules is an error of the contract; data that are well written and cannot be had all
the same stop loading in another way.
-/
namespace ApiConformance

inductive ContractLoadError where
  | contract (e : ContractError)
  | badValue (b : Yaml.BadValue)
  | nameTooLong (path : String)
  deriving DecidableEq, Repr

/-- What is said of an error, without the words of libraries. -/
def ContractLoadError.message : ContractLoadError → String
  | .contract e => e.message
  | .badValue b => b.message
  | .nameTooLong path => FileError.nameTooLong.message (.ofString path)

namespace Contract

/-- How far below a document there is something that its rules are told by: the rules may be an
entry of it, and a rule has exports, which have labels, which are of some kind. -/
def depth : Nat := 7

/-- The rules in the octets of a file. -/
def ofOctets (room : Nat) (path : String) (octets : List UInt8) :
    Except ContractLoadError (List Rule) :=
  match Yaml.read room depth octets with
  | .error .malformed => .error (.contract (.notYaml path))
  | .error (.badValue b) => .error (.badValue b)
  | .ok v => (ofValue path v).mapError .contract

/-- The rules in a file; a path that no file can have names a missing one. -/
def loadFile (s : System) (path : String) : Except ContractLoadError (List Rule) :=
  let p := Path.ofString path
  let shown := p.text
  if path.toList.contains '\x00' then .error (.contract (.notFound shown))
  else
    match s.files.resolve p with
    | .error .nameTooLong => .error (.nameTooLong shown)
    | .error _ => .error (.contract (.notFound shown))
    | .ok entry =>
      match entry.read with
      | .error e => .error (.contract (.unreadable shown e))
      | .ok octets => ofOctets s.yamlRoom shown octets

/-- The rules in the file of a path, or else in the default one; an empty path is none. -/
def load (s : System) (default path : Option String) : Except ContractLoadError (List Rule) :=
  match (path.filter (!·.isEmpty)).or (default.filter (!·.isEmpty)) with
  | none => .error (.contract .unspecified)
  | some path => loadFile s path

end Contract

end ApiConformance
