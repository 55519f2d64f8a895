import ApiConformance.Json.Reader
import ApiConformance.Rule.Parse

/-!
What the program runs on. How much data can be inside other data depends on what the
program is in the middle of when it meets them, and some of what it says is left to
libraries, so both are taken as they come.
-/
namespace ApiConformance

structure System where
  files : Files
  /-- How many lists and maps of JSON can be inside one another. -/
  jsonRoom : Nat
  /-- How many nodes of YAML can be inside one another. -/
  yamlRoom : Nat
  /-- How many lists and maps can be inside one another in a problem that is told. -/
  answerRoom : Nat
  /-- What libraries say of what they have found wrong, where their words are told. -/
  remark : ContractError → Option String

namespace System

/-- The files on a system with the usual room, and without the words of libraries. -/
def ofFiles (files : Files) : System where
  files := files
  jsonRoom := Json.usualRoom
  yamlRoom := 450
  answerRoom := Json.usualRoom
  remark _ := none

instance : Coe Files System := ⟨ofFiles⟩

/-- The whole message of an error. -/
def tell (s : System) (e : ContractError) : String :=
  match e.isFoundByLibrary, s.remark e with
  | true, some words => e.message ++ ": " ++ words
  | _, _ => e.message

end System

end ApiConformance
