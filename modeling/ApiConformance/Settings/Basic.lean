import ApiConformance.Text.Case
import ApiConformance.Validation.Field

/-!
Settings of the program, each with a default, and the level of messages that they
choose.
-/
namespace ApiConformance

open Validation

structure Settings where
  appName : String
  debug : Bool
  logLevel : String
  interfacePath : String
  contractsPath : String
  deriving DecidableEq, Repr

namespace Settings

def fields : List String := ["app_name", "debug", "log_level", "interface_path", "contracts_path"]

/-- Refuses every name that is no setting. -/
def onlyFields (entries : List (String × Value)) : Checked Unit :=
  let unexpected := entries.filter fun (name, _) => !fields.contains name
  match unexpected.map fun (name, _) => (⟨[.key name], .unexpected⟩ : Problem) with
  | [] => .ok ()
  | problems => .failed problems

/-- Reads settings from named values. -/
def ofEntries (entries : List (String × Value)) : Checked Settings :=
  let named : List (Atom × Value) := entries.map fun (name, v) => (.text name, v)
  Settings.mk
    <$> optionalField ["app_name"] "Surface Contracts" text named
    <*> optionalField ["debug"] false boolean named
    <*> optionalField ["log_level"] "INFO" text named
    <*> optionalField ["interface_path"] "build/package-interface.json" text named
    <*> optionalField ["contracts_path"] "contracts.yaml" text named
    <* onlyFields entries

def toValue (s : Settings) : Value :=
  .object [
    ("app_name", .text s.appName), ("debug", .bool s.debug), ("log_level", .text s.logLevel),
    ("interface_path", .text s.interfacePath), ("contracts_path", .text s.contractsPath)]

/-- The levels of messages, the least urgent first. -/
def levels : List (String × Nat) := [
  ("NOTSET", 0), ("DEBUG", 10), ("INFO", 20), ("WARN", 30), ("WARNING", 30), ("ERROR", 40),
  ("FATAL", 50), ("CRITICAL", 50)]

/-- The name of the chosen level; debugging chooses one of its own. -/
def levelName (s : Settings) : String := if s.debug then "DEBUG" else Text.upper s.logLevel

/-- The chosen level, if there is one of its name. -/
def level? (s : Settings) : Option Nat := levels.lookup s.levelName

end Settings

end ApiConformance
