import ApiConformance.Storage.Path
import ApiConformance.Value.Basic

/-!
How the variables of settings are looked up. The choices may be given among the
values of the settings, under names of their own that begin with an underscore.
-/
namespace ApiConformance.Settings

structure Options where
  /-- The files of variables, of which a later one goes first. -/
  files : List Path
  /-- What the name of every variable begins with. -/
  lead : String
  /-- Whether the case of a name matters. -/
  exactCase : Bool
  /-- Whether an empty variable counts as none. -/
  skipsEmpty : Bool
  deriving DecidableEq, Repr

namespace Options

def standard : Options := ⟨[.ofString ".env"], "", false, false⟩

/-- The names of the choices. Those that concern values of several parts, secrets or arguments of
a command have nothing to act upon. -/
def names : List String := [
  "_case_sensitive", "_cli_avoid_json", "_cli_enforce_required", "_cli_exit_on_error",
  "_cli_flag_prefix_char", "_cli_hide_none_type", "_cli_ignore_unknown_args",
  "_cli_implicit_flags", "_cli_kebab_case", "_cli_parse_args", "_cli_parse_none_str",
  "_cli_prefix", "_cli_prog_name", "_cli_settings_source", "_cli_shortcuts",
  "_cli_use_class_docs_for_groups", "_env_file", "_env_file_encoding", "_env_ignore_empty",
  "_env_nested_delimiter", "_env_nested_max_split", "_env_parse_enums", "_env_parse_none_str",
  "_env_prefix", "_nested_model_default_partial_update", "_secrets_dir"]

/-- The files that a value names: one, several or none. -/
def filesOf : Value → List Path
  | .text name => [.ofString name]
  | .list vs => vs.filterMap fun v =>
    match v with
    | .text name => some (.ofString name)
    | _ => none
  | _ => []

/-- The choices among given values; what is left out or null stays as it is by default, but no
file is read when the files are null. -/
def ofGiven (given : List (String × Value)) : Options where
  files := match given.lookup "_env_file" with
    | some v => filesOf v
    | none => standard.files
  lead := match given.lookup "_env_prefix" with
    | some (.text lead) => lead
    | _ => standard.lead
  exactCase := match given.lookup "_case_sensitive" with
    | some (.bool b) => b
    | _ => standard.exactCase
  skipsEmpty := match given.lookup "_env_ignore_empty" with
    | some (.bool b) => b
    | _ => standard.skipsEmpty

/-- The given values that are no choices. -/
def others (given : List (String × Value)) : List (String × Value) :=
  given.filter fun (name, _) => !names.contains name

end Options

end ApiConformance.Settings
