import ApiConformance.Settings.Basic
import ApiConformance.Settings.EnvFile
import ApiConformance.Settings.Options
import ApiConformance.Storage.Files
import ApiConformance.Text.Lines

/-!
Where settings come from: values given outright, the variables of the environment,
and those of files, which are the one named `.env` unless others are chosen; the
earlier sources go first. The environment may hold names that are no settings, the
others may not.
-/
namespace ApiConformance

/-- What settings are read from when none is given. -/
structure Surroundings where
  environment : List (String × String)
  files : Files
  deriving Repr

inductive SettingsError where
  | envFileNotUtf8 (m : Text.Utf8.Malformed)
  | invalid (problems : List Problem)
  | unknownLevel (name : String)
  deriving DecidableEq, Repr

def SettingsError.message : SettingsError → String
  | .envFileNotUtf8 m => m.message
  | .invalid problems => Problem.summaries problems
  | .unknownLevel name => "Unknown level: " ++ Text.quoted name

namespace Settings

namespace Options

/-- A name as it is compared with others. -/
def fold (o : Options) (name : String) : String := if o.exactCase then name else Text.lower name

/-- Entries under their names as they are compared; the last of several values stands. -/
def folded {α : Type} (o : Options) (entries : List (String × α)) : Table α :=
  .ofList (entries.map fun (name, v) => (o.fold name, v))

/-- The name of the variable of a setting. -/
def variableOf (o : Options) (field : String) : String := o.fold (o.lead ++ field)

end Options

/-- The values of the first source that has one, setting by setting, and then the names that are
no settings. Of several given values for one setting the first stands. An empty variable without
a setting is passed over in a file. -/
def gather (o : Options) (given : List (String × Value)) (environment : List (String × String))
    (envFile : List (String × Option String)) : List (String × Value) :=
  let kept (v : String) : Bool := !(o.skipsEmpty && v.isEmpty)
  let inEnvironment := o.folded (environment.filter fun (_, v) => kept v)
  let inFile := o.folded (envFile.filter fun (_, v) => v.all kept)
  let value (field : String) : Option Value :=
    let name := o.variableOf field
    ((given.find? fun (n, _) => o.fold n == field).map Prod.snd).or
      (((inEnvironment.get? name).or ((inFile.get? name).getD none)).map Value.text)
  let isSetting (name : String) : Bool :=
    fields.any (o.variableOf · == name) || (!o.lead.isEmpty && fields.contains name)
  let strangeVariables := inFile.entries.filterMap fun (name, v) =>
    match v with
    | some v => if isSetting name || v.isEmpty then none else some (name, Value.text v)
    | none => none
  let strangeGiven := given.filter fun (name, _) =>
    !fields.contains (o.fold name) && !(strangeVariables.lookup name).isSome
  fields.filterMap (fun field => (value field).map (field, ·)) ++ strangeVariables ++ strangeGiven

end Settings

namespace Surroundings

/-- The text of a file of variables, which is empty when there is no such file. -/
def envFileText (s : Surroundings) (path : Path) : Except SettingsError (List Char) :=
  match s.files.read path with
  | .error _ => .ok []
  | .ok octets =>
    match Text.Utf8.decode octets with
    | .error m => .error (.envFileNotUtf8 m)
    | .ok text => .ok (Text.unifyNewlines text.toList)

/-- The variables of several files, one file after another. -/
def envFileValues (s : Surroundings) :
    List Path → Except SettingsError (List (String × Option String))
  | [] => .ok []
  | path :: rest =>
    match s.envFileText path, s.envFileValues rest with
    | .error e, _ => .error e
    | .ok _, .error e => .error e
    | .ok text, .ok values => .ok (EnvFile.values s.environment text ++ values)

/-- Settings, of which some may be given. -/
def settings (s : Surroundings) (given : List (String × Value)) : Except SettingsError Settings :=
  let options := Settings.Options.ofGiven given
  match s.envFileValues options.files with
  | .error e => .error e
  | .ok envFile =>
    let given := Settings.Options.others given
    match Settings.ofEntries (Settings.gather options given s.environment envFile) with
    | .ok settings => .ok settings
    | .failed problems => .error (.invalid problems)

/-- The settings that were kept, or new ones, which are kept from then on. -/
def keptSettings (s : Surroundings) (kept : Option Settings) :
    Except SettingsError Settings × Option Settings :=
  match kept with
  | some settings => (.ok settings, some settings)
  | none =>
    match s.settings [] with
    | .ok settings => (.ok settings, some settings)
    | .error e => (.error e, none)

end Surroundings

/-- The number of the chosen level. -/
def Settings.level (s : Settings) : Except SettingsError Nat :=
  match s.level? with
  | some n => .ok n
  | none => .error (.unknownLevel s.levelName)

end ApiConformance
