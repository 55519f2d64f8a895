import ApiConformance.Interface.Decode
import ApiConformance.System
import ApiConformance.Text.Utf8
import ApiConformance.Violation.Basic

/-!
Loading an interface from JSON text or from a file. A file is read as UTF-8 with
all line ends made alike. Whatever is wrong with the file or its text is a failure
of loading; two things stop loading in another way: a path that no file can have,
and JSON that cannot be read however well it is written.
-/
namespace ApiConformance

inductive LoadFault where
  | unreadable (e : FileError)
  | notUtf8 (m : Text.Utf8.Malformed)
  | notJson (f : Json.Failure) (text : List Char)
  | invalid (problems : List Problem)
  deriving DecidableEq, Repr

inductive LoadError where
  | failure (source : String) (fault : LoadFault)
  | nullInPath
  | stopped (s : Json.Stop)
  deriving DecidableEq, Repr

def LoadFault.reason : LoadFault → LoadReason
  | .unreadable _ => .read
  | _ => .decode

def LoadFault.detail (source : String) : LoadFault → String
  | .unreadable e => e.message (.ofString source)
  | .notUtf8 m => "invalid UTF-8: " ++ m.message
  | .notJson f text => "invalid JSON: " ++ f.message text
  | .invalid ps => Problem.summaries ps

def LoadError.message : LoadError → String
  | .failure source fault =>
    "Could not " ++ fault.reason.text ++ " package interface " ++ source ++ ": "
      ++ fault.detail source
  | .nullInPath => "embedded null byte"
  | .stopped s => s.message

/-- The interface that a JSON text holds; `source` names the text in messages. -/
def Interface.ofText (text : List Char) (source : String) (room : Nat := Json.usualRoom) :
    Except LoadError Interface :=
  match Json.read text room with
  | .error ⟨.stop s, _⟩ => .error (.stopped s)
  | .error f => .error (.failure source (.notJson f text))
  | .ok v =>
    match Interface.ofValue v with
    | .ok i => .ok i
    | .failed ps => .error (.failure source (.invalid ps))

/-- A path with a null character names no file. -/
def hasNull (path : String) : Bool := path.toList.contains '\x00'

def Interface.load (s : System) (path : String) : Except LoadError Interface :=
  let p := Path.ofString path
  if hasNull path then .error .nullInPath
  else
    match s.files.read p with
    | .error e => .error (.failure p.text (.unreadable e))
    | .ok octets =>
      match Text.Utf8.decode octets with
      | .error m => .error (.failure p.text (.notUtf8 m))
      | .ok text => Interface.ofText (Text.unifyNewlines text.toList) p.text s.jsonRoom

end ApiConformance
