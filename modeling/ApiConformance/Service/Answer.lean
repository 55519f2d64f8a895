import ApiConformance.Rule.Load
import ApiConformance.Service.Body
import ApiConformance.Service.Detail
import ApiConformance.Service.Target
import ApiConformance.Settings.Sources
import ApiConformance.VerifyFile
import ApiConformance.Violation.Report

/-!
The service: it answers a request to verify rules against an interface, both of
them posted, or both in the files that the settings name. The settings are read
when it starts; the files are read again for every request, which meets the system
as it is then.
-/
namespace ApiConformance

structure Request where
  method : String
  target : Target
  contentType : String
  body : String
  deriving DecidableEq, Repr

inductive Content where
  | json (v : Value)
  | text (s : String)

structure Response where
  status : Nat
  content : Content

/-- What no answer tells: all that is said is that something went wrong. -/
inductive ServiceFault where
  | contract (e : ContractLoadError)
  | interface (e : LoadError)
  | report (n : OverlongInteger)
  | notFinite
  /-- Lists and maps inside one another, more than there is room for in an answer. -/
  | tooDeep
  /-- Half of a surrogate pair, which no answer can hold. -/
  | torn
  deriving DecidableEq, Repr

inductive Endpoint where
  | root
  | health
  | verify
  | configured
  deriving DecidableEq, Repr

namespace Endpoint

def path : Endpoint → String
  | .root => "/"
  | .health => "/health"
  | .verify => "/verify"
  | .configured => "/verify/configured"

def method : Endpoint → String
  | .verify => "POST"
  | _ => "GET"

/-- The endpoint of a path. A line feed at the end of the path does not matter. -/
def ofPath (path : List UInt8) : Option Endpoint :=
  [root, health, verify, configured].find? fun e =>
    let own := Text.Utf8.encode e.path
    path == own || path == own ++ [0x0a]

/-- The endpoint that a path leads to without the slashes at its end. -/
def ofSlashedPath (path : List UInt8) : Option Endpoint :=
  let slash : UInt8 := 0x2f
  if path.getLast? = some slash then ofPath (path.reverse.dropWhile (· == slash)).reverse
  else none

theorem ofPath_path (e : Endpoint) : ofPath (Text.Utf8.encode e.path) = some e := by
  cases e <;> decide +kernel

theorem octets_path (e : Endpoint) :
    (Target.ofChars e.path.toList).octets = Text.Utf8.encode e.path := by
  cases e <;> decide +kernel

end Endpoint

namespace Response

def ok (body : Value) : Response := ⟨200, .json body⟩

def refused (status : Nat) (detail : Value) : Response :=
  ⟨status, .json (.object [("detail", detail)])⟩

/-- The sender is to ask again, under another path. -/
def moved : Response := ⟨307, .text ""⟩

def broken : Response := ⟨500, .text "Internal Server Error"⟩

def ofReport (r : Report) : Response := .ok r.toValue

def ofViolations (vs : List Violation) : Except ServiceFault Response :=
  match Report.build vs with
  | .ok r => .ok (ofReport r)
  | .error n => .error (.report n)

/-- Problems can only be told when there is room for them and all numbers in them can be
written. -/
def ofProblems (room : Nat) (details : List Value) : Except ServiceFault Response :=
  if room < Value.itemLevels details then .error .tooDeep
  else if Value.finiteItems details then .ok (.refused 422 (.list details))
  else .error .notFinite

end Response

/-- Verifies what was posted. -/
def verifyBody (room : Nat) : Body → Except ServiceFault Response
  | .absent => Response.ofProblems room [Problem.detail .null ⟨[], .missing⟩]
  | .torn => .error .torn
  | .unreadable => .ok (.refused 400 (.text "There was an error parsing the body"))
  | .notJson f =>
    .ok (.refused 422 (.list [.object [
      ("type", .text "json_invalid"), ("loc", .list [.text "body", .int f.offset]),
      ("msg", .text "JSON decode error"), ("input", .map []),
      ("ctx", .object [("error", .text f.cause.message)])]]))
  | .value v =>
    match VerifyRequest.ofValue v with
    | .failed problems => Response.ofProblems room (problems.map (Problem.detail v))
    | .ok request => Response.ofViolations (request.interface.verify request.rules)

/-- Why the service does not start. -/
inductive StartError where
  | settings (e : SettingsError)
  | untitled
  deriving DecidableEq, Repr

def StartError.message : StartError → String
  | .settings e => e.message
  | .untitled => "A title must be provided for OpenAPI, e.g.: \x27My API\x27"

structure Service where
  settings : Settings
  deriving DecidableEq, Repr

namespace Service

def version : String := "0.1.0"

/-- The settings of the surroundings have to be valid, to give the service a name, and to name a
level of messages. -/
def start (surroundings : Surroundings) : Except StartError Service :=
  match surroundings.settings [] with
  | .error e => .error (.settings e)
  | .ok settings =>
    if settings.appName.isEmpty then .error .untitled
    else
      match settings.level with
      | .error e => .error (.settings e)
      | .ok _ => .ok ⟨settings⟩

/-- Verifies the contract file that the settings name. -/
def verifyConfigured (s : Service) (sys : System) : Except ServiceFault Response :=
  match Contract.load sys (some s.settings.contractsPath) none with
  | .error (.contract e) => .ok (.refused 422 (.text (sys.tell e)))
  | .error e => .error (.contract e)
  | .ok rules =>
    match verifyFile sys s.settings.interfacePath rules with
    | .ok vs => Response.ofViolations vs
    | .error e => .error (.interface e)

def greeting (s : Service) : Value :=
  .object [
    ("name", .text s.settings.appName), ("version", .text version),
    ("endpoints", .object [
      ("verify", .text "/verify - Verify rules against a posted interface"),
      ("verify-configured", .text "/verify/configured - Verify the configured contract file")])]

def answerAt (s : Service) (sys : System) (r : Request) : Endpoint → Except ServiceFault Response
  | .root => .ok (.ok s.greeting)
  | .health => .ok (.ok (.object [("status", .text "healthy")]))
  | .verify => verifyBody sys.answerRoom (.ofText sys.jsonRoom r.contentType r.body)
  | .configured => s.verifyConfigured sys

def answer (s : Service) (sys : System) (r : Request) : Except ServiceFault Response :=
  let path := r.target.octets
  match Endpoint.ofPath path with
  | some e =>
    if r.method = e.method then s.answerAt sys r e
    else .ok (.refused 405 (.text "Method Not Allowed"))
  | none =>
    if (Endpoint.ofSlashedPath path).isSome then .ok .moved
    else .ok (.refused 404 (.text "Not Found"))

/-- The answer as it is sent: without a body when only its head was asked for. -/
def respond (s : Service) (sys : System) (r : Request) : Response :=
  match s.answer sys r with
  | .error _ => .broken
  | .ok response => if r.method = "HEAD" then { response with content := .text "" } else response

end Service

end ApiConformance
