import ApiConformance.Interface.Decode
import ApiConformance.Json.Reader
import ApiConformance.Rule.Decode
import ApiConformance.Text.Case

/-!
Bodies of requests: what the text of a body holds, by the media type that it is
said to have, and what has to be in it.
-/
namespace ApiConformance

open Validation

/-- An interface and the rules to check it against. -/
structure VerifyRequest where
  interface : Interface
  rules : List Rule
  deriving DecidableEq, Repr

def VerifyRequest.ofValue : Value → Checked VerifyRequest :=
  record "VerifyRequest" fun r => .mk
    <$> requiredField ["interface"] Interface.ofValue r
    <*> optionalField ["rules"] [] (list Rule.ofValue) r

inductive Body where
  | absent
  | value (v : Value)
  | notJson (f : Json.Failure)
  /-- JSON that cannot be read, however well it is written. -/
  | unreadable
  /-- JSON with half of a surrogate pair in a text. -/
  | torn

namespace Body

/-- JSON goes by its own media type, by those built upon it, and by none at all; parameters do not
matter. -/
def isJsonType (contentType : String) : Bool :=
  let plain := Text.trimBlank (contentType.toList.takeWhile (· != ';'))
  let lowered := (Text.lower (String.ofList plain)).toList
  match lowered.span (· != '/') with
  | (main, _ :: sub) =>
    main == "application".toList && !sub.contains '/'
      && (sub == "json".toList || "+json".toList.isSuffixOf sub)
  | _ => contentType.isEmpty

/-- JSON in UTF-8 may begin with a byte order mark. -/
def ofJson (room : Nat) (text : List Char) : Body :=
  match Json.readValue (Text.Utf8.withoutMark text) room with
  | .ok v => .value v
  | .error ⟨.stop .halfPair, _⟩ => .torn
  | .error ⟨.stop _, _⟩ => .unreadable
  | .error f => .notJson f

def ofText (room : Nat) (contentType text : String) : Body :=
  if text.isEmpty then .absent
  else if isJsonType contentType then ofJson room text.toList
  else .value (.text text)

end Body

end ApiConformance
