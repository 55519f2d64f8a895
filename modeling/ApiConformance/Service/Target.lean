import ApiConformance.Storage.Path
import ApiConformance.Text.Utf8

/-!
Targets of requests, and the paths that they lead to. A target may name another
host; what it says beside the path does not matter. `.` and `..` are followed, and
escaped octets are read.
-/
namespace ApiConformance

/-- What comes before the path of a target, and the path. -/
structure Target where
  /-- The name before the first colon, which may be empty. -/
  scheme : List Char
  /-- What stands between two slashes and the next one. -/
  authority : List Char
  path : List Char
  deriving DecidableEq, Repr

inductive TargetFault where
  | tooLong
  | control (c : Char) (position : Nat)
  | doubledSlash
  | leadingColon
  deriving DecidableEq, Repr

def TargetFault.message : TargetFault → String
  | .tooLong => "URL too long"
  | .control c position =>
    "Invalid non-printable ASCII character in URL, " ++ Text.quoted (String.singleton c)
      ++ " at position " ++ Text.natural position ++ "."
  | .doubledSlash => "Relative URLs cannot have a path starting with \x27//\x27"
  | .leadingColon => "Relative URLs cannot have a path starting with \x27:\x27"

namespace Target

def maxLength : Nat := 65536

def isSchemeChar (c : Char) : Bool := c.isAlphanum || c = '+' || c = '.' || c = '-'

/-- The name of a scheme, which begins with a letter, and the text after its colon. -/
def splitScheme (cs : List Char) : List Char × List Char :=
  match cs.span isSchemeChar with
  | ([], ':' :: rest) => ([], rest)
  | (c :: name, ':' :: rest) => if c.isAlpha then (c :: name, rest) else ([], cs)
  | _ => ([], cs)

def splitAuthority : List Char → List Char × List Char
  | '/' :: '/' :: rest => rest.span (· != '/')
  | cs => ([], cs)

/-- The parts of a target; a query and a fragment are left out. -/
def ofChars (cs : List Char) : Target :=
  let (scheme, rest) := splitScheme (cs.takeWhile fun c => c != '?' && c != '#')
  let (authority, path) := splitAuthority rest
  ⟨scheme, authority, path⟩

def isControl (c : Char) : Bool := c.toNat < 0x20 || c.toNat == 0x7f

/-- Refuses what nobody could send. -/
def ofString (s : String) : Except TargetFault Target :=
  let cs := s.toList
  if maxLength < cs.length then .error .tooLong
  else
    match cs.find? isControl with
    | some c => .error (.control c (cs.takeWhile (!isControl ·)).length)
    | none =>
      let t := ofChars cs
      if !(t.scheme.isEmpty && t.authority.isEmpty) then .ok t
      else if ['/', '/'].isPrefixOf t.path then .error .doubledSlash
      else if [':'].isPrefixOf t.path then .error .leadingColon
      else .ok t

/-- The host of a target, without the user before it and the port after it. -/
def host (t : Target) : List Char :=
  (t.authority.reverse.takeWhile (· != '@')).reverse.takeWhile (· != ':')

/-- Whether a target leads to a host of its own. -/
def isAbsolute (t : Target) : Bool := !t.scheme.isEmpty && !t.host.isEmpty

/-- Follows `.` and `..`; the parts so far are reversed, and the first one is not left. -/
def follow (done : List (List Char)) : List (List Char) → List (List Char)
  | [] => done.reverse
  | part :: rest =>
    if part = ['.'] then follow done rest
    else if part = ['.', '.'] then
      match done with
      | [] => follow [] rest
      | [[]] => follow [[]] rest
      | _ :: above => follow above rest
    else follow (part :: done) rest

/-- Octets in which two hexadecimal digits after a percent sign stand for one octet. -/
def unescape : List UInt8 → List UInt8
  | [] => []
  | 0x25 :: a :: b :: rest =>
    match Text.readBase 16 [Char.ofNat a.toNat, Char.ofNat b.toNat] with
    | some n => UInt8.ofNat n :: unescape rest
    | none => 0x25 :: unescape (a :: b :: rest)
  | octet :: rest => octet :: unescape rest

/-- The path that a target leads to, as octets. It begins with a slash, and with one alone where
no other host is named. Escapes are read twice, so that an escaped percent sign begins another. -/
def octets (t : Target) : List UInt8 :=
  let rooted := if t.isAbsolute then t.path else '/' :: t.path.dropWhile (· = '/')
  let followed := ['/'].intercalate (follow [] (Path.splitSlash rooted))
  let plain := if followed.isEmpty then ['/'] else followed
  unescape (unescape (plain.flatMap Text.Utf8.encodeChar))

end Target

end ApiConformance
