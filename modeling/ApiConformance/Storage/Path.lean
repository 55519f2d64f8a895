import ApiConformance.Text.Quoted

/-!
Paths in their plain form: without repeated slashes, without `.` components and
without a slash at the end. A `..` stays, since what it means depends on the files.
-/
namespace ApiConformance

structure Path where
  /-- The slashes that an absolute path begins with. -/
  root : String
  components : List String
  deriving DecidableEq, Repr

namespace Path

def splitSlash : List Char → List (List Char)
  | [] => [[]]
  | c :: cs =>
    if c = '/' then [] :: splitSlash cs
    else
      match splitSlash cs with
      | [] => [[c]]
      | part :: parts => (c :: part) :: parts

/-- Two leading slashes are kept apart from one; more count as one. -/
def rootOf (s : List Char) : String :=
  match (s.takeWhile (· = '/')).length with
  | 0 => ""
  | 2 => "//"
  | _ => "/"

def ofString (s : String) : Path where
  root := rootOf s.toList
  components := ((splitSlash s.toList).filter fun part => !part.isEmpty && part != ['.']).map
    String.ofList

def text (p : Path) : String :=
  let joined := p.root ++ "/".intercalate p.components
  if joined.isEmpty then "." else joined

end Path

end ApiConformance
