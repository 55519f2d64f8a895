import ApiConformance.Storage.Path

/-!
Files and a working directory, as a value. Looking up a path follows its components
one by one, from the top or from the working directory, so a path that leads through
a file or a missing directory fails even where a later `..` would leave it again.
-/
namespace ApiConformance

inductive Entry where
  | file (octets : List UInt8)
  /-- A directory, which can always be looked into. -/
  | directory
  /-- A file that cannot be opened, with the number and the text of the reason. -/
  | barred (number : Nat) (text : String)
  deriving DecidableEq, Repr

/-- Files and directories by their components from the top, and the working directory. -/
structure Files where
  entries : List (List String × Entry)
  working : List String
  deriving DecidableEq, Repr

inductive FileError where
  | notFound
  | notDirectory
  | isDirectory
  | nameTooLong
  | barred (number : Nat) (text : String)
  deriving DecidableEq, Repr

def FileError.number : FileError → Nat
  | .notFound => 2
  | .notDirectory => 20
  | .isDirectory => 21
  | .nameTooLong => 36
  | .barred number _ => number

def FileError.text : FileError → String
  | .notFound => "No such file or directory"
  | .notDirectory => "Not a directory"
  | .isDirectory => "Is a directory"
  | .nameTooLong => "File name too long"
  | .barred _ text => text

def FileError.message (e : FileError) (path : Path) : String :=
  "[Errno " ++ Text.natural e.number ++ "] " ++ e.text ++ ": " ++ Text.quoted path.text

/-- The octets of a file. -/
def Entry.read : Entry → Except FileError (List UInt8)
  | .file octets => .ok octets
  | .directory => .error .isDirectory
  | .barred number text => .error (.barred number text)

namespace Files

def empty : Files := ⟨[], ["tmp", "work"]⟩

/-- The working directory is always there, and so are those around it. -/
def get? (fs : Files) (components : List String) : Option Entry :=
  if components.isPrefixOf fs.working then some .directory else fs.entries.lookup components

/-- The components of a path from the top. -/
def locate (fs : Files) (path : Path) : List String :=
  if path.root.isEmpty then fs.working ++ path.components else path.components

/-- Every directory on the way to some components, the nearest to the top first. -/
def parents (components : List String) : List (List String) :=
  (List.range (components.length - 1)).map fun n => components.take (n + 1)

def put (fs : Files) (components : List String) (e : Entry) : Files :=
  { fs with entries := (components, e) :: fs.entries.filter (·.1 != components) }

/-- Adds an entry and the directories that lead to it. -/
def write (fs : Files) (path : Path) (e : Entry) : Files :=
  let components := fs.locate path
  let missing := (parents components).filter fun c => (fs.get? c).isNone
  (missing.foldl (fun fs c => fs.put c .directory) fs).put components e

def delete (fs : Files) (path : Path) : Files :=
  { fs with entries := fs.entries.filter fun (c, _) => !(fs.locate path).isPrefixOf c }

def maxNameLength : Nat := 255
def maxPathLength : Nat := 4095

/-- Follows components from a directory, whose own components are reversed. The top is above
itself. -/
def follow (fs : Files) (here : List String) : List String → Except FileError Entry
  | [] => .ok .directory
  | c :: rest =>
    if c = ".." then fs.follow here.tail rest
    else if maxNameLength < c.utf8ByteSize then .error .nameTooLong
    else
      match fs.get? (c :: here).reverse with
      | none => .error .notFound
      | some .directory => fs.follow (c :: here) rest
      | some file => if rest.isEmpty then .ok file else .error .notDirectory

def resolve (fs : Files) (path : Path) : Except FileError Entry :=
  if maxPathLength < path.text.utf8ByteSize then .error .nameTooLong
  else fs.follow (if path.root.isEmpty then fs.working.reverse else []) path.components

/-- The octets of the file of a path. -/
def read (fs : Files) (path : Path) : Except FileError (List UInt8) :=
  (fs.resolve path).bind Entry.read

end Files

end ApiConformance
