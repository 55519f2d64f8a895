import ApiConformance.Table
import ApiConformance.Text.Decimal
import ApiConformance.Value.Basic
import ApiConformance.Violation.Decode

/-!
Reports on violations. Each violation is a paragraph of its own, and an empty line
stands between two paragraphs; without violations a report is one line that says so.
There is no report with an integer in it of more digits than are ever written.
-/
namespace ApiConformance

/-- Labels between brackets. -/
def bracketed (labels : List String) : String := "[" ++ ", ".intercalate labels ++ "]"

/-- A name as paragraphs quote it. -/
def ticked (name : String) : String := "\x60" ++ name ++ "\x60"

/-- The paragraph on a violation, whatever the length of the integer in it. -/
def Violation.paragraph : Violation → String
  | .missingFunction source target name =>
    "FAIL: Function " ++ ticked name ++ " from " ++ ticked source ++ " is missing in "
      ++ ticked target
  | .parameterMismatch module function expected actual =>
    "FAIL: Parameter mismatch in " ++ ticked (module ++ "." ++ function)
      ++ "\n  expected: " ++ bracketed expected
      ++ "\n  actual:   " ++ bracketed actual
  | .missingType module name => "FAIL: Type " ++ ticked name ++ " is missing in " ++ ticked module
  | .typeMismatch moduleA moduleB name reason =>
    "FAIL: Type " ++ ticked name ++ " differs between " ++ ticked moduleA ++ " and "
      ++ ticked moduleB ++ "\n  reason: " ++ reason
  | .missingExport module name arity =>
    "FAIL: Required export " ++ ticked (name ++ "/" ++ Text.integer arity) ++ " is missing in "
      ++ ticked module
  | .moduleNotFound module =>
    "FAIL: Module " ++ ticked module ++ " not found in package interface"
  | .loadFailure path reason detail =>
    "FAIL: Could not " ++ reason.text ++ " package interface " ++ ticked path ++ "\n  " ++ detail

def paragraphs (vs : List Violation) : String := "\n\n".intercalate (vs.map Violation.paragraph)

def reportText (vs : List Violation) : String :=
  if vs.isEmpty then "PASS: all surface contracts hold" else paragraphs vs

/-- An integer of more digits than are ever written. -/
structure OverlongInteger where
  value : Int
  deriving DecidableEq, Repr

def OverlongInteger.message (_ : OverlongInteger) : String :=
  "Exceeds the limit (4300 digits) for integer string conversion; use sys.set_int_max_str_digits() "
    ++ "to increase the limit"

/-- The integer that keeps a violation from being put in words. -/
def Violation.overlong? : Violation → Option OverlongInteger
  | .missingExport _ _ arity => if Text.isWritable arity then none else some ⟨arity⟩
  | _ => none

def Violation.write (v : Violation) : Except OverlongInteger String :=
  match v.overlong? with
  | some n => .error n
  | none => .ok v.paragraph

def writeParagraphs (vs : List Violation) : Except OverlongInteger String :=
  (vs.mapM Violation.write).map "\n\n".intercalate

def writeReport (vs : List Violation) : Except OverlongInteger String :=
  if vs.isEmpty then .ok "PASS: all surface contracts hold" else writeParagraphs vs

/-- How many violations there are of each kind, under the names of the kinds as they are met. -/
def Violation.tally (vs : List Violation) : Table Nat :=
  vs.foldl (fun counts v => counts.countOne v.kind.text) .empty

/-- A summary of violations: how many there are of each kind that occurs, in ascending order of the
names of the kinds, and their text. -/
structure Report where
  ok : Bool
  count : Nat
  violations : List Violation
  counts : List (String × Nat)
  text : String
  deriving DecidableEq, Repr

def Report.withText (vs : List Violation) (text : String) : Report where
  ok := vs.isEmpty
  count := vs.length
  violations := vs
  counts := (Violation.tally vs).sorted
  text := text

/-- The report on violations, whatever the length of the integers in them. -/
def Report.ofViolations (vs : List Violation) : Report := .withText vs (reportText vs)

def Report.build (vs : List Violation) : Except OverlongInteger Report :=
  (writeReport vs).map (.withText vs)

def Report.toValue (r : Report) : Value :=
  .object [
    ("ok", .bool r.ok), ("violation_count", .int r.count),
    ("violations", .list (r.violations.map Violation.toValue)),
    ("counts", .object (r.counts.map fun (kind, n) => (kind, .int n))),
    ("text", .text r.text)]

end ApiConformance
