import ApiConformance.Value.Display

/-!
What can be wrong with a decoded value, and where. A location is the path from
the whole value to the part at fault; it names keys and indices, and the kind
that was chosen wherever a value can be of several kinds.
-/
namespace ApiConformance

inductive Step where
  | key (name : String)
  | index (i : Nat)
  /-- The kind chosen for the value that the path has reached; it does not lead further in. -/
  | kind (tag : String)
  deriving DecidableEq, Repr

abbrev Location := List Step

inductive Fault where
  | missing
  | notText
  | notUnicode
  | notMap
  | notTuple
  | notList
  /-- A value of one shape, named here, is no map. -/
  | notRecord (shape : String)
  /-- A value of several kinds is no map. -/
  | notFields
  | kindMissing
  | kindUnknown (tag : String) (expected : List String)
  | notOneOf (choices : List String)
  | notInteger
  | integerText
  | integerFraction
  | integerFinite
  | integerSize
  | below (bound : Int)
  | notBoolean
  | booleanText
  | tooDeep
  | unexpected
  | frozen
  deriving DecidableEq, Repr

structure Problem where
  location : Location
  fault : Fault
  deriving DecidableEq, Repr

namespace Step

def text : Step → String
  | .key name => name
  | .index i => Text.natural i
  | .kind tag => tag

def value : Step → Value
  | .index i => .int i
  | s => .text s.text

end Step

namespace Fault

/-- Choices between single quotes. -/
def choices (tags : List String) : String :=
  ", ".intercalate (tags.map fun tag => "\x27" ++ tag ++ "\x27")

/-- Choices between single quotes, the last after "or". -/
def alternatives : List String → String
  | [] => ""
  | [tag] => choices [tag]
  | [a, b] => choices [a] ++ " or " ++ choices [b]
  | tag :: tags => choices [tag] ++ ", " ++ alternatives tags

/-- The name under which programs know a fault. -/
def code : Fault → String
  | .missing => "missing"
  | .notText => "string_type"
  | .notUnicode => "string_unicode"
  | .notMap => "dict_type"
  | .notTuple => "tuple_type"
  | .notList => "list_type"
  | .notRecord _ => "model_type"
  | .notFields => "model_attributes_type"
  | .kindMissing => "union_tag_not_found"
  | .kindUnknown .. => "union_tag_invalid"
  | .notOneOf _ => "literal_error"
  | .notInteger => "int_type"
  | .integerText => "int_parsing"
  | .integerFraction => "int_from_float"
  | .integerFinite => "finite_number"
  | .integerSize => "int_parsing_size"
  | .below _ => "greater_than_equal"
  | .notBoolean => "bool_type"
  | .booleanText => "bool_parsing"
  | .tooDeep => "recursion_depth_exceeded"
  | .unexpected => "extra_forbidden"
  | .frozen => "frozen_instance"

def message : Fault → String
  | .missing => "Field required"
  | .notText => "Input should be a valid string"
  | .notUnicode => "Input should be a valid string, unable to parse raw data as a unicode string"
  | .notMap => "Input should be a valid dictionary"
  | .notTuple => "Input should be a valid tuple"
  | .notList => "Input should be a valid list"
  | .notRecord shape => "Input should be a valid dictionary or instance of " ++ shape
  | .notFields => "Input should be a valid dictionary or object to extract fields from"
  | .kindMissing => "Unable to extract tag using discriminator \x27kind\x27"
  | .kindUnknown tag expected =>
    "Input tag \x27" ++ tag ++ "\x27 found using \x27kind\x27 does not match any of the "
      ++ "expected tags: " ++ choices expected
  | .notOneOf tags => "Input should be " ++ alternatives tags
  | .notInteger => "Input should be a valid integer"
  | .integerText => "Input should be a valid integer, unable to parse string as an integer"
  | .integerFraction => "Input should be a valid integer, got a number with a fractional part"
  | .integerFinite => "Input should be a finite number"
  | .integerSize => "Unable to parse input string as an integer, exceeded maximum size"
  | .below bound => "Input should be greater than or equal to " ++ Text.integer bound
  | .notBoolean => "Input should be a valid boolean"
  | .booleanText => "Input should be a valid boolean, unable to interpret input"
  | .tooDeep => "Recursion error - maximum validation depth exceeded"
  | .unexpected => "Extra inputs are not permitted"
  | .frozen => "Instance is frozen"

end Fault

namespace Problem

/-- The location and the message on one line; a problem of the whole value has no location. -/
def summary (p : Problem) : String :=
  let place := ".".intercalate (p.location.map Step.text)
  if place.isEmpty then p.fault.message else place ++ ": " ++ p.fault.message

def summaries (ps : List Problem) : String :=
  "; ".intercalate (ps.map summary)

end Problem

end ApiConformance
