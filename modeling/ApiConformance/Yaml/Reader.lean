import ApiConformance.Yaml.Content

/-!
Reading YAML: the value of a file. What is wrong with the text of a file keeps it
from being read; a bad value does so too, if it comes to light first.
-/
namespace ApiConformance.Yaml

/-- The value of a document; where it holds itself, it is seen to a depth. -/
def Document.value (room depth : Nat) (d : Document) : Except Failure Value :=
  (d.graph room).map fun g => g.value depth d.root

/-- The value in the octets of a file, which is null if they hold no document. -/
def read (room depth : Nat) (octets : List UInt8) : Except Failure Value := do
  match ← Document.ofTokens room (.ofOctets octets) with
  | none => return .null
  | some d => d.value room depth

def BadValue.message : BadValue → String
  | .yearRange year => "year " ++ Text.natural year ++ " is out of range"
  | .monthRange => "month must be in 1..12"
  | .dayRange => "day is out of range for month"
  | .hourRange => "hour must be in 0..23"
  | .minuteRange => "minute must be in 0..59"
  | .secondRange => "second must be in 0..59"
  | .offsetRange minutes =>
    "offset must be a timedelta strictly between -timedelta(hours=24) and timedelta(hours=24), not "
      ++ Moment.offsetSpan minutes ++ "."
  | .integerText base s =>
    "invalid literal for int() with base " ++ Text.natural base ++ ": "
      ++ String.ofList ((Text.quoted s).toList.take 200)
  | .integerDigits count =>
    "Exceeds the limit (4300 digits) for integer string conversion: value has "
      ++ Text.natural count ++ " digits; use sys.set_int_max_str_digits() to increase the limit"
  | .realText s => "could not convert string to float: " ++ Text.quoted s
  | .sexagesimalSize => "int too large to convert to float"
  | .emptyNumber => "string index out of range"
  | .booleanWord s => Text.quoted s
  | .notTimestamp => "\x27NoneType\x27 object has no attribute \x27groupdict\x27"
  | .mappingAsTimestamp => "expected string or bytes-like object, got \x27list\x27"
  | .endlessText | .tooDeep => "maximum recursion depth exceeded"
  | .halfPair _ => "surrogates not allowed"
  | .codePoint wide =>
    if wide then "Python int too large to convert to C int"
    else "chr() arg not in range(0x110000)"

end ApiConformance.Yaml
