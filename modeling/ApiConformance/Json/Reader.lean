import ApiConformance.Json.Token
import ApiConformance.Text.Lines

/-!
Reading JSON: a machine over the tokens of a text, with a stack of the lists and
maps that are still open. Every token is taken in one step, so the first token
that does not fit is the one complained about. There is room for a number of lists
and maps inside one another, and for no more.
-/
namespace ApiConformance.Json

/-- A list or map that is still open, with what it holds so far; a list's items are reversed. -/
inductive Frame where
  | list (items : List Value)
  | map (entries : List (Atom × Value)) (name : String)

/-- What may come next. -/
inductive Goal where
  | value
  | itemOrEnd
  | nameOrEnd
  | name (entries : List (Atom × Value))
  | colon (entries : List (Atom × Value)) (name : String)
  /-- A value is complete. -/
  | rest (v : Value)

/-- What a token leads to: the end of the text, or a new state of the machine. -/
inductive Outcome where
  | finished (v : Value)
  | next (goal : Goal) (stack : List Frame)

/-- Opens a list or map, if there is room for one more. -/
def openBracket (room : Nat) (stack : List Frame) (b : Bracket) (offset : Nat) (o : Outcome) :
    Except Failure Outcome :=
  if stack.length < room then .ok o else .error ⟨.stop (.tooDeep b), offset⟩

/-- Takes a token where a value begins. -/
def beginValue (room : Nat) (stack : List Frame) (p : Placed) : Except Failure Outcome :=
  match p.token with
  | .value v => .ok (.next (.rest v) stack)
  | .text s _ => .ok (.next (.rest (.text s)) stack)
  | .openList => openBracket room stack .list p.offset (.next .itemOrEnd (.list [] :: stack))
  | .openMap => openBracket room stack .map p.offset (.next .nameOrEnd stack)
  | .bad f => .error f
  | _ => .error ⟨.expectedValue, p.offset⟩

/-- Takes a token where a name of a map has to stand. A number is out of place there, however long
it is. -/
def beginName (entries : List (Atom × Value)) (stack : List Frame) (p : Placed) :
    Except Failure Outcome :=
  match p.token with
  | .text s _ => .ok (.next (.colon entries s) stack)
  | .bad f =>
    match f.cause with
    | .stop _ => .error ⟨.expectedName, p.offset⟩
    | _ => .error f
  | _ => .error ⟨.expectedName, p.offset⟩

/-- Takes a token after a complete value. -/
def continueAfter (v : Value) (stack : List Frame) (p : Placed) : Except Failure Outcome :=
  match stack, p.token with
  | [], .stop => .ok (.finished v)
  | [], _ => .error ⟨.extraData, p.offset⟩
  | .list items :: stack, .comma => .ok (.next .value (.list (v :: items) :: stack))
  | .list items :: stack, .closeList => .ok (.next (.rest (.list (v :: items).reverse)) stack)
  | .map entries name :: stack, .comma =>
    .ok (.next (.name (Value.put entries (.text name) v)) stack)
  | .map entries name :: stack, .closeMap =>
    .ok (.next (.rest (.map (Value.put entries (.text name) v))) stack)
  | _ :: _, _ => .error ⟨.expectedComma, p.offset⟩

def step (room : Nat) (goal : Goal) (stack : List Frame) (p : Placed) :
    Except Failure Outcome :=
  match goal, p.token with
  | .value, _ => beginValue room stack p
  | .itemOrEnd, .closeList => .ok (.next (.rest (.list [])) stack.tail)
  | .itemOrEnd, _ => beginValue room stack p
  | .nameOrEnd, .closeMap => .ok (.next (.rest (.map [])) stack)
  | .nameOrEnd, _ => beginName [] stack p
  | .name entries, _ => beginName entries stack p
  | .colon entries name, .colon => .ok (.next .value (.map entries name :: stack))
  | .colon _ _, _ => .error ⟨.expectedColon, p.offset⟩
  | .rest v, _ => continueAfter v stack p

/-- Every list of tokens ends in one that finishes or fails. -/
def run (room : Nat) (goal : Goal) (stack : List Frame) : List Placed → Except Failure Value
  | [] => .error ⟨.expectedValue, 0⟩
  | p :: rest =>
    match step room goal stack p with
    | .error f => .error f
    | .ok (.finished v) => .ok v
    | .ok (.next goal stack) => run room goal stack rest

/-- The room that there is as a rule. It depends on what the program is doing already. -/
def usualRoom : Nat := 900

def Placed.isTorn (p : Placed) : Bool :=
  match p.token with
  | .text _ torn => torn
  | _ => false

/-- The value that a text holds. It is not had when a text in it is torn. -/
def readValue (text : List Char) (room : Nat := usualRoom) : Except Failure Value :=
  let ps := tokens 0 0 text
  match run room .value [] ps, ps.find? Placed.isTorn with
  | .ok _, some p => .error ⟨.stop .halfPair, p.offset⟩
  | result, _ => result

/-- The value that a text holds. A byte order mark is not part of JSON. -/
def read (text : List Char) (room : Nat := usualRoom) : Except Failure Value :=
  match text with
  | '\ufeff' :: _ => .error ⟨.byteOrderMark, 0⟩
  | _ => readValue text room

def Bracket.noun : Bracket → String
  | .list => "array"
  | .map => "object"

def Stop.message : Stop → String
  | .integerDigits count =>
    "Exceeds the limit (" ++ Text.natural maxIntegerDigits
      ++ " digits) for integer string conversion: value has " ++ Text.natural count
      ++ " digits; use sys.set_int_max_str_digits() to increase the limit"
  | .tooDeep b =>
    "maximum recursion depth exceeded while decoding a JSON " ++ b.noun ++ " from a unicode string"
  | .halfPair => "surrogates not allowed"

def Cause.message : Cause → String
  | .byteOrderMark => "Unexpected UTF-8 BOM (decode using utf-8-sig)"
  | .expectedValue => "Expecting value"
  | .expectedName => "Expecting property name enclosed in double quotes"
  | .expectedColon => "Expecting \x27:\x27 delimiter"
  | .expectedComma => "Expecting \x27,\x27 delimiter"
  | .extraData => "Extra data"
  | .unterminatedText => "Unterminated string starting at"
  | .controlCharacter => "Invalid control character at"
  | .escape => "Invalid \\escape"
  | .unicodeEscape => "Invalid \\uXXXX escape"
  | .stop s => s.message

/-- The complaint with its place in the text. -/
def Failure.message (f : Failure) (text : List Char) : String :=
  let p := Text.Position.ofOffset text f.offset
  f.cause.message ++ ": line " ++ Text.natural p.line ++ " column " ++ Text.natural p.column
    ++ " (char " ++ Text.natural p.offset ++ ")"

end ApiConformance.Json
