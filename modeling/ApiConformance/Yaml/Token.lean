import ApiConformance.Text.Utf8
import ApiConformance.Yaml.Scalar

/-!
Tokens of YAML text. Indentation becomes tokens that open and close blocks. That
something was the key of a mapping shows only at the colon after it, so every
place where a key could start is remembered, and the colon puts the tokens of a
key there.
-/
namespace ApiConformance.Yaml

inductive Directive where
  | version (major : Nat)
  | tag (handle expansion : String)
  | other
  deriving Repr

inductive Token where
  | directive (d : Directive)
  | documentStart
  | documentEnd
  | blockSequence
  | blockMapping
  | blockEnd
  | openSequence
  | closeSequence
  | openMapping
  | closeMapping
  | item
  | comma
  | key
  | value
  | reference (name : String)
  | anchor (name : String)
  | tag (handle : Option String) (suffix : String)
  | scalar (text : String) (plain : Bool)
  | stop
  deriving Repr

/-- A place where a key may have started: the number of its first token. A required key starts a
line of a block mapping, where nothing but a key may stand. -/
structure KeyStart where
  token : Nat
  required : Bool
  index : Nat
  line : Nat
  column : Nat

structure Scanner where
  cursor : Cursor
  /-- How many flow collections are open. -/
  flow : Nat
  /-- The column of the innermost open block, and of those around it. -/
  indent : Int
  indents : List Int
  keyAllowed : Bool
  /-- At most one place for each level of flow collections, the innermost first. -/
  keys : List (Nat × KeyStart)
  tokens : Array Token
  /-- How many tokens were final before the last step. -/
  final : Nat

namespace Scanner

/-- A step that fails leaves its state behind. -/
abbrev Step := ExceptT Failure (StateM Scanner)

def fail {α : Type} : Step α := throw .malformed

/-- Moves the cursor. -/
def scan {α : Type} (s : Scan α) : Step α := do
  match s.run (← get).cursor with
  | .ok (a, cursor) =>
    modify ({ · with cursor })
    return a
  | .error f => throw f

def emit (t : Token) : Step Unit :=
  modify fun s => { s with tokens := s.tokens.push t }

def emitAt (place : Nat) (t : Token) : Step Unit :=
  modify fun s => { s with tokens := s.tokens.insertIdxIfInBounds place t }

def allowKey (allowed : Bool) : Step Unit :=
  modify ({ · with keyAllowed := allowed })

/-- How far from its first character the colon after a key may be. -/
def maxKeyLength : Nat := 1024

/-- Forgets places that are too far back, or on an earlier line. -/
def dropStaleKeys : Step Unit := do
  let s ← get
  let stale (k : KeyStart) : Bool :=
    k.line != s.cursor.line || decide (maxKeyLength < s.cursor.index - k.index)
  if s.keys.any fun (_, k) => stale k && k.required then fail
  set { s with keys := s.keys.filter fun (_, k) => !stale k }

/-- Gives up the place on the present level. -/
def dropKey : Step Unit := do
  let s ← get
  if s.keys.any fun (level, k) => level == s.flow && k.required then fail
  set { s with keys := s.keys.filter fun (level, _) => level != s.flow }

/-- Remembers that the next token may start a key. -/
def saveKey : Step Unit := do
  if (← get).keyAllowed then
    dropKey
    modify fun s =>
      let c := s.cursor
      let required := s.flow == 0 && s.indent == (c.column : Int)
      { s with keys := (s.flow, ⟨s.tokens.size, required, c.index, c.line, c.column⟩) :: s.keys }

/-- The blocks that end before a column. -/
def closing (column indent : Int) : List Int → Nat × Int × List Int
  | [] => (0, indent, [])
  | outer :: rest =>
    if column < indent then
      let (n, indent, rest) := closing column outer rest
      (n + 1, indent, rest)
    else (0, indent, outer :: rest)

/-- Closes the blocks that a column is outside of; flow collections take no notice of columns. -/
def unwind (column : Int) : Step Unit := do
  if (← get).flow = 0 then
    modify fun s =>
      let (count, indent, indents) := closing column s.indent s.indents
      { s with indent, indents, tokens := s.tokens ++ Array.replicate count .blockEnd }

/-- Opens a block at a column, if that is further in than the open ones. -/
def addIndent (column : Nat) : Step Bool := do
  let s ← get
  if s.indent < column then
    set { s with indent := column, indents := s.indent :: s.indents }
    return true
  else return false

/-- Takes blanks, line ends and comments. -/
def skipToToken : Nat → Step Unit
  | 0 => return ()
  | fuel + 1 => do
    scan Scan.skipSpaces
    if (← get).cursor.peek = '#' then scan Scan.skipLine
    match ← scan Scan.lineBreak? with
    | none => return ()
    | some _ =>
      if (← get).flow = 0 then allowKey true
      skipToToken fuel

/-! ### Directives, tags and anchors -/

/-- The longest run of digits that is read as a number in base ten. -/
def maxDigits : Nat := 4300

def digits : Scan Nat := do
  let run ← Scan.takeWhile Text.isDigit
  if run.isEmpty then Scan.fail
  if maxDigits < run.length then throw (.badValue (.integerDigits run.length))
  return Text.readDecimal run

def isUriChar (c : Char) : Bool :=
  c.isAlphanum || "-;/?:@&=+$,_.!~*\x27()[]%".toList.contains c

/-- The octets that percent signs stand for, as characters. -/
def uriEscapes (octets : List UInt8) : Nat → Scan (List Char)
  | 0 => Scan.fail
  | fuel + 1 => do
    if (← Scan.peek) = '%' then
      Scan.forward 1
      let n ← Scan.hexDigits 2
      uriEscapes (octets ++ [UInt8.ofNat n]) fuel
    else
      match Text.Utf8.decode octets with
      | .ok s => return s.toList
      | .error _ => Scan.fail

def uriFrom (done : List Char) : Nat → Scan (List Char)
  | 0 => Scan.fail
  | fuel + 1 => do
    let c ← Scan.peek
    if c = '%' then uriFrom (done ++ (← uriEscapes [] (← Scan.fuel))) fuel
    else if isUriChar c then
      Scan.forward 1
      uriFrom (done ++ [c]) fuel
    else return done

def uri : Scan String := do
  let c ← Scan.peek
  if isUriChar c then return String.ofList (← uriFrom [] (← Scan.fuel)) else Scan.fail

/-- An exclamation mark, or a name between two. -/
def tagHandle : Scan String := do
  if (← Scan.peek) ≠ '!' then Scan.fail
  Scan.forward 1
  if (← Scan.peek) = ' ' then return "!"
  let name ← Scan.takeWhile isNameChar
  if (← Scan.peek) ≠ '!' then Scan.fail
  Scan.forward 1
  return "!" ++ String.ofList name ++ "!"

def directiveValue (name : String) : Scan Directive := do
  if name = "YAML" then
    Scan.skipSpaces
    let major ← digits
    if (← Scan.peek) ≠ '.' then Scan.fail
    Scan.forward 1
    let _ ← digits
    if isSpaceOrEnd (← Scan.peek) then return .version major else Scan.fail
  else if name = "TAG" then
    Scan.skipSpaces
    let handle ← tagHandle
    if (← Scan.peek) ≠ ' ' then Scan.fail
    Scan.skipSpaces
    let expansion ← uri
    if isSpaceOrEnd (← Scan.peek) then return .tag handle expansion else Scan.fail
  else
    Scan.skipLine
    return .other

def directive : Scan Directive := do
  Scan.forward 1
  let name ← Scan.takeWhile isNameChar
  if name.isEmpty || !isSpaceOrEnd (← Scan.peek) then Scan.fail
  let d ← directiveValue (String.ofList name)
  Scan.ignoredLine
  return d

/-- The name after the mark of an anchor or an alias. -/
def anchorName : Scan String := do
  Scan.forward 1
  let name ← Scan.takeWhile isNameChar
  let c ← Scan.peek
  if name.isEmpty || !(isBlankOrEnd c || "?:,]\x7d%@\x60".toList.contains c) then Scan.fail
  return String.ofList name

/-- Handle and suffix of a tag; a tag in angle brackets has no handle. -/
def tag : Scan (Option String × String) := do
  let c ← Scan.peekAt 1
  let result ←
    if c = '<' then do
      Scan.forward 2
      let suffix ← uri
      if (← Scan.peek) ≠ '>' then Scan.fail
      Scan.forward 1
      pure (none, suffix)
    else if isBlankOrEnd c then do
      Scan.forward 1
      pure (none, "!")
    else do
      let word := ((← get).rest.drop 1).takeWhile (!isSpaceOrEnd ·)
      if word.contains '!' then
        let handle ← tagHandle
        pure (some handle, ← uri)
      else
        Scan.forward 1
        pure (some "!", ← uri)
  if isSpaceOrEnd (← Scan.peek) then return result else Scan.fail

/-! ### One token after another -/

def fetchDocumentMark (t : Token) : Step Unit := do
  unwind (-1)
  dropKey
  allowKey false
  scan (Scan.forward 3)
  emit t

def fetchDirective : Step Unit := do
  unwind (-1)
  dropKey
  allowKey false
  emit (.directive (← scan directive))

def fetchOpen (t : Token) : Step Unit := do
  saveKey
  modify fun s => { s with flow := s.flow + 1 }
  allowKey true
  scan (Scan.forward 1)
  emit t

def fetchClose (t : Token) : Step Unit := do
  if (← get).flow = 0 then fail
  dropKey
  modify fun s => { s with flow := s.flow - 1 }
  allowKey false
  scan (Scan.forward 1)
  emit t

def fetchComma : Step Unit := do
  allowKey true
  dropKey
  scan (Scan.forward 1)
  emit .comma

/-- Takes an indicator that starts a block where a key is allowed, unless inside a flow
collection. -/
def startBlock (t : Token) : Step Unit := do
  let s ← get
  if s.flow = 0 then
    if !s.keyAllowed then fail
    if ← addIndent s.cursor.column then emit t

def fetchItem : Step Unit := do
  startBlock .blockSequence
  allowKey true
  dropKey
  scan (Scan.forward 1)
  emit .item

def fetchKey : Step Unit := do
  startBlock .blockMapping
  allowKey ((← get).flow == 0)
  dropKey
  scan (Scan.forward 1)
  emit .key

/-- A colon makes a key of what started at the remembered place, or follows a key of its own. -/
def fetchValue : Step Unit := do
  let s ← get
  match s.keys.lookup s.flow with
  | some k =>
    set { s with keys := s.keys.filter fun (level, _) => level != s.flow }
    emitAt k.token .key
    if s.flow = 0 then
      if ← addIndent k.column then emitAt k.token .blockMapping
    allowKey false
  | none =>
    startBlock .blockMapping
    allowKey ((← get).flow == 0)
    dropKey
  scan (Scan.forward 1)
  emit .value

/-- Takes a token that may be a key, after which no key can start. -/
def fetchKeyable (token : Scan Token) : Step Unit := do
  saveKey
  allowKey false
  emit (← scan token)

def fetchBlock (folding : Bool) : Step Unit := do
  allowKey true
  dropKey
  let text ← scan (Scan.block folding (← get).indent)
  emit (.scalar (String.ofList text) false)

def fetchPlain : Step Unit := do
  saveKey
  allowKey false
  let s ← get
  let (text, lineEnded) ← scan (Scan.plain (s.flow != 0) (s.indent + 1))
  allowKey lineEnded
  emit (.scalar (String.ofList text) true)

def fetchQuoted (double : Bool) : Step Unit :=
  fetchKeyable do return .scalar (String.ofList (← Scan.quoted double)) false

def startsPlain (inFlow : Bool) (c next : Char) : Bool :=
  !(isBlankOrEnd c || "-?:,[]\x7b\x7d#&*!|>\x27\x22%@\x60".toList.contains c)
    || (!isBlankOrEnd next && (c = '-' || (!inFlow && (c = '?' || c = ':'))))

/-- How many tokens are final: those before the first that may still turn out to start a key. -/
def finalCount (s : Scanner) : Nat :=
  let stale (k : KeyStart) : Bool :=
    k.line != s.cursor.line || decide (maxKeyLength < s.cursor.index - k.index)
  (s.keys.filter fun (_, k) => !stale k).foldl (fun n (_, k) => min n k.token) s.tokens.size

/-- Takes the next token; whether there can be more. -/
def fetch : Step Bool := do
  modify fun s => { s with final := s.finalCount }
  skipToToken ((← get).cursor.size + 1)
  dropStaleKeys
  let s ← get
  unwind s.cursor.column
  let c := s.cursor.peek
  let next := s.cursor.peekAt 1
  let inFlow := s.flow != 0
  if c = '\x00' then
    unwind (-1)
    dropKey
    emit .stop
    return false
  if c = '%' ∧ s.cursor.column = 0 then fetchDirective
  else if s.cursor.column = 0 ∧ s.cursor.atSeparator then
    fetchDocumentMark (if c = '-' then .documentStart else .documentEnd)
  else if c = '[' then fetchOpen .openSequence
  else if c = '\x7b' then fetchOpen .openMapping
  else if c = ']' then fetchClose .closeSequence
  else if c = '\x7d' then fetchClose .closeMapping
  else if c = ',' then fetchComma
  else if c = '-' ∧ isBlankOrEnd next then fetchItem
  else if c = '?' ∧ (inFlow ∨ isBlankOrEnd next) then fetchKey
  else if c = ':' ∧ (inFlow ∨ isBlankOrEnd next) then fetchValue
  else if c = '*' then fetchKeyable do return .reference (← anchorName)
  else if c = '&' then fetchKeyable do return .anchor (← anchorName)
  else if c = '!' then fetchKeyable do
    let (handle, suffix) ← tag
    return .tag handle suffix
  else if c = '|' ∧ !inFlow then fetchBlock false
  else if c = '>' ∧ !inFlow then fetchBlock true
  else if c = '\x27' then fetchQuoted false
  else if c = '\x22' then fetchQuoted true
  else if startsPlain inFlow c next then fetchPlain
  else fail
  return true

end Scanner

end ApiConformance.Yaml
