import ApiConformance.Yaml.Cursor

/-!
The text of scalars: plain ones, which end where something else begins; quoted
ones, with their escapes; and blocks, whose indentation is not part of them. In
plain and quoted text a line end is a space, and each empty line a line feed.
-/
namespace ApiConformance.Yaml.Scan

/-! ### Plain scalars -/

def isFlowIndicator (c : Char) : Bool :=
  c = ',' || c = '[' || c = ']' || c = '\x7b' || c = '\x7d'

/-- Whether a plain scalar ends before a character, given the one after it. -/
def endsPlain (inFlow : Bool) (c next : Char) : Bool :=
  isBlankOrEnd c
    || (c = ':' && (isBlankOrEnd next || (inFlow && isFlowIndicator next)))
    || (inFlow && (c = '?' || isFlowIndicator c))

def plainRun (inFlow : Bool) : List Char → List Char
  | [] => []
  | c :: rest =>
    if endsPlain inFlow c (rest.headD '\x00') then [] else c :: plainRun inFlow rest

/-- The empty lines and indentation after a line end; `none` at the end of a document. -/
def plainBreaks (breaks : List Char) : Nat → Scan (Option (List Char))
  | 0 => return some breaks
  | fuel + 1 => do
    if (← peek) = ' ' then
      forward 1
      plainBreaks breaks fuel
    else
      match ← lineBreak? with
      | none => return some breaks
      | some b =>
        if (← get).atSeparator then return none
        plainBreaks (breaks ++ [b]) fuel

/-- What a line end and the empty lines after it stand for. -/
def folded (first : Char) (breaks : List Char) : List Char :=
  if first != '\n' then first :: breaks
  else if breaks.isEmpty then [' ']
  else breaks

/-- The blanks between two runs of a plain scalar, and whether a line has ended; there are none
where the scalar cannot go on. -/
def plainSpaces : Scan (List Char × Bool) := do
  let blanks ← takeWhile (· = ' ')
  match ← lineBreak? with
  | none => return (blanks, false)
  | some first =>
    if (← get).atSeparator then return ([], true)
    match ← plainBreaks [] (← fuel) with
    | none => return ([], true)
    | some breaks => return (folded first breaks, true)

/-- The text of a plain scalar, of which `done` is given in reverse, and whether a line has ended
after it. -/
def plainFrom (inFlow : Bool) (indent : Int) (done blanks : List Char) (lineEnded : Bool) :
    Nat → Scan (List Char × Bool)
  | 0 => return (done.reverse, lineEnded)
  | fuel + 1 => do
    let run := plainRun inFlow (← get).rest
    if (← peek) = '#' ∨ run.isEmpty then return (done.reverse, lineEnded)
    forward run.length
    let done := run.reverse ++ (blanks.reverse ++ done)
    let (blanks, lineEnded) ← plainSpaces
    if blanks.isEmpty || (← peek) = '#' || (!inFlow && decide ((← column) < indent)) then
      return (done.reverse, lineEnded)
    plainFrom inFlow indent done blanks lineEnded fuel

def plain (inFlow : Bool) (indent : Int) : Scan (List Char × Bool) := do
  plainFrom inFlow indent [] [] false (← fuel)

/-! ### Quoted scalars -/

def escapedChar? (c : Char) : Option Char :=
  [('0', '\x00'), ('a', '\x07'), ('b', '\x08'), ('t', '\t'), ('\t', '\t'), ('n', '\n'),
    ('v', '\x0b'), ('f', '\x0c'), ('r', '\r'), ('e', '\x1b'), (' ', ' '), ('\x22', '\x22'),
    ('\\', '\\'), ('/', '/'), ('N', '\u0085'), ('_', '\u00a0'), ('L', '\u2028'),
    ('P', '\u2029')].lookup c

def escapeLength? (c : Char) : Option Nat :=
  [('x', 2), ('u', 4), ('U', 8)].lookup c

/-- Blanks and line ends inside a quoted scalar, up to the next line's text. -/
def quotedBreaks (breaks : List Char) : Nat → Scan (List Char)
  | 0 => return breaks
  | fuel + 1 => do
    if (← get).atSeparator then fail
    let _ ← takeWhile fun c => c = ' ' || c = '\t'
    match ← lineBreak? with
    | none => return breaks
    | some b => quotedBreaks (breaks ++ [b]) fuel

def quotedSpaces : Scan (List Char) := do
  let blanks ← takeWhile fun c => c = ' ' || c = '\t'
  if (← peek) = '\x00' then fail
  match ← lineBreak? with
  | none => return blanks
  | some first => return folded first (← quotedBreaks [] (← fuel))

/-- The character of an escape, after its backslash; an escaped line end leaves only the empty
lines after it. -/
def escape : Scan (List Char) := do
  let c ← peek
  match escapedChar? c, escapeLength? c with
  | some c, _ =>
    forward 1
    return [c]
  | none, some count =>
    forward 1
    let code ← hexDigits count
    if 0x110000 ≤ code then throw (.badValue (.codePoint (0x80000000 ≤ code)))
    if Text.isSurrogate code then throw (.badValue (.halfPair code))
    return [Char.ofNat code]
  | none, none =>
    match ← lineBreak? with
    | some _ => quotedBreaks [] (← fuel)
    | none => fail

def isQuotedStop (c : Char) : Bool :=
  c = '\x27' || c = '\x22' || c = '\\' || isBlankOrEnd c

/-- The text up to the closing quote, of which `done` is given in reverse. -/
def quotedFrom (double : Bool) (done : List Char) : Nat → Scan (List Char)
  | 0 => fail
  | fuel + 1 => do
    let run ← takeWhile (!isQuotedStop ·)
    let done := run.reverse ++ done
    let c ← peek
    let quote := if double then '\x22' else '\x27'
    if c = quote then
      if !double && (← peekAt 1) = '\x27' then
        forward 2
        quotedFrom double ('\x27' :: done) fuel
      else
        forward 1
        return done.reverse
    else if c = '\\' ∧ double then
      forward 1
      quotedFrom double ((← escape).reverse ++ done) fuel
    else if c = '\x27' ∨ c = '\x22' ∨ c = '\\' then
      forward 1
      quotedFrom double (c :: done) fuel
    else
      quotedFrom double ((← quotedSpaces).reverse ++ done) fuel

/-- A quoted scalar, the cursor being at its opening quote. -/
def quoted (double : Bool) : Scan (List Char) := do
  forward 1
  quotedFrom double [] (← fuel)

/-! ### Block scalars -/

/-- What becomes of the line ends at the end of a block. -/
inductive Chomping where
  | strip
  | clip
  | keep
  deriving DecidableEq

def chomping? : Scan (Option Chomping) := do
  match ← peek with
  | '+' =>
    forward 1
    return some .keep
  | '-' =>
    forward 1
    return some .strip
  | _ => return none

def increment? : Scan (Option Nat) := do
  let c ← peek
  if Text.isDigit c then
    if c = '0' then fail
    forward 1
    return Text.digitValue c
  else return none

/-- The indicators of a block, in either order. -/
def blockHeader : Scan (Chomping × Option Nat) := do
  let header ← match ← chomping? with
    | some chomping => pure (chomping, ← increment?)
    | none =>
      match ← increment? with
      | none => pure (.clip, none)
      | some n => pure ((← chomping?).getD .clip, some n)
  if isSpaceOrEnd (← peek) then return header else fail

/-- The empty lines before the text of a block, and the widest indentation among them and it. -/
def blockIndentation (breaks : List Char) (widest : Nat) : Nat → Scan (List Char × Nat)
  | 0 => return (breaks, widest)
  | fuel + 1 => do
    if (← peek) = ' ' then
      forward 1
      blockIndentation breaks (max widest (← column)) fuel
    else
      match ← lineBreak? with
      | some b => blockIndentation (breaks ++ [b]) widest fuel
      | none => return (breaks, widest)

/-- Takes spaces up to a column. -/
def indentTo (indent : Nat) : Scan Unit := do
  let room := indent - (← column)
  let run := ((← get).rest.takeWhile (· = ' ')).take room
  forward run.length

/-- The empty lines of a block before the next line with text. -/
def blockBreaks (indent : Nat) (breaks : List Char) : Nat → Scan (List Char)
  | 0 => return breaks
  | fuel + 1 => do
    indentTo indent
    match ← lineBreak? with
    | some b => blockBreaks indent (breaks ++ [b]) fuel
    | none => return breaks

def isIndented (c : Char) : Bool := c = ' ' || c = '\t'

/-- The lines of a block: its text without the line ends that close it, its last line end, and the
empty lines after that. The text so far, `done`, is given in reverse. -/
def blockLines (folding : Bool) (indent : Nat) (done breaks : List Char) :
    Nat → Scan (List Char × List Char × List Char)
  | 0 => return (done.reverse, [], breaks)
  | fuel + 1 => do
    if (← column) ≠ indent ∨ (← peek) = '\x00' then return (done.reverse, [], breaks)
    let flush := !isIndented (← peek)
    let line ← takeWhile (!isBreakOrEnd ·)
    let done := line.reverse ++ (breaks.reverse ++ done)
    let ending := (← lineBreak?).toList
    let breaks ← blockBreaks indent [] (← Scan.fuel)
    if (← column) ≠ indent ∨ (← peek) = '\x00' then return (done.reverse, ending, breaks)
    let joint :=
      if folding && ending == ['\n'] && flush && !isIndented (← peek) then
        if breaks.isEmpty then [' '] else []
      else ending
    blockLines folding indent (joint.reverse ++ done) breaks fuel

/-- A block scalar, the cursor being at its indicator. -/
def block (folding : Bool) (parentIndent : Int) : Scan (List Char) := do
  forward 1
  let (chomping, increment) ← blockHeader
  ignoredLine
  let least := (parentIndent + 1).toNat.max 1
  let (indent, breaks) ← match increment with
    | none => do
      let (breaks, widest) ← blockIndentation [] 0 (← fuel)
      pure (max least widest, breaks)
    | some n => do
      let indent := least + n - 1
      pure (indent, ← blockBreaks indent [] (← fuel))
  let (text, ending, breaks) ← blockLines folding indent [] breaks (← fuel)
  return text ++ (if chomping = .strip then [] else ending)
    ++ (if chomping = .keep then breaks else [])

end ApiConformance.Yaml.Scan
