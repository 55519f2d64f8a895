import ApiConformance.Text.Decimal
import ApiConformance.Text.Quoted
import ApiConformance.Text.Surrogate

/-!
Moving through YAML text: a cursor that knows its line and column, and the small
steps that every kind of token is made of. The end of the text reads as a null
character, which no YAML text contains.
-/
namespace ApiConformance.Yaml

/-- What keeps well-written data from being had: it stands for no value, or is nested too deep for
the room that there is. -/
inductive BadValue where
  | yearRange (year : Nat)
  | monthRange
  | dayRange
  | hourRange
  | minuteRange
  | secondRange
  /-- An offset of a day or more, in minutes. -/
  | offsetRange (minutes : Int)
  | integerText (base : Nat) (s : String)
  | integerDigits (count : Nat)
  | realText (s : String)
  | emptyNumber
  | booleanWord (s : String)
  | notTimestamp
  /-- A mapping, even one that lends a text, is no date or time. -/
  | mappingAsTimestamp
  /-- A mapping that lends a text which it borrows from another, and so on, beyond what there is
  room for; it may borrow its own. -/
  | endlessText
  /-- More nodes inside one another, or more mappings to take in one after another, than there is
  room for. -/
  | tooDeep
  /-- Half of a surrogate pair: no text of characters holds it. -/
  | halfPair (code : Nat)
  /-- A number of so many parts in base sixty that the first of them counts for too much. -/
  | sexagesimalSize
  /-- The number of no character; `wide` if it has 32 bits. -/
  | codePoint ( wide : Bool)
  deriving DecidableEq, Repr

inductive Failure where
  | malformed
  | badValue (b : BadValue)
  deriving DecidableEq, Repr

structure Cursor where
  rest : List Char
  line : Nat
  column : Nat
  index : Nat
  /-- The length of the whole text. -/
  size : Nat

abbrev Scan := StateT Cursor (Except Failure)

def isBreak (c : Char) : Bool :=
  c = '\r' || c = '\n' || c = '\u0085' || c = '\u2028' || c = '\u2029'

def isBreakOrEnd (c : Char) : Bool := c = '\x00' || isBreak c

def isSpaceOrEnd (c : Char) : Bool := c = ' ' || isBreakOrEnd c

def isBlankOrEnd (c : Char) : Bool := c = '\t' || isSpaceOrEnd c

/-- Characters of names: of anchors, directives and tag handles. -/
def isNameChar (c : Char) : Bool := c.isAlphanum || c = '-' || c = '_'

namespace Cursor

def ofText (text : List Char) : Cursor := ⟨text, 0, 0, 0, text.length⟩

def peekAt (c : Cursor) (n : Nat) : Char := (c.rest.drop n).headD '\x00'

def peek (c : Cursor) : Char := c.peekAt 0

/-- A byte order mark takes no column. -/
def next (c : Cursor) : Cursor :=
  match c.rest with
  | [] => c
  | ch :: rest =>
    let ends := ch != '\r' && isBreak ch || ch = '\r' && rest.headD '\x00' != '\n'
    if ends then ⟨rest, c.line + 1, 0, c.index + 1, c.size⟩
    else ⟨rest, c.line, if ch = '\ufeff' then c.column else c.column + 1, c.index + 1, c.size⟩

def forward : Nat → Cursor → Cursor
  | 0, c => c
  | n + 1, c => forward n c.next

/-- A line of three dashes or dots, which ends a document whatever is open. -/
def atSeparator (c : Cursor) : Bool :=
  let mark := c.rest.take 3
  (mark == ['-', '-', '-'] || mark == ['.', '.', '.']) && isBlankOrEnd (c.peekAt 3)

end Cursor

namespace Scan

def fail {α : Type} : Scan α := throw .malformed

def peek : Scan Char := return (← get).peek

def peekAt (n : Nat) : Scan Char := return (← get).peekAt n

def column : Scan Nat := return (← get).column

def forward (n : Nat) : Scan Unit := modify (Cursor.forward n)

/-- A bound for loops in which every step takes a character. -/
def fuel : Scan Nat := return (← get).size + 1

def takeWhile (p : Char → Bool) : Scan (List Char) := do
  let run := (← get).rest.takeWhile p
  forward run.length
  return run

def skipSpaces : Scan Unit := do
  let _ ← takeWhile (· = ' ')

def skipLine : Scan Unit := do
  let _ ← takeWhile (!isBreakOrEnd ·)

/-- Takes the end of a line, if the cursor is at one; the usual ends all read as line feeds. -/
def lineBreak? : Scan (Option Char) := do
  let c ← get
  if c.peek = '\r' ∧ c.peekAt 1 = '\n' then
    forward 2
    return some '\n'
  else if c.peek = '\r' ∨ c.peek = '\n' ∨ c.peek = '\u0085' then
    forward 1
    return some '\n'
  else if isBreak c.peek then
    forward 1
    return some c.peek
  else return none

/-- Takes the rest of a line that may hold spaces and a comment only. -/
def ignoredLine : Scan Unit := do
  skipSpaces
  if (← peek) = '#' then skipLine
  if isBreakOrEnd (← peek) then
    let _ ← lineBreak?
  else fail

/-- Two, four or eight hexadecimal digits. -/
def hexDigits (count : Nat) : Scan Nat := do
  let run := (← get).rest.take count
  if run.length < count then fail
  match Text.readBase 16 run with
  | none => fail
  | some n =>
    forward count
    return n

end Scan

end ApiConformance.Yaml
