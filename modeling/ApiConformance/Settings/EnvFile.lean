import ApiConformance.Text.Blank
import ApiConformance.Text.Utf8

/-!
Files of variables, one `NAME=value` after another. A value may stand between
quotes, and then go over several lines; a value without quotes ends with its line
or with a comment. What is no binding is passed over to the end of its line.
-/
namespace ApiConformance.EnvFile

/-- A name, and its value if an equals sign follows the name. -/
structure Binding where
  name : String
  value : Option String
  deriving DecidableEq, Repr

/-- White space, the information separators included. -/
def isSpace (c : Char) : Bool := Text.isBlank c || (0x1c ≤ c.toNat && c.toNat ≤ 0x1f)

def isInlineSpace (c : Char) : Bool := isSpace c && c != '\n'

/-- Replaces a backslash and a character that it escapes by what they stand for. -/
def unescape (escapes : List (Char × Char)) : List Char → List Char
  | [] => []
  | [c] => [c]
  | c :: d :: rest =>
    if c = '\\' then
      match escapes.lookup d with
      | some e => e :: unescape escapes rest
      | none => c :: unescape escapes (d :: rest)
    else c :: unescape escapes (d :: rest)

/-- Between single quotes. -/
def singleEscapes : List (Char × Char) := [('\\', '\\'), ('\x27', '\x27')]

/-- Between double quotes. -/
def doubleEscapes : List (Char × Char) := [
  ('\\', '\\'), ('\x27', '\x27'), ('\x22', '\x22'), ('a', '\x07'), ('b', '\x08'), ('f', '\x0c'),
  ('n', '\n'), ('r', '\r'), ('t', '\t'), ('v', '\x0b')]

/-- The text before the closing quote, and the text after it. A backslash and the character after it
belong together, so that a quote in such a pair closes nothing. -/
def beforeQuote (quote : Char) : List Char → Option (List Char × List Char)
  | [] => none
  | '\\' :: c :: rest =>
    (beforeQuote quote rest).map fun (text, after) => ('\\' :: c :: text, after)
  | c :: rest =>
    if c = quote then some ([], rest)
    else (beforeQuote quote rest).map fun (text, after) => (c :: text, after)

/-- The part of a line before a comment, which white space comes before. -/
def beforeComment : List Char → List Char
  | [] => []
  | c :: rest =>
    if isSpace c && (rest.dropWhile isSpace).head? = some '#' then []
    else c :: beforeComment rest

def dropTrailingSpace (cs : List Char) : List Char := (cs.reverse.dropWhile isSpace).reverse

/-- The value after an equals sign and space, and the text after it; the text at which reading
fails when a quote is missing. -/
def readValue (cs : List Char) : Except (List Char) (String × List Char) :=
  let within (quote : Char) (escapes : List (Char × Char)) (rest : List Char) :=
    match beforeQuote quote rest with
    | some (text, after) => .ok (String.ofList (unescape escapes text), after)
    | none => .error cs
  match cs with
  | '\x27' :: rest => within '\x27' singleEscapes rest
  | '\x22' :: rest => within '\x22' doubleEscapes rest
  | _ =>
    let (line, after) := cs.span (· != '\n')
    .ok (String.ofList (dropTrailingSpace (beforeComment line)), after)

/-- A name, which may stand between single quotes. -/
def readName (cs : List Char) : Except (List Char) (String × List Char) :=
  match cs with
  | '\x27' :: rest =>
    match rest.span (· != '\x27') with
    | ([], _) => .error cs
    | (_, []) => .error cs
    | (name, _ :: after) => .ok (String.ofList name, after)
  | _ =>
    match cs.span fun c => !(isSpace c || c = '=' || c = '#') with
    | ([], _) => .error cs
    | (name, after) => .ok (String.ofList name, after)

/-- The text without the word `export` and the space that has to follow it. -/
def skipExport (cs : List Char) : List Char :=
  match cs.splitAt 6 with
  | (['e', 'x', 'p', 'o', 'r', 't'], c :: rest) =>
    if isInlineSpace c then rest.dropWhile isInlineSpace else cs
  | _ => cs

/-- The text after a comment, if there is one, and the end of the line. -/
def readLineEnd (cs : List Char) : Except (List Char) (List Char) :=
  match cs.dropWhile isInlineSpace with
  | [] => .ok []
  | '\n' :: after => .ok after
  | '#' :: comment => .ok ((comment.dropWhile (· != '\n')).drop 1)
  | _ => .error cs

/-- A binding or a comment, where one begins, and the text after its line. Where a comment follows
the equals sign and some space, the value is empty. -/
def readBinding (cs : List Char) : Except (List Char) (Option Binding × List Char) := do
  let cs := skipExport cs
  if cs.head? = some '#' then
    return (none, ← readLineEnd cs)
  let (name, cs) ← readName cs
  match cs.dropWhile isInlineSpace with
  | '=' :: after =>
    match after.span isInlineSpace with
    | (_ :: _, '#' :: comment) => return (some ⟨name, some ""⟩, ← readLineEnd ('#' :: comment))
    | (_, cs) =>
      let (value, cs) ← readValue cs
      return (some ⟨name, some value⟩, ← readLineEnd cs)
  | cs => return (some ⟨name, none⟩, ← readLineEnd cs)

/-- The bindings of a text, in order. Each of them takes some of the text. -/
def bindings (cs : List Char) : List Binding :=
  let start := cs.dropWhile isSpace
  if start.isEmpty then []
  else
    let (found, rest) :=
      match readBinding start with
      | .ok (found, rest) => (found, rest)
      | .error failed => (none, (failed.dropWhile (· != '\n')).drop 1)
    if rest.length < cs.length then found.toList ++ bindings rest else found.toList
termination_by cs.length

/-- A name between a dollar sign with an opening brace and a closing brace, with the value that a
colon and a hyphen before it give it where it has none; and the text after them. -/
def readReference (cs : List Char) : Option (String × String × List Char) :=
  let (name, rest) := cs.span fun c => !(c = '\x7d' || c = ':')
  match rest with
  | '\x7d' :: after => some (String.ofList name, "", after)
  | ':' :: '-' :: rest =>
    match rest.span (· != '\x7d') with
    | (fallback, _ :: after) => some (String.ofList name, String.ofList fallback, after)
    | (_, []) => none
  | _ => none

/-- Puts in the values of the names that a value refers to. -/
def expand (value : String → Option (Option String)) (cs : List Char) : List Char :=
  match cs with
  | [] => []
  | '$' :: '\x7b' :: rest =>
    match readReference rest with
    | some (name, fallback, after) =>
      let meant := ((value name).getD (some fallback)).getD ""
      if after.length ≤ rest.length then meant.toList ++ expand value after else meant.toList
    | none => '$' :: expand value ('\x7b' :: rest)
  | c :: rest => c :: expand value rest
termination_by cs.length

/-- Takes one more binding into account. A name keeps its first place and takes its last value; a
value may refer to the names before it, and to the variables of the surroundings. -/
def resolveBinding (environment : List (String × String))
    (known : List (String × Option String)) (b : Binding) : List (String × Option String) :=
  let value (name : String) : Option (Option String) :=
    (known.lookup name).or ((environment.lookup name).map some)
  let resolved := b.value.map fun v => String.ofList (expand value v.toList)
  if (known.lookup b.name).isSome then
    known.map fun (name, v) => if name = b.name then (name, resolved) else (name, v)
  else known ++ [(b.name, resolved)]

/-- The variables of a text and their values; a name without an equals sign has none. A byte order
mark in front is no part of the first name. -/
def values (environment : List (String × String)) (cs : List Char) :
    List (String × Option String) :=
  (bindings (Text.Utf8.withoutMark cs)).foldl (resolveBinding environment) []

end ApiConformance.EnvFile
