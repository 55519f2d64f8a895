import ApiConformance.Value.Display

/-! Writing JSON in ASCII: characters beyond it are written as escapes, in pairs of
surrogates where one escape does not reach. -/
namespace ApiConformance.Json

def escapeUnit (n : Nat) : List Char := '\\' :: 'u' :: (Text.hexadecimal 4 n).toList

def escapeText (c : Char) : List Char :=
  if c = '\x22' then ['\\', '\x22']
  else if c = '\\' then ['\\', '\\']
  else if ' ' ≤ c ∧ c ≤ '~' then [c]
  else if c.toNat < 0x10000 then escapeUnit c.toNat
  else
    let n := c.toNat - 0x10000
    escapeUnit (0xd800 + n / 0x400) ++ escapeUnit (0xdc00 + n % 0x400)

def printText (s : String) : String :=
  String.ofList ('\x22' :: s.toList.flatMap escapeText ++ ['\x22'])

/-- Numbers that are no JSON numbers keep the words that the reader takes for them. -/
def printReal : Binary64 → String
  | .nan => "NaN"
  | .infinite negative => if negative then "-Infinity" else "Infinity"
  | x => x.text

/-- Octets and moments, which JSON lacks, are written as text. -/
def printAtom : Atom → String
  | .null => "null"
  | .bool b => if b then "true" else "false"
  | .int n => Text.integer n
  | .real x => printReal x
  | .text s => printText s
  | a => printText a.plain

def printKey : Atom → String
  | .text s => printText s
  | a => printText (printAtom a)

mutual

def print : Value → String
  | .atom a => printAtom a
  | .list items => "[" ++ ",".intercalate (printItems items) ++ "]"
  | .pair a b => "[" ++ print a ++ "," ++ print b ++ "]"
  | .set items => "[" ++ ",".intercalate (items.map printAtom) ++ "]"
  | .map entries => "\x7b" ++ ",".intercalate (printEntries entries) ++ "\x7d"
  | .knot _ seen => print seen

def printItems : List Value → List String
  | [] => []
  | v :: vs => print v :: printItems vs

def printEntries : List (Atom × Value) → List String
  | [] => []
  | (k, v) :: rest => (printKey k ++ ":" ++ print v) :: printEntries rest

end

end ApiConformance.Json
