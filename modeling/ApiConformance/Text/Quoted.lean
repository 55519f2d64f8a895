import ApiConformance.Text.Decimal
import ApiConformance.Text.Printable

/-!
Text between quotes, as messages show it: single quotes, unless the text holds a
single quote and no double one; backslash escapes for what cannot be printed.
-/
namespace ApiConformance.Text

/-- The quote that a text is put between. -/
def quoteFor (hasSingle hasDouble : Bool) : Char :=
  if hasSingle && !hasDouble then '\x22' else '\x27'

/-- The escapes that characters and octets share: the quote, the backslash, and three controls. -/
def shortEscape? (quote c : Char) : Option (List Char) :=
  if c = quote ∨ c = '\\' then some ['\\', c]
  else if c = '\t' then some ['\\', 't']
  else if c = '\n' then some ['\\', 'n']
  else if c = '\r' then some ['\\', 'r']
  else none

def escapeChar (quote c : Char) : List Char :=
  match shortEscape? quote c with
  | some escape => escape
  | none =>
    if isPrintable c then [c]
    else if c.toNat < 0x100 then '\\' :: 'x' :: (hexadecimal 2 c.toNat).toList
    else if c.toNat < 0x10000 then '\\' :: 'u' :: (hexadecimal 4 c.toNat).toList
    else '\\' :: 'U' :: (hexadecimal 8 c.toNat).toList

def quoted (s : String) : String :=
  let cs := s.toList
  let quote := quoteFor (cs.contains '\x27') (cs.contains '\x22')
  String.ofList (quote :: cs.flatMap (escapeChar quote) ++ [quote])

/-- Octets show as the ASCII character that they stand for, or as an escape. -/
def escapeOctet (quote : Char) (octet : UInt8) : List Char :=
  let c := Char.ofNat octet.toNat
  match shortEscape? quote c with
  | some escape => escape
  | none =>
    if 0x20 ≤ octet.toNat ∧ octet.toNat < 0x7f then [c]
    else '\\' :: 'x' :: (hexadecimal 2 octet.toNat).toList

def quotedOctets (octets : List UInt8) : String :=
  let quote := quoteFor (octets.contains 0x27) (octets.contains 0x22)
  String.ofList ('b' :: quote :: octets.flatMap (escapeOctet quote) ++ [quote])

end ApiConformance.Text
