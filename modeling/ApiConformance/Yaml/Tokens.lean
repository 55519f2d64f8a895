import ApiConformance.Text.Lines
import ApiConformance.Yaml.Token

/-!
The tokens of a file. What is wrong with a file comes to light when it is reached,
so the tokens before it can still be looked at: something else may be wrong with
them.
-/
namespace ApiConformance.Yaml

/-- The characters that YAML text may hold. -/
def isAllowed (c : Char) : Bool :=
  let n := c.toNat
  n == 0x09 || n == 0x0a || n == 0x0d || (0x20 ≤ n && n ≤ 0x7e) || n == 0x85
    || (0xa0 ≤ n && n ≤ 0xd7ff) || (0xe000 ≤ n && n ≤ 0xfffd) || 0x10000 ≤ n

/-- The tokens of a text, the last one being `stop`; or else those that come to light before what
is wrong with the text. -/
structure Tokens where
  ready : List Token
  failure : Option Failure

namespace Tokens

def ofScanner (s : Scanner) : Nat → Tokens
  | 0 => ⟨[], some .malformed⟩
  | fuel + 1 =>
    match Scanner.fetch.run.run s with
    | (.ok true, s) => ofScanner s fuel
    | (.ok false, s) => ⟨s.tokens.toList, none⟩
    | (.error f, s) => ⟨s.tokens.toList.take s.final, some f⟩

/-- The tokens of allowed characters. A byte order mark may come first. -/
def ofAllowed (text : List Char) : Tokens :=
  let start := Cursor.ofText text
  let cursor := if start.peek = '\ufeff' then start.next else start
  ofScanner ⟨cursor, 0, -1, [], true, [], #[], 0⟩ (text.length + 2)

/-- Text is taken in portions of this length. -/
def portion : Nat := 4096

/-- The length of the portions before a place, the first two of which are taken together. -/
def portionsBefore (place : Nat) : Nat :=
  if place < 2 * portion then 0 else place / portion * portion

/-- The tokens of a text that goes on with something unreadable. That is what is wrong with the
text, unless a bad value comes to light in the portions before. -/
def ofBroken (text : List Char) : Tokens :=
  let tokens := ofAllowed (text.take (portionsBefore text.length))
  match tokens.failure with
  | some (.badValue _) => tokens
  | _ => ⟨[], some .malformed⟩

/-- Octets are decoded in blocks of this length. -/
def block : Nat := 8192

/-- The text of octets, the last of which may belong to a character that is cut off. -/
def cutText (octets : List UInt8) : List Char :=
  let whole := match Text.Utf8.decode octets with
    | .ok s => s
    | .error m => (Text.Utf8.decode (octets.take m.start)).toOption.getD ""
  Text.unifyNewlines whole.toList

/-- The tokens of a text in UTF-8. -/
def ofOctets (octets : List UInt8) : Tokens :=
  match Text.Utf8.decode octets with
  | .ok s =>
    let text := Text.unifyNewlines s.toList
    if text.all isAllowed then ofAllowed text else ofBroken (text.takeWhile isAllowed)
  | .error m =>
    let decoded := match m.cause with
      | .startByte => m.start / block * block
      | .continuation => (m.start + m.length) / block * block
      | .truncated => octets.length
    ofBroken ((cutText (octets.take decoded)).takeWhile isAllowed)

end Tokens

end ApiConformance.Yaml
