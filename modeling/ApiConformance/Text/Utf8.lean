import ApiConformance.Text.Decimal

/-!
Text as octets in UTF-8. The decoder is a machine that takes one octet at a time
and refuses at the first octet that no encoded text continues with; what it then
reports is the longest run of octets that could still have begun a character.
-/
namespace ApiConformance.Text.Utf8

/-- Six bits go into every octet but the first. -/
def encodeChar (c : Char) : List UInt8 :=
  let n := c.toNat
  let tail (unit : Nat) : UInt8 := UInt8.ofNat (0x80 + n / unit % 0x40)
  if n < 0x80 then [UInt8.ofNat n]
  else if n < 0x800 then [UInt8.ofNat (0xc0 + n / 0x40), tail 1]
  else if n < 0x10000 then [UInt8.ofNat (0xe0 + n / 0x1000), tail 0x40, tail 1]
  else [UInt8.ofNat (0xf0 + n / 0x40000), tail 0x1000, tail 0x40, tail 1]

def encode (s : String) : List UInt8 :=
  s.toList.flatMap encodeChar

inductive Cause where
  | startByte
  | continuation
  | truncated
  deriving DecidableEq, Repr

/-- The first run of octets that is no part of a text: where it starts, its first octet, and how
many octets it has. -/
structure Malformed where
  start : Nat
  first : UInt8
  length : Nat
  cause : Cause
  deriving DecidableEq, Repr

def Cause.message : Cause → String
  | .startByte => "invalid start byte"
  | .continuation => "invalid continuation byte"
  | .truncated => "unexpected end of data"

def Malformed.message (m : Malformed) : String :=
  let place :=
    if m.length ≤ 1 then
      "byte 0x" ++ hexadecimal 2 m.first.toNat ++ " in position " ++ natural m.start
    else
      "bytes in position " ++ natural m.start ++ "-" ++ natural (m.start + m.length - 1)
  "\x27utf-8\x27 codec can\x27t decode " ++ place ++ ": " ++ m.cause.message

/-- Inside a character: how many octets are still to come, the bounds of the next one, the bits
read so far, and the octets read so far. -/
structure Pending where
  first : UInt8
  owed : Nat
  low : Nat
  high : Nat
  bits : Nat
  read : Nat
  deriving Repr

/-- What the first octet of a character leaves to be read; nothing when it starts none. -/
def Pending.ofFirst (octet : UInt8) : Option Pending :=
  let n := octet.toNat
  if 0xc2 ≤ n ∧ n ≤ 0xdf then some ⟨octet, 1, 0x80, 0xbf, n - 0xc0, 1⟩
  else if n = 0xe0 then some ⟨octet, 2, 0xa0, 0xbf, 0, 1⟩
  else if n = 0xed then some ⟨octet, 2, 0x80, 0x9f, n - 0xe0, 1⟩
  else if 0xe1 ≤ n ∧ n ≤ 0xef then some ⟨octet, 2, 0x80, 0xbf, n - 0xe0, 1⟩
  else if n = 0xf0 then some ⟨octet, 3, 0x90, 0xbf, 0, 1⟩
  else if 0xf1 ≤ n ∧ n ≤ 0xf3 then some ⟨octet, 3, 0x80, 0xbf, n - 0xf0, 1⟩
  else if n = 0xf4 then some ⟨octet, 3, 0x80, 0x8f, 4, 1⟩
  else none

/-- The machine, with the characters read so far in reverse. -/
def decodeFrom (pending : Option Pending) (position : Nat) (done : List Char) :
    List UInt8 → Except Malformed (List Char)
  | [] =>
    match pending with
    | none => .ok done.reverse
    | some p => .error ⟨position - p.read, p.first, p.read, .truncated⟩
  | octet :: rest =>
    match pending with
    | none =>
      if octet.toNat < 0x80 then
        decodeFrom none (position + 1) (Char.ofNat octet.toNat :: done) rest
      else
        match Pending.ofFirst octet with
        | some p => decodeFrom (some p) (position + 1) done rest
        | none => .error ⟨position, octet, 1, .startByte⟩
    | some p =>
      if p.low ≤ octet.toNat ∧ octet.toNat ≤ p.high then
        let bits := p.bits * 64 + (octet.toNat - 0x80)
        if p.owed = 1 then decodeFrom none (position + 1) (Char.ofNat bits :: done) rest
        else
          decodeFrom (some ⟨p.first, p.owed - 1, 0x80, 0xbf, bits, p.read + 1⟩) (position + 1)
            done rest
      else .error ⟨position - p.read, p.first, p.read, .continuation⟩

def decode (octets : List UInt8) : Except Malformed String :=
  (decodeFrom none 0 [] octets).map String.ofList

/-- The text without a byte order mark in front of it; of several one is dropped. -/
def withoutMark : List Char → List Char
  | '\ufeff' :: rest => rest
  | cs => cs

end ApiConformance.Text.Utf8
