/-! Code points as characters. Those that are set aside for halves of surrogate pairs are no
characters, though texts can name them. -/
namespace ApiConformance.Text

def isHighSurrogate (code : Nat) : Bool := 0xd800 ≤ code && code ≤ 0xdbff
def isLowSurrogate (code : Nat) : Bool := 0xdc00 ≤ code && code ≤ 0xdfff

def isSurrogate (code : Nat) : Bool := isHighSurrogate code || isLowSurrogate code

/-- No character is half of a pair. -/
theorem isSurrogate_toNat (c : Char) : isSurrogate c.toNat = false := by
  have hvalid : c.toNat < 0xd800 ∨ 0xdfff < c.toNat ∧ c.toNat < 0x110000 := c.valid
  rw [Bool.eq_false_iff]
  simp only [isSurrogate, isHighSurrogate, isLowSurrogate, ne_eq, Bool.or_eq_true,
    Bool.and_eq_true, decide_eq_true_eq]
  omega

/-- The code point that a pair stands for. -/
def joinSurrogates (high low : Nat) : Nat := 0x10000 + (high - 0xd800) * 0x400 + (low - 0xdc00)

/-- The text of code points, with the replacement character for halves of pairs. -/
def ofCodes (codes : List Nat) : String :=
  String.ofList (codes.map fun code => if isSurrogate code then '\ufffd' else Char.ofNat code)

end ApiConformance.Text
