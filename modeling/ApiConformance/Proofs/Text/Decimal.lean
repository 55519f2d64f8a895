import Mathlib.Algebra.Order.Ring.Nat
import ApiConformance.Text.Decimal

/-! Integers are read back from their decimals, which have no characters but digits and a minus; and
what so many digits say is less than the power of ten with that many zeros. -/
namespace ApiConformance

theorem toDigits_inj {m n : Nat} (h : Nat.toDigits 10 m = Nat.toDigits 10 n) : m = n := by
  have hvalue := congrArg (fun digits => Nat.ofDigitChars 10 digits 0) h
  simpa only [Nat.ofDigitChars_ten_toDigits] using hvalue

namespace Text

theorem natural_inj {m n : Nat} (h : natural m = natural n) : m = n := by
  have hchars := congrArg String.toList h
  rw [natural, natural, Nat.toList_repr, Nat.toList_repr] at hchars
  exact toDigits_inj hchars

theorem isDigit_of_mem_natural {n : Nat} {c : Char} (hc : c ∈ (natural n).toList) : c.isDigit := by
  rw [natural, Nat.toList_repr] at hc
  exact Nat.isDigit_of_mem_toDigits (by decide) (by decide) hc

theorem mem_integer {n : Int} {c : Char} (hc : c ∈ (integer n).toList) :
    c.isDigit || c == '-' := by
  cases n with
  | ofNat n => rw [isDigit_of_mem_natural hc, Bool.true_or]
  | negSucc n =>
    rw [integer, String.toList_append, List.mem_append] at hc
    rcases hc with hc | hc
    · rw [List.mem_singleton.mp hc]
      decide
    · rw [isDigit_of_mem_natural hc, Bool.true_or]

theorem integer_inj {m n : Int} (h : integer m = integer n) : m = n := by
  -- No natural number starts with a minus sign.
  have hsign (m n : Nat) : natural m ≠ "-" ++ natural n := by
    intro h
    have hmem : '-' ∈ (natural m).toList := by
      rw [h, String.toList_append]
      exact List.mem_append_left _ (List.mem_singleton.mpr rfl)
    exact absurd (isDigit_of_mem_natural hmem) (by decide)
  cases m with
  | ofNat m =>
    cases n with
    | ofNat n => rw [natural_inj h]
    | negSucc n => exact absurd h (hsign m (n + 1))
  | negSucc m =>
    cases n with
    | ofNat n => exact absurd h.symm (hsign n (m + 1))
    | negSucc n => rw [Nat.succ.inj (natural_inj (String.append_right_inj "-" |>.mp h))]

/-- A digit is worth less than ten. -/
theorem digit_lt_ten {c : Char} (h : isDigit c = true) : c.toNat - '0'.toNat < 10 := by
  have hle : c.toNat ≤ '9'.toNat := (of_decide_eq_true h).2
  have hnine : '9'.toNat = '0'.toNat + 9 := rfl
  omega

theorem foldl_digits_lt {digits : List Char} (h : ∀ c ∈ digits, isDigit c = true) {n k : Nat}
    (hn : n < 10 ^ k) :
    digits.foldl (fun n c => n * 10 + (c.toNat - '0'.toNat)) n < 10 ^ (k + digits.length) := by
  induction digits generalizing n k with
  | nil => exact hn
  | cons c digits ih =>
    obtain ⟨hc, hdigits⟩ := List.forall_mem_cons.mp h
    have hdigit := digit_lt_ten hc
    have hstep : n * 10 + (c.toNat - '0'.toNat) < 10 ^ (k + 1) := by
      rw [Nat.pow_succ]
      omega
    have hlength : k + (c :: digits).length = k + 1 + digits.length := by
      rw [List.length_cons]
      omega
    rw [List.foldl_cons, hlength]
    exact ih hdigits hstep

theorem readDecimal_lt {digits : List Char} (h : ∀ c ∈ digits, isDigit c = true) :
    readDecimal digits < 10 ^ digits.length := by
  have hlt := foldl_digits_lt h (n := 0) (k := 0) Nat.one_pos
  rwa [Nat.zero_add] at hlt

theorem isWritable_iff {n : Int} : isWritable n = true ↔ n.natAbs < 10 ^ maxDigits := by
  rw [isWritable, decide_eq_true_iff, Nat.pow_eq]

theorem isWritable_neg (n : Int) : isWritable (-n) = isWritable n := by
  rw [isWritable, isWritable, Int.natAbs_neg]

/-- What can be read can be written. -/
theorem isWritable_readDecimal {digits : List Char} (h : ∀ c ∈ digits, isDigit c = true)
    (hlength : digits.length ≤ maxDigits) : isWritable (readDecimal digits : Int) = true := by
  rw [isWritable_iff, Int.natAbs_natCast]
  exact Nat.lt_of_lt_of_le (readDecimal_lt h) (Nat.pow_le_pow_right (by decide) hlength)

end Text

end ApiConformance
