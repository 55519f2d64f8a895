import Mathlib.Data.String.Basic
import ApiConformance.Text.Utf8

/-!
Decoding accepts exactly what encoding writes. Inside a character the machine stands at a
`Pending`; what may follow there is a completion, octet by octet, and a character is written
as a first octet with one of its completions.
-/
namespace ApiConformance.Text.Utf8

def Pending.next (p : Pending) (octet : UInt8) : Pending :=
  ⟨p.first, p.owed - 1, 0x80, 0xbf, p.bits * 64 + (octet.toNat - 0x80), p.read + 1⟩

/-- The octets that end a character, and that character. -/
inductive Pending.Completes : Pending → List UInt8 → Char → Prop where
  | last {p : Pending} {octet : UInt8} (owed : p.owed = 1) (low : p.low ≤ octet.toNat)
      (high : octet.toNat ≤ p.high) : Completes p [octet] (Char.ofNat (p.next octet).bits)
  | more {p : Pending} {octet : UInt8} {tail : List UInt8} {c : Char} (owed : p.owed ≠ 1)
      (low : p.low ≤ octet.toNat) (high : octet.toNat ≤ p.high)
      (rest : Completes (p.next octet) tail c) : Completes p (octet :: tail) c

/-! ### Running the machine through a character -/

theorem decodeFrom_ascii {octet : UInt8} (h : octet.toNat < 0x80) (position : Nat)
    (done : List Char) (rest : List UInt8) :
    decodeFrom none position done (octet :: rest) =
      decodeFrom none (position + 1) (Char.ofNat octet.toNat :: done) rest := by
  rw [decodeFrom, if_pos h]

theorem decodeFrom_first {octet : UInt8} {p : Pending} (h : ¬ octet.toNat < 0x80)
    (hp : Pending.ofFirst octet = some p) (position : Nat) (done : List Char)
    (rest : List UInt8) :
    decodeFrom none position done (octet :: rest) =
      decodeFrom (some p) (position + 1) done rest := by
  rw [decodeFrom, if_neg h, hp]

theorem decodeFrom_pending {p : Pending} {octet : UInt8} (low : p.low ≤ octet.toNat)
    (high : octet.toNat ≤ p.high) (position : Nat) (done : List Char) (rest : List UInt8) :
    decodeFrom (some p) position done (octet :: rest) =
      if p.owed = 1 then
        decodeFrom none (position + 1) (Char.ofNat (p.next octet).bits :: done) rest
      else decodeFrom (some (p.next octet)) (position + 1) done rest := by
  rw [decodeFrom, if_pos ⟨low, high⟩]
  rfl

theorem Pending.Completes.decodeFrom_eq {p : Pending} {tail : List UInt8} {c : Char}
    (h : p.Completes tail c) (position : Nat) (done : List Char) (rest : List UInt8) :
    decodeFrom (some p) position done (tail ++ rest) =
      decodeFrom none (position + tail.length) (c :: done) rest := by
  induction h generalizing position with
  | last owed low high =>
    rw [List.singleton_append, decodeFrom_pending low high, if_pos owed]
    rfl
  | more owed low high _ ih =>
    rw [List.cons_append, decodeFrom_pending low high, if_neg owed, ih, List.length_cons]
    congr 1
    omega

theorem Pending.exists_completes {p : Pending} {position : Nat} {done cs : List Char}
    {octets : List UInt8} (h : decodeFrom (some p) position done octets = .ok cs) :
    ∃ tail c rest, octets = tail ++ rest ∧ p.Completes tail c := by
  induction octets generalizing p position with
  | nil => cases h
  | cons octet octets ih =>
    by_cases hbounds : p.low ≤ octet.toNat ∧ octet.toNat ≤ p.high
    · obtain ⟨low, high⟩ := hbounds
      rw [decodeFrom_pending low high] at h
      by_cases owed : p.owed = 1
      · exact ⟨[octet], _, octets, rfl, .last owed low high⟩
      · rw [if_neg owed] at h
        obtain ⟨tail, c, rest, rfl, hrest⟩ := ih h
        exact ⟨octet :: tail, c, rest, rfl, .more owed low high hrest⟩
    · rw [decodeFrom, if_neg hbounds] at h
      cases h

/-! ### First octets -/

theorem Pending.ofFirst_two {octet : UInt8} (low : 0xc2 ≤ octet.toNat)
    (high : octet.toNat ≤ 0xdf) :
    ofFirst octet = some ⟨octet, 1, 0x80, 0xbf, octet.toNat - 0xc0, 1⟩ := by
  simp only [ofFirst]
  rw [if_pos ⟨low, high⟩]

/-- The bounds after a first octet leave out characters that fewer octets hold, and surrogates. -/
theorem Pending.ofFirst_three {octet : UInt8} (low : 0xe0 ≤ octet.toNat)
    (high : octet.toNat ≤ 0xef) :
    ∃ l h, ofFirst octet = some ⟨octet, 2, l, h, octet.toNat - 0xe0, 1⟩ ∧
      ∀ n, l ≤ n ∧ n ≤ h ↔ 0x80 ≤ n ∧ n ≤ 0xbf ∧ (octet.toNat = 0xe0 → 0xa0 ≤ n) ∧
        (octet.toNat = 0xed → n ≤ 0x9f) := by
  simp only [ofFirst]
  rw [if_neg (by omega)]
  by_cases h0 : octet.toNat = 0xe0
  · rw [if_pos h0, h0]
    exact ⟨_, _, rfl, by omega⟩
  · rw [if_neg h0]
    by_cases hd : octet.toNat = 0xed
    · rw [if_pos hd]
      exact ⟨_, _, rfl, by omega⟩
    · rw [if_neg hd, if_pos (by omega)]
      exact ⟨_, _, rfl, by omega⟩

/-- Here they leave out what lies beyond the last code point too. -/
theorem Pending.ofFirst_four {octet : UInt8} (low : 0xf0 ≤ octet.toNat)
    (high : octet.toNat ≤ 0xf4) :
    ∃ l h, ofFirst octet = some ⟨octet, 3, l, h, octet.toNat - 0xf0, 1⟩ ∧
      ∀ n, l ≤ n ∧ n ≤ h ↔ 0x80 ≤ n ∧ n ≤ 0xbf ∧ (octet.toNat = 0xf0 → 0x90 ≤ n) ∧
        (octet.toNat = 0xf4 → n ≤ 0x8f) := by
  simp only [ofFirst]
  rw [if_neg (by omega), if_neg (by omega), if_neg (by omega), if_neg (by omega)]
  by_cases h0 : octet.toNat = 0xf0
  · rw [if_pos h0, h0]
    exact ⟨_, _, rfl, by omega⟩
  · rw [if_neg h0]
    by_cases h4 : octet.toNat = 0xf4
    · rw [if_neg (by omega), if_pos h4, h4]
      exact ⟨_, _, rfl, by omega⟩
    · rw [if_pos (by omega)]
      exact ⟨_, _, rfl, by omega⟩

theorem Pending.first_of_ofFirst {octet : UInt8} {p : Pending} (h : ofFirst octet = some p) :
    (0xc2 ≤ octet.toNat ∧ octet.toNat ≤ 0xdf) ∨ (0xe0 ≤ octet.toNat ∧ octet.toNat ≤ 0xef) ∨
      (0xf0 ≤ octet.toNat ∧ octet.toNat ≤ 0xf4) := by
  by_contra hnot
  simp only [ofFirst] at h
  rw [if_neg (by omega), if_neg (by omega), if_neg (by omega), if_neg (by omega),
    if_neg (by omega), if_neg (by omega), if_neg (by omega)] at h
  cases h

/-! ### Characters as octets -/

theorem encodeChar_one {c : Char} (h : c.toNat < 0x80) :
    encodeChar c = [UInt8.ofNat c.toNat] := by
  simp only [encodeChar]
  rw [if_pos h]

theorem encodeChar_two {c : Char} (low : 0x80 ≤ c.toNat) (high : c.toNat < 0x800) :
    encodeChar c = [UInt8.ofNat (0xc0 + c.toNat / 0x40), UInt8.ofNat (0x80 + c.toNat % 0x40)] := by
  simp only [encodeChar]
  rw [if_neg (by omega), if_pos high, Nat.div_one]

theorem encodeChar_three {c : Char} (low : 0x800 ≤ c.toNat) (high : c.toNat < 0x10000) :
    encodeChar c = [UInt8.ofNat (0xe0 + c.toNat / 0x1000),
      UInt8.ofNat (0x80 + c.toNat / 0x40 % 0x40), UInt8.ofNat (0x80 + c.toNat % 0x40)] := by
  simp only [encodeChar]
  rw [if_neg (by omega), if_neg (by omega), if_pos high, Nat.div_one]

theorem encodeChar_four {c : Char} (low : 0x10000 ≤ c.toNat) :
    encodeChar c = [UInt8.ofNat (0xf0 + c.toNat / 0x40000),
      UInt8.ofNat (0x80 + c.toNat / 0x1000 % 0x40), UInt8.ofNat (0x80 + c.toNat / 0x40 % 0x40),
      UInt8.ofNat (0x80 + c.toNat % 0x40)] := by
  simp only [encodeChar]
  rw [if_neg (by omega), if_neg (by omega), if_neg (by omega), Nat.div_one]

theorem toNat_octet {n : Nat} (h : n < 0x100) : (UInt8.ofNat n).toNat = n :=
  UInt8.toNat_ofNat_of_lt' h

theorem toNat_charOfNat {n : Nat} (h : n < 0xd800 ∨ 0xdfff < n ∧ n < 0x110000) :
    (Char.ofNat n).toNat = n := by
  rw [Char.ofNat, dif_pos h]
  rfl

theorem Pending.Completes.one {p : Pending} {octet : UInt8} {c : Char} (owed : p.owed = 1)
    (low : p.low ≤ octet.toNat) (high : octet.toNat ≤ p.high)
    (hc : c.toNat = p.bits * 64 + (octet.toNat - 0x80)) : p.Completes [octet] c := by
  have hc' : Char.ofNat (p.next octet).bits = c := by
    rw [← Char.ofNat_toNat c, hc]
    rfl
  exact hc' ▸ .last owed low high

theorem completes_encodeChar {c : Char} (h : 0x80 ≤ c.toNat) :
    ∃ octet p tail, encodeChar c = octet :: tail ∧ 0x80 ≤ octet.toNat ∧
      Pending.ofFirst octet = some p ∧ p.Completes tail c := by
  have hvalid : c.toNat < 0xd800 ∨ 0xdfff < c.toNat ∧ c.toNat < 0x110000 := c.valid
  have hlast := toNat_octet (n := 0x80 + c.toNat % 0x40) (by omega)
  have hthird := toNat_octet (n := 0x80 + c.toNat / 0x40 % 0x40) (by omega)
  by_cases h2 : c.toNat < 0x800
  · have hfirst := toNat_octet (n := 0xc0 + c.toNat / 0x40) (by omega)
    refine ⟨_, _, _, encodeChar_two h h2, by omega, Pending.ofFirst_two (by omega) (by omega), ?_⟩
    exact .one rfl (by dsimp only; omega) (by dsimp only; omega) (by dsimp only; omega)
  by_cases h3 : c.toNat < 0x10000
  · have hfirst := toNat_octet (n := 0xe0 + c.toNat / 0x1000) (by omega)
    obtain ⟨l, u, hof, hbounds⟩ := @Pending.ofFirst_three
      (UInt8.ofNat (0xe0 + c.toNat / 0x1000)) (by omega) (by omega)
    obtain ⟨low, high⟩ := (hbounds (0x80 + c.toNat / 0x40 % 0x40)).mpr (by omega)
    refine ⟨_, _, _, encodeChar_three (by omega) h3, by omega, hof, ?_⟩
    refine .more (by simp) (by rw [hthird]; exact low) (by rw [hthird]; exact high) ?_
    exact .one rfl (by dsimp only [Pending.next]; omega) (by dsimp only [Pending.next]; omega)
      (by dsimp only [Pending.next]; omega)
  · have hfirst := toNat_octet (n := 0xf0 + c.toNat / 0x40000) (by omega)
    have hsecond := toNat_octet (n := 0x80 + c.toNat / 0x1000 % 0x40) (by omega)
    obtain ⟨l, u, hof, hbounds⟩ := @Pending.ofFirst_four
      (UInt8.ofNat (0xf0 + c.toNat / 0x40000)) (by omega) (by omega)
    obtain ⟨low, high⟩ := (hbounds (0x80 + c.toNat / 0x1000 % 0x40)).mpr (by omega)
    refine ⟨_, _, _, encodeChar_four (by omega), by omega, hof, ?_⟩
    refine .more (by simp) (by rw [hsecond]; exact low) (by rw [hsecond]; exact high) ?_
    refine .more (by simp [Pending.next]) (by dsimp only [Pending.next]; omega)
      (by dsimp only [Pending.next]; omega) ?_
    exact .one rfl (by dsimp only [Pending.next]; omega) (by dsimp only [Pending.next]; omega)
      (by dsimp only [Pending.next]; omega)

theorem octet_of_toNat (octet : UInt8) {n : Nat} (h : n = octet.toNat) : UInt8.ofNat n = octet := by
  rw [h, UInt8.ofNat_toNat]

theorem Pending.Completes.of_owed_eq_one {p : Pending} {tail : List UInt8} {c : Char}
    (h : p.Completes tail c) (owed : p.owed = 1) :
    ∃ octet, tail = [octet] ∧ p.low ≤ octet.toNat ∧ octet.toNat ≤ p.high ∧
      c = Char.ofNat (p.next octet).bits := by
  cases h with
  | last _ low high => exact ⟨_, rfl, low, high, rfl⟩
  | more hne => exact absurd owed hne

theorem Pending.Completes.of_owed_ne_one {p : Pending} {tail : List UInt8} {c : Char}
    (h : p.Completes tail c) (owed : p.owed ≠ 1) :
    ∃ octet tail', tail = octet :: tail' ∧ p.low ≤ octet.toNat ∧ octet.toNat ≤ p.high ∧
      (p.next octet).Completes tail' c := by
  cases h with
  | last hone => exact absurd hone owed
  | more _ low high rest => exact ⟨_, _, rfl, low, high, rest⟩

/-- Completions are written back as they were read. -/
theorem encodeChar_of_completes {octet : UInt8} {p : Pending} {tail : List UInt8} {c : Char}
    (hp : Pending.ofFirst octet = some p) (h : p.Completes tail c) :
    encodeChar c = octet :: tail := by
  -- two, three and four octets
  rcases Pending.first_of_ofFirst hp with ⟨low, high⟩ | ⟨low, high⟩ | ⟨low, high⟩
  · rw [Pending.ofFirst_two low high] at hp
    obtain rfl := Option.some.inj hp
    obtain ⟨second, rfl, low₂, high₂, hlast⟩ := h.of_owed_eq_one rfl
    dsimp only [Pending.next] at low₂ high₂ hlast
    have hc := toNat_charOfNat (n := (octet.toNat - 0xc0) * 64 + (second.toNat - 0x80)) (by omega)
    rw [← hlast] at hc
    rw [encodeChar_two (by omega) (by omega), hc, octet_of_toNat octet (by omega),
      octet_of_toNat second (by omega)]
  · obtain ⟨l, u, hof, hbounds⟩ := Pending.ofFirst_three low high
    rw [hof] at hp
    obtain rfl := Option.some.inj hp
    obtain ⟨second, tail, rfl, low₂, high₂, h⟩ := h.of_owed_ne_one (by simp)
    obtain ⟨third, rfl, low₃, high₃, hlast⟩ := h.of_owed_eq_one rfl
    have hsecond := (hbounds _).mp ⟨low₂, high₂⟩
    dsimp only [Pending.next] at low₃ high₃ hlast
    have hc := toNat_charOfNat (n := ((octet.toNat - 0xe0) * 64 + (second.toNat - 0x80)) * 64
      + (third.toNat - 0x80)) (by omega)
    rw [← hlast] at hc
    rw [encodeChar_three (by omega) (by omega), hc, octet_of_toNat octet (by omega),
      octet_of_toNat second (by omega), octet_of_toNat third (by omega)]
  · obtain ⟨l, u, hof, hbounds⟩ := Pending.ofFirst_four low high
    rw [hof] at hp
    obtain rfl := Option.some.inj hp
    obtain ⟨second, tail, rfl, low₂, high₂, h⟩ := h.of_owed_ne_one (by simp)
    obtain ⟨third, tail, rfl, low₃, high₃, h⟩ := h.of_owed_ne_one (by simp [Pending.next])
    obtain ⟨fourth, rfl, low₄, high₄, hlast⟩ := h.of_owed_eq_one rfl
    have hsecond := (hbounds _).mp ⟨low₂, high₂⟩
    dsimp only [Pending.next] at low₃ high₃ low₄ high₄ hlast
    have hc := toNat_charOfNat (n := (((octet.toNat - 0xf0) * 64 + (second.toNat - 0x80)) * 64
      + (third.toNat - 0x80)) * 64 + (fourth.toNat - 0x80)) (by omega)
    rw [← hlast] at hc
    rw [encodeChar_four (by omega), hc, octet_of_toNat octet (by omega),
      octet_of_toNat second (by omega), octet_of_toNat third (by omega),
      octet_of_toNat fourth (by omega)]

theorem encodeChar_of_ascii {octet : UInt8} (h : octet.toNat < 0x80) :
    encodeChar (Char.ofNat octet.toNat) = [octet] := by
  have hc := toNat_charOfNat (n := octet.toNat) (by omega)
  rw [encodeChar_one (by omega), hc, UInt8.ofNat_toNat]

/-! ### Texts as octets -/

theorem decodeFrom_encodeChar (c : Char) (position : Nat) (done : List Char)
    (rest : List UInt8) :
    ∃ position', decodeFrom none position done (encodeChar c ++ rest) =
      decodeFrom none position' (c :: done) rest := by
  by_cases h : c.toNat < 0x80
  · have hoctet := toNat_octet (n := c.toNat) (by omega)
    rw [encodeChar_one h, List.singleton_append, decodeFrom_ascii (by omega), hoctet,
      Char.ofNat_toNat]
    exact ⟨_, rfl⟩
  · obtain ⟨octet, p, tail, hc, hfirst, hp, htail⟩ := completes_encodeChar (c := c) (by omega)
    rw [hc, List.cons_append, decodeFrom_first (by omega) hp, htail.decodeFrom_eq]
    exact ⟨_, rfl⟩

theorem decodeFrom_flatMap_encodeChar (cs : List Char) (position : Nat) (done : List Char) :
    decodeFrom none position done (cs.flatMap encodeChar) = .ok (done.reverse ++ cs) := by
  induction cs generalizing position done with
  | nil => simp [decodeFrom]
  | cons c cs ih =>
    obtain ⟨position', h⟩ := decodeFrom_encodeChar c position done (cs.flatMap encodeChar)
    rw [List.flatMap_cons, h, ih]
    simp

/-- Octets that are accepted begin with a character. -/
theorem exists_char_of_decodeFrom {position : Nat} {done cs : List Char} {octet : UInt8}
    {octets : List UInt8} (h : decodeFrom none position done (octet :: octets) = .ok cs) :
    ∃ c rest, octet :: octets = encodeChar c ++ rest ∧ rest.length ≤ octets.length := by
  by_cases hascii : octet.toNat < 0x80
  · exact ⟨Char.ofNat octet.toNat, octets, by rw [encodeChar_of_ascii hascii]; rfl, le_rfl⟩
  · cases hp : Pending.ofFirst octet with
    | none =>
      rw [decodeFrom, if_neg hascii, hp] at h
      cases h
    | some p =>
      rw [decodeFrom_first hascii hp] at h
      obtain ⟨tail, c, rest, rfl, hc⟩ := Pending.exists_completes h
      exact ⟨c, rest, by rw [encodeChar_of_completes hp hc]; rfl, by simp⟩

theorem exists_flatMap_of_decodeFrom {position : Nat} {done cs : List Char}
    {octets : List UInt8} (h : decodeFrom none position done octets = .ok cs) :
    ∃ ds : List Char, octets = ds.flatMap encodeChar := by
  -- a character takes several octets at once, so the induction is on their number
  induction hn : octets.length using Nat.strong_induction_on generalizing octets position done with
  | _ n ih =>
    cases octets with
    | nil => exact ⟨[], rfl⟩
    | cons octet octets =>
      obtain ⟨c, rest, hc, hlength⟩ := exists_char_of_decodeFrom h
      obtain ⟨position', hrest⟩ := decodeFrom_encodeChar c position done rest
      rw [hc, hrest] at h
      obtain ⟨ds, rfl⟩ := ih rest.length (by rw [← hn, List.length_cons]; omega) h rfl
      exact ⟨c :: ds, by rw [hc, List.flatMap_cons]⟩

theorem decode_encode (s : String) : decode (encode s) = .ok s := by
  unfold decode encode
  rw [decodeFrom_flatMap_encodeChar]
  simp [Except.map]

theorem encode_injective : Function.Injective encode := by
  intro s t h
  have hdecode := decode_encode s
  rw [h, decode_encode] at hdecode
  exact (Except.ok.inj hdecode).symm

theorem decode_eq_ok_iff {octets : List UInt8} {s : String} :
    decode octets = .ok s ↔ octets = encode s := by
  constructor
  · intro h
    cases hcs : decodeFrom none 0 [] octets with
    | error m =>
      rw [decode, hcs] at h
      cases h
    | ok cs =>
      obtain ⟨ds, rfl⟩ := exists_flatMap_of_decodeFrom hcs
      rw [decode, decodeFrom_flatMap_encodeChar] at h
      cases h
      simp [encode]
  · rintro rfl
    exact decode_encode s

theorem decode_eq_error_iff {octets : List UInt8} :
    (∃ m, decode octets = .error m) ↔ ∀ s, octets ≠ encode s := by
  cases h : decode octets with
  | error m =>
    refine ⟨fun _ s hs => ?_, fun _ => ⟨m, rfl⟩⟩
    rw [decode_eq_ok_iff.mpr hs] at h
    cases h
  | ok s =>
    constructor
    · rintro ⟨m, hm⟩
      cases hm
    · intro hnot
      exact absurd (decode_eq_ok_iff.mp h) (hnot s)

end ApiConformance.Text.Utf8
