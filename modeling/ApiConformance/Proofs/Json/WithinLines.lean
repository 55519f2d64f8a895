import Mathlib.Data.List.Basic
import Mathlib.Data.List.Find
import ApiConformance.Json.Token
import ApiConformance.Proofs.Text.Lines

/-!
What JSON reads within a line. A text, a number or a word goes on beyond no line end, so it is read
alike from texts that have the same lines.
-/
namespace ApiConformance.Json

open Text

/-! ### Digits -/

theorem isDigit_not_lineEnd (c : Char) (h : isDigit c = true) : ¬ IsLineEnd c := by
  rintro (rfl | rfl) <;> contradiction

theorem digitValue_not_lineEnd {c : Char} (h : (digitValue c).isSome) : ¬ IsLineEnd c := by
  rintro (rfl | rfl) <;> contradiction

theorem readBase_digits {base n : Nat} {digits : List Char} (h : readBase base digits = some n) :
    ∀ c ∈ digits, ¬ IsLineEnd c := by
  unfold readBase at h
  generalize 0 = start at h
  induction digits generalizing start with
  | nil => exact List.forall_mem_nil _
  | cons c digits ih =>
    rw [List.foldlM_cons] at h
    obtain ⟨next, hnext, hrest⟩ := Option.bind_eq_some_iff.mp h
    refine List.forall_mem_cons.mpr ⟨digitValue_not_lineEnd ?_, ih next hrest⟩
    split at hnext
    next hdigit => rw [hdigit]; rfl
    next => cases hnext

theorem hexQuad_append {w r : List Char} (hw : w.length = 4) (hr : r ≠ []) :
    hexQuad (w ++ r) = readBase 16 w := by
  obtain ⟨a, b, c, d, rfl⟩ := List.length_eq_four.mp hw
  obtain ⟨e, r, rfl⟩ := List.exists_cons_of_ne_nil hr
  rfl

theorem hexQuad_eq_some {cs : List Char} {n : Nat} (h : hexQuad cs = some n) :
    ∃ w r, cs = w ++ r ∧ w.length = 4 ∧ r ≠ [] ∧ readBase 16 w = some n := by
  unfold hexQuad at h
  split at h
  next a b c d e r => exact ⟨[a, b, c, d], e :: r, rfl, rfl, List.cons_ne_nil e r, h⟩
  next => cases h

theorem hexQuad_sameLines {cs ds : List Char} (h : SameLines cs ds) : hexQuad cs = hexQuad ds := by
  have hsome {cs ds : List Char} {n : Nat} (h : SameLines cs ds) (hn : hexQuad cs = some n) :
      hexQuad ds = some n := by
    obtain ⟨w, r, rfl, hlength, hr, hw⟩ := hexQuad_eq_some hn
    obtain ⟨s, rfl, hrs⟩ := h.append_left (readBase_digits hw)
    rw [hexQuad_append hlength, hw]
    rintro rfl
    cases hrs.together
    exact hr rfl
  exact Option.ext fun n => ⟨hsome h, hsome h.symm⟩

theorem withinLine_of_hexQuad {cs : List Char} {n : Nat} (h : hexQuad cs = some n) :
    WithinLine 4 cs := by
  obtain ⟨w, r, rfl, hlength, -, hw⟩ := hexQuad_eq_some h
  rw [← hlength]
  exact .of_begins (readBase_digits hw) (List.prefix_append w r)

/-! ### Texts -/

/-- An escape begins, and has too few characters. -/
def Stuck (cs : List Char) : Prop := ∃ more, cs = '\\' :: 'u' :: more ∧ more.length ≤ 4

theorem four_lt_length_of_hexQuad {cs : List Char} {n : Nat} (h : hexQuad cs = some n) :
    ¬ cs.length ≤ 4 := by
  obtain ⟨w, r, rfl, hlength, hr, -⟩ := hexQuad_eq_some h
  have hpos := List.length_pos_iff.mpr hr
  rw [List.length_append]
  omega

theorem lowSurrogate_of_hexQuad {more : List Char} {low : Nat} (h : hexQuad more = some low)
    (offset : Nat) : lowSurrogate offset ('\\' :: 'u' :: more) =
      .ok (if isLowSurrogate low then some low else none) := by
  rw [lowSurrogate, if_neg (four_lt_length_of_hexQuad h), h]

theorem lowSurrogate_of_ne {cs : List Char} (h : ∀ more, cs ≠ '\\' :: 'u' :: more) (offset : Nat) :
    lowSurrogate offset cs = .ok none := by
  unfold lowSurrogate
  split
  next more => exact absurd rfl (h more)
  next => rfl

theorem lowSurrogate_cases {offset : Nat} {cs : List Char} {low? : Option Nat}
    (h : lowSurrogate offset cs = .ok low?) :
    (∃ more low, cs = '\\' :: 'u' :: more ∧ hexQuad more = some low ∧
      low? = if isLowSurrogate low then some low else none) ∨
    low? = none ∧ ((∀ more, cs ≠ '\\' :: 'u' :: more) ∨ Stuck cs) := by
  unfold lowSurrogate at h
  split at h
  next more =>
    split at h
    next hshort =>
      cases h
      exact .inr ⟨rfl, .inr ⟨more, rfl, hshort⟩⟩
    next =>
      split at h <;> cases h
      exact .inl ⟨more, _, rfl, ‹_›, rfl⟩
  next hne =>
    cases h
    exact .inr ⟨rfl, .inl hne⟩

section

variable {cs ds : List Char}

/-- The second half of a surrogate pair is told from the same line. Only where the text is too
short for one it may be otherwise, and then the text ends badly. -/
theorem lowSurrogate_sameLines (h : SameLines cs ds) {offset : Nat} {low? : Option Nat}
    (hlow : lowSurrogate offset cs = .ok low?) :
    (∀ offset', lowSurrogate offset' ds = .ok low?) ∧ (∀ low, low? = some low → WithinLine 6 cs) ∨
      low? = none ∧ Stuck cs := by
  have hu : ∀ c ∈ ['\\', 'u'], ¬ IsLineEnd c := by simp [IsLineEnd]
  rcases lowSurrogate_cases hlow with ⟨more, low, rfl, hquad, rfl⟩ | ⟨rfl, hne | hstuck⟩
  · obtain ⟨more', rfl, hmore⟩ := h.append_left (w := ['\\', 'u']) hu
    refine .inl ⟨lowSurrogate_of_hexQuad ((hexQuad_sameLines hmore).symm.trans hquad), ?_⟩
    exact fun _ _ => (WithinLine.of_begins hu (List.prefix_append _ more)).add
      (withinLine_of_hexQuad hquad)
  · refine .inl ⟨lowSurrogate_of_ne ?_, nofun⟩
    rintro more rfl
    obtain ⟨more', rfl, -⟩ := h.symm.append_left (w := ['\\', 'u']) hu
    exact hne more' rfl
  · exact .inr ⟨rfl, hstuck⟩

theorem simpleEscape?_not_lineEnd {c e : Char} (h : simpleEscape? c = some e) : ¬ IsLineEnd c := by
  rintro (rfl | rfl) <;> contradiction

/-- An escape that is read from a text is read from one with the same lines, unless another one
follows that ends badly. -/
theorem readEscape_sameLines (h : SameLines cs ds) {start offset code n : Nat}
    (hread : readEscape start offset cs = .ok (code, n)) :
    WithinLine n cs ∧
      ((∀ start' offset', readEscape start' offset' ds = .ok (code, n)) ∨ Stuck (cs.drop n)) := by
  unfold readEscape at hread
  split at hread
  · cases hread
  next rest =>
    obtain ⟨rest', rfl, hrest⟩ := h.cons_left (by decide)
    split at hread
    · cases hread
    next code hquad =>
      have hquad' := (hexQuad_sameLines hrest).symm.trans hquad
      have hfour := withinLine_of_hexQuad hquad
      have hfive : WithinLine 5 ('u' :: rest) := WithinLine.cons_iff.mpr ⟨by decide, hfour⟩
      simp only [readEscape, hquad']
      split at hread
      next hhigh =>
        simp only [if_pos hhigh]
        split at hread
        next => cases hread
        next low hlow =>
          obtain ⟨rfl, rfl⟩ := Prod.mk.inj (Except.ok.inj hread)
          obtain ⟨hpair, hsix⟩ | ⟨⟨⟩, -⟩ := lowSurrogate_sameLines (hfour.sameLines_drop hrest) hlow
          refine ⟨hfive.add (hsix low rfl), .inl fun start' offset' => ?_⟩
          rw [hpair]
        next hlow =>
          cases hread
          refine ⟨hfive, ?_⟩
          obtain ⟨hpair, -⟩ | ⟨-, hstuck⟩ :=
            lowSurrogate_sameLines (hfour.sameLines_drop hrest) hlow
          · refine .inl fun start' offset' => ?_
            rw [hpair]
          · exact .inr hstuck
      next hhigh =>
        cases hread
        simp only [if_neg hhigh]
        exact ⟨hfive, .inl fun _ _ => trivial⟩
  next d rest hu =>
    split at hread
    next e hescape =>
      cases hread
      have hd := simpleEscape?_not_lineEnd hescape
      obtain ⟨rest', rfl, -⟩ := h.cons_left hd
      refine ⟨WithinLine.cons_iff.mpr ⟨hd, .zero rest⟩, .inl fun start' offset' => ?_⟩
      rw [readEscape, hescape]
      exact hu
    next => cases hread

theorem readText_skip (start skip offset : Nat) (done : List Nat) (cs : List Char) :
    readText start skip offset done cs = readText start 0 (offset + skip) done (cs.drop skip) := by
  induction cs generalizing skip offset with
  | nil =>
    rw [List.drop_nil]
    rfl
  | cons c cs ih =>
    cases skip with
    | zero => rfl
    | succ skip =>
      rw [readText, ih, List.drop_succ_cons]
      congr 1
      omega

theorem readText_of_stuck (h : Stuck cs) (start offset : Nat) (done : List Nat) :
    readText start 0 offset done cs = .error ⟨.unicodeEscape, offset + 1⟩ := by
  obtain ⟨more, rfl, hlength⟩ := h
  have hnone : hexQuad more = none :=
    Option.eq_none_iff_forall_ne_some.mpr fun n hn => four_lt_length_of_hexQuad hn hlength
  rw [readText, if_neg (by decide), if_pos rfl, readEscape, hnone]

theorem readText_of_lineEnd {c : Char} (hc : IsLineEnd c) (start offset : Nat) (done : List Nat) :
    readText start 0 offset done (c :: cs) = .error ⟨.controlCharacter, offset⟩ := by
  rcases hc with rfl | rfl <;> rfl

/-- A text that is read stands in one line. -/
theorem readText_sameLines (h : SameLines cs ds) {start offset next : Nat} {done read : List Nat}
    (hread : readText start 0 offset done cs = .ok (read, next)) :
    ∃ n, next = offset + n ∧ WithinLine n cs ∧
      ∀ start' offset', readText start' 0 offset' done ds = .ok (read, offset' + n) := by
  induction hlength : cs.length using Nat.strong_induction_on generalizing cs ds offset done with
  | _ _ ih =>
    subst hlength
    cases h.together with
    | nil => cases hread
    | lineEnd hc => rw [readText_of_lineEnd hc] at hread; cases hread
    | @cons c rest rest' hc hrest =>
      rw [readText] at hread
      split at hread
      next hquote =>
        cases hread
        refine ⟨1, rfl, WithinLine.cons_iff.mpr ⟨hc, .zero rest⟩, fun start' offset' => ?_⟩
        rw [readText, if_pos hquote]
      next hquote =>
        split at hread
        next hbackslash =>
          split at hread
          next => cases hread
          next code length hescape =>
            obtain ⟨hwithin, hescape' | hstuck⟩ := readEscape_sameLines hrest hescape
            · rw [readText_skip] at hread
              obtain ⟨n, rfl, hn, hrest'⟩ := ih _
                (Nat.lt_succ_of_le ((List.drop_suffix length rest).length_le))
                (hwithin.sameLines_drop hrest) hread rfl
              refine ⟨length + n + 1, by omega, WithinLine.cons_iff.mpr ⟨hc, hwithin.add hn⟩,
                fun start' offset' => ?_⟩
              rw [readText, if_neg hquote, if_pos hbackslash, hescape']
              dsimp only
              rw [readText_skip, hrest']
              congr 2
              omega
            · rw [readText_skip, readText_of_stuck hstuck] at hread
              cases hread
        next hbackslash =>
          split at hread
          next => cases hread
          next hcontrol =>
            obtain ⟨n, rfl, hn, hrest'⟩ := ih _ (Nat.lt_succ_self _) hrest hread rfl
            refine ⟨n + 1, by omega, WithinLine.cons_iff.mpr ⟨hc, hn⟩, fun start' offset' => ?_⟩
            rw [readText, if_neg hquote, if_neg hbackslash, if_neg hcontrol, hrest']
            congr 2
            omega

/-! ### Numbers -/

theorem readFraction_sameLines (h : SameLines cs ds) : readFraction cs = readFraction ds := by
  cases h.together with
  | nil => rfl
  | lineEnd hc hd => rcases hc with rfl | rfl <;> rcases hd with rfl | rfl <;> rfl
  | @cons c _ _ hc htail =>
    by_cases hpoint : c = '.'
    · subst hpoint
      exact htail.takeWhile_eq isDigit_not_lineEnd
    · simp [readFraction, hpoint]

theorem withinLine_readFraction (cs : List Char) :
    WithinLine (if (readFraction cs).isEmpty then 0 else (readFraction cs).length + 1) cs := by
  unfold readFraction
  split
  next rest =>
    split
    next => exact .zero _
    next => exact WithinLine.cons_iff.mpr ⟨by decide, .takeWhile isDigit_not_lineEnd rest⟩
  next => exact .zero cs

theorem readSign_sameLines (h : SameLines cs ds) : readSign cs = readSign ds := by
  cases h.together with
  | nil => rfl
  | lineEnd hc hd => rcases hc with rfl | rfl <;> rcases hd with rfl | rfl <;> rfl
  | @cons c =>
    by_cases hminus : c = '-'
    · subst hminus
      rfl
    · by_cases hplus : c = '+'
      · subst hplus
        rfl
      · simp [readSign, hminus, hplus]

theorem withinLine_readSign (cs : List Char) : WithinLine (readSign cs).2 cs := by
  unfold readSign
  split
  · exact WithinLine.cons_iff.mpr ⟨by decide, .zero _⟩
  · exact WithinLine.cons_iff.mpr ⟨by decide, .zero _⟩
  · exact .zero cs

theorem readExponent_sameLines (h : SameLines cs ds) : readExponent cs = readExponent ds := by
  cases h.together with
  | nil => rfl
  | lineEnd hc hd => rcases hc with rfl | rfl <;> rcases hd with rfl | rfl <;> rfl
  | @cons c rest rest' hc htail =>
    have hsign := readSign_sameLines htail
    have hdigits : (rest.drop (readSign rest').2).takeWhile isDigit =
        (rest'.drop (readSign rest').2).takeWhile isDigit := by
      rw [← hsign]
      exact ((withinLine_readSign rest).sameLines_drop htail).takeWhile_eq isDigit_not_lineEnd
    simp only [readExponent, hsign, hdigits]

theorem withinLine_readExponent {exponent : Bool × List Char} {width : Nat}
    (h : readExponent cs = some (exponent, width)) : WithinLine width cs := by
  unfold readExponent at h
  split at h
  next c rest =>
    split at h
    next hletter =>
      split at h
      rename_i negative sign hsign
      extract_lets digits at h
      split at h
      next => cases h
      next =>
        cases h
        have hsigned : WithinLine sign rest := by
          have := withinLine_readSign rest
          rwa [hsign] at this
        have hc : ¬ IsLineEnd c := by rcases hletter with rfl | rfl <;> decide
        rw [Nat.add_assoc, Nat.add_comm]
        exact WithinLine.cons_iff.mpr ⟨hc, hsigned.add (.takeWhile isDigit_not_lineEnd _)⟩
    next => cases h
  next => cases h

/-- The integer part of a number. -/
def wholeDigits (cs : List Char) : List Char :=
  match cs with
  | '0' :: _ => ['0']
  | _ => cs.takeWhile isDigit

theorem wholeDigits_sameLines (h : SameLines cs ds) : wholeDigits cs = wholeDigits ds := by
  cases h.together with
  | nil => rfl
  | lineEnd hc hd => rcases hc with rfl | rfl <;> rcases hd with rfl | rfl <;> rfl
  | @cons c =>
    by_cases hzero : c = '0'
    · subst hzero
      rfl
    · simp [wholeDigits, hzero, h.takeWhile_eq isDigit_not_lineEnd]

theorem withinLine_wholeDigits (cs : List Char) : WithinLine (wholeDigits cs).length cs := by
  unfold wholeDigits
  split
  next rest => exact .of_begins (by simp [IsLineEnd]) ⟨rest, rfl⟩
  next => exact .takeWhile isDigit_not_lineEnd cs

/-- The part of a number after its sign. -/
def readUnsigned (negative : Bool) (sign : Nat) (cs : List Char) : Option Numeral :=
  let whole := wholeDigits cs
  if whole.isEmpty then none
  else
    let rest := cs.drop whole.length
    let fraction := readFraction rest
    let point := if fraction.isEmpty then 0 else fraction.length + 1
    match readExponent (rest.drop point) with
    | none => some ⟨negative, whole, fraction, none, sign + whole.length + point⟩
    | some (exponent, width) =>
      some ⟨negative, whole, fraction, some exponent, sign + whole.length + point + width⟩

theorem Numeral.read_minus (cs : List Char) :
    Numeral.read ('-' :: cs) = readUnsigned true 1 cs := rfl

theorem Numeral.read_eq_readUnsigned (h : ∀ rest, cs ≠ '-' :: rest) :
    Numeral.read cs = readUnsigned false 0 cs := by
  unfold Numeral.read
  split
  next heq =>
    split at heq
    next rest => exact absurd rfl (h rest)
    next =>
      cases heq
      rfl

theorem readUnsigned_sameLines (h : SameLines cs ds) (negative : Bool) (sign : Nat) :
    readUnsigned negative sign cs = readUnsigned negative sign ds := by
  have hrest := (withinLine_wholeDigits cs).sameLines_drop h
  have hfraction := readFraction_sameLines hrest
  have hexponent := readExponent_sameLines ((withinLine_readFraction _).sameLines_drop hrest)
  simp only [readUnsigned, hexponent]
  rw [hfraction, wholeDigits_sameLines h]

theorem withinLine_readUnsigned {negative : Bool} {sign : Nat} {n : Numeral}
    (h : readUnsigned negative sign cs = some n) : ∃ m, n.length = sign + m ∧ WithinLine m cs := by
  unfold readUnsigned at h
  extract_lets whole rest fraction point at h
  have hpoint : WithinLine (whole.length + point) cs :=
    (withinLine_wholeDigits cs).add (withinLine_readFraction rest)
  split at h
  next => cases h
  next =>
    split at h
    next =>
      cases h
      exact ⟨_, Nat.add_assoc sign _ _, hpoint⟩
    next exponent width hexponent =>
      cases h
      refine ⟨whole.length + point + width, ?_, hpoint.add ?_⟩
      · rw [Nat.add_assoc, Nat.add_assoc, Nat.add_assoc]
      · rw [← List.drop_drop]
        exact withinLine_readExponent hexponent

theorem Numeral.read_sameLines (h : SameLines cs ds) : Numeral.read cs = Numeral.read ds := by
  by_cases hminus : ∃ rest, cs = '-' :: rest
  · obtain ⟨rest, rfl⟩ := hminus
    obtain ⟨rest', rfl, hrest⟩ := h.cons_left (by decide)
    rw [read_minus, read_minus]
    exact readUnsigned_sameLines hrest true 1
  · have hcs : ∀ rest, cs ≠ '-' :: rest := not_exists.mp hminus
    have hds : ∀ rest, ds ≠ '-' :: rest := by
      rintro rest rfl
      obtain ⟨rest', rfl, -⟩ := h.symm.cons_left (by decide)
      exact hcs rest' rfl
    rw [read_eq_readUnsigned hcs, read_eq_readUnsigned hds]
    exact readUnsigned_sameLines h false 0

theorem withinLine_numeral {n : Numeral} (h : Numeral.read cs = some n) :
    WithinLine n.length cs := by
  by_cases hminus : ∃ rest, cs = '-' :: rest
  · obtain ⟨rest, rfl⟩ := hminus
    obtain ⟨m, hm, hrest⟩ := withinLine_readUnsigned h
    rw [hm, Nat.add_comm]
    exact WithinLine.cons_iff.mpr ⟨by decide, hrest⟩
  · rw [Numeral.read_eq_readUnsigned (not_exists.mp hminus)] at h
    obtain ⟨m, hm, hcs⟩ := withinLine_readUnsigned h
    rwa [hm, Nat.zero_add]

/-! ### Words -/

theorem words_not_lineEnd : ∀ word ∈ words, ∀ c ∈ word.1, ¬ IsLineEnd c := by
  simp [words, IsLineEnd]

theorem find_words_sameLines (h : SameLines cs ds) :
    words.find? (fun (word, _) => word.isPrefixOf cs) =
      words.find? fun (word, _) => word.isPrefixOf ds :=
  List.find?_congr fun word hword => h.isPrefixOf_eq (words_not_lineEnd word hword)

end

end ApiConformance.Json
