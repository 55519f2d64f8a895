import ApiConformance.Json.Reader
import ApiConformance.Proofs.Json.Tokens

/-!
What can stop JSON from being read. The length of an integer does only where a text has more digits
in a row than an integer may have, the depth only where it has more opening brackets than there is
room for, and half of a surrogate pair only where it has an escape. All other complaints are about
the grammar.
-/
namespace ApiConformance.Json

/-- More digits in a row than an integer may have. -/
def Overlong (text : List Char) : Prop :=
  ∃ digits, digits <:+: text ∧ (∀ c ∈ digits, Text.isDigit c) ∧ maxIntegerDigits < digits.length

theorem Overlong.of_suffix {cs text : List Char} (h : Overlong cs) (hcs : cs <:+ text) :
    Overlong text := by
  obtain ⟨digits, hpart, hdigits, hlength⟩ := h
  exact ⟨digits, hpart.trans hcs.isInfix, hdigits, hlength⟩

theorem not_overlong_of_length {text : List Char} (h : text.length ≤ maxIntegerDigits) :
    ¬ Overlong text := by
  rintro ⟨digits, hpart, -, hlength⟩
  have hle := hpart.length_le
  omega

def isOpening (c : Char) : Bool := c = '[' || c = '\x7b'

/-- How many opening brackets a text has, wherever they stand. -/
def openings (text : List Char) : Nat := text.countP isOpening

/-- What stops the reader, if a complaint is not about the grammar. -/
def Failure.stop? (f : Failure) : Option Stop :=
  match f.cause with
  | .stop s => some s
  | _ => none

theorem Failure.stop?_eq_some {f : Failure} {s : Stop} : f.stop? = some s ↔ f.cause = .stop s := by
  unfold stop?
  split
  next h => rw [h, Cause.stop.injEq, Option.some.injEq]
  next h => exact iff_of_false nofun (h s)

/-! ### Tokens -/

theorem Numeral.cause_of_value {n : Numeral} {c : Cause} (h : n.value = .error c) :
    c = .stop (.integerDigits n.whole.length) ∧ maxIntegerDigits < n.whole.length := by
  unfold Numeral.value at h
  split at h
  · split at h
    · cases h
      exact ⟨rfl, by assumption⟩
    · cases h
  · cases h

/-- A number that cannot be read is an integer that is too long. -/
theorem overlong_of_readScalar {offset length : Nat} {cs : List Char} {f : Failure}
    (h : readScalar offset cs = some (.bad f, length)) :
    (∃ count, f.stop? = some (.integerDigits count)) ∧ Overlong cs := by
  unfold readScalar at h
  split at h
  · cases h
  · split at h
    · cases h
    next n hn =>
      split at h
      · cases h
      next cause hvalue =>
        cases h
        obtain ⟨hpart, hdigits⟩ := Numeral.whole_of_read hn
        obtain ⟨rfl, hlength⟩ := Numeral.cause_of_value hvalue
        exact ⟨⟨_, rfl⟩, n.whole, hpart, hdigits, hlength⟩

theorem lowSurrogate_stop {offset : Nat} {cs : List Char} {f : Failure}
    (h : lowSurrogate offset cs = .error f) : f.stop? = none := by
  unfold lowSurrogate at h
  split at h
  · split at h
    · cases h
    · split at h <;> cases h
      rfl
  · cases h

theorem readEscape_stop {start offset : Nat} {cs : List Char} {f : Failure}
    (h : readEscape start offset cs = .error f) : f.stop? = none := by
  unfold readEscape at h
  split at h
  · cases h
    rfl
  · split at h
    · cases h
      rfl
    · split at h
      · split at h
        next hlow =>
          cases h
          exact lowSurrogate_stop hlow
        · cases h
        · cases h
      · cases h
  · split at h <;> cases h
    rfl

/-- What is wrong with a text is wrong with its grammar. -/
theorem readText_stop {start skip offset : Nat} {done : List Nat} {cs : List Char} {f : Failure}
    (h : readText start skip offset done cs = .error f) : f.stop? = none := by
  induction cs generalizing skip offset done with
  | nil =>
    cases h
    rfl
  | cons c rest ih =>
    cases skip with
    | succ skip => exact ih h
    | zero =>
      rw [readText] at h
      split at h
      · cases h
      · split at h
        · split at h
          next hescape =>
            cases h
            exact readEscape_stop hescape
          next => exact ih h
        · split at h
          · cases h
            rfl
          · exact ih h

/-- No token but an integer that is too long stops the reader by itself. -/
theorem stop_of_mem_tokens {skip offset : Nat} {cs : List Char} {p : Placed} {f : Failure}
    (hp : p ∈ tokens skip offset cs) (hbad : p.token = .bad f) {s : Stop}
    (hs : f.stop? = some s) : (∃ count, s = .integerDigits count) ∧ Overlong cs := by
  rcases p with ⟨token, place⟩
  obtain rfl : token = .bad f := hbad
  cases comesFrom_of_mem_tokens hp with
  | badText h =>
    rw [readText_stop h] at hs
    cases hs
  | punctuation h => exact absurd rfl ((punctuation?_ne h).1 f)
  | scalar suffix h =>
    obtain ⟨⟨count, hcount⟩, hcs⟩ := overlong_of_readScalar h
    rw [hcount] at hs
    exact ⟨⟨count, (Option.some.inj hs).symm⟩, hcs.of_suffix suffix⟩

def Placed.opens (p : Placed) : Bool :=
  match p.token with
  | .openList | .openMap => true
  | _ => false

theorem isOpening_of_punctuation {c : Char} {token : Token} (h : punctuation? c = some token)
    {offset : Nat} (hopens : (Placed.mk token offset).opens = true) : isOpening c = true := by
  unfold punctuation? at h
  repeat' split at h
  all_goals cases h
  all_goals cases hopens
  all_goals simp_all [isOpening]

theorem readScalar_cases {offset length : Nat} {cs : List Char} {token : Token}
    (h : readScalar offset cs = some (token, length)) :
    (∃ v, token = .value v) ∨ ∃ f, token = .bad f := by
  unfold readScalar at h
  split at h
  · cases h
    exact .inl ⟨_, rfl⟩
  · split at h
    · cases h
    · split at h
      · cases h
        exact .inl ⟨_, rfl⟩
      · cases h
        exact .inr ⟨_, rfl⟩

theorem countP_opens_cons_le {p : Placed} {ps : List Placed} {c : Char} {cs : List Char}
    (hp : p.opens = true → isOpening c = true) (hps : ps.countP Placed.opens ≤ openings cs) :
    (p :: ps).countP Placed.opens ≤ openings (c :: cs) := by
  unfold openings at hps ⊢
  rw [List.countP_cons, List.countP_cons]
  split
  next hopens =>
    rw [if_pos (hp hopens)]
    exact Nat.add_le_add_right hps 1
  next => exact Nat.le_add_right_of_le hps

/-- Every token that opens a list or a map is an opening bracket of the text. -/
theorem countP_opens_tokens_le (skip offset : Nat) (cs : List Char) :
    (tokens skip offset cs).countP Placed.opens ≤ openings cs := by
  induction cs generalizing skip offset with
  | nil => exact Nat.zero_le _
  | cons c rest ih =>
    have hrest (skip offset : Nat) :
        (tokens skip offset rest).countP Placed.opens ≤ openings (c :: rest) :=
      (ih skip offset).trans ((List.sublist_cons_self c rest).countP_le)
    cases skip with
    | succ skip => exact hrest skip (offset + 1)
    | zero =>
      rw [tokens]
      split
      · exact hrest 0 (offset + 1)
      · split
        next htoken => exact countP_opens_cons_le (isOpening_of_punctuation htoken) (ih _ _)
        · split
          · split
            · exact Nat.zero_le _
            · exact countP_opens_cons_le (fun hopens => absurd hopens Bool.false_ne_true) (ih _ _)
          · split
            · exact Nat.zero_le _
            next hscalar =>
              refine countP_opens_cons_le (fun hopens => ?_) (ih _ _)
              rcases readScalar_cases hscalar with ⟨v, rfl⟩ | ⟨f, rfl⟩ <;> cases hopens
            · exact Nat.zero_le _

/-! ### The machine -/

/-- How many lists and maps are open that have no frame yet. -/
def Goal.opened : Goal → Nat
  | .nameOrEnd | .name _ | .colon _ _ => 1
  | _ => 0

section

variable {room : Nat} {goal : Goal} {stack : List Frame} {p : Placed} {f : Failure} {s : Stop}

/-- The machine stops for want of room at a token that opens one more list or map. -/
def StopsDeep (room : Nat) (stack : List Frame) (p : Placed) (s : Stop) : Prop :=
  (∃ b, s = .tooDeep b) ∧ p.opens = true ∧ room ≤ stack.length

theorem openBracket_stop {b : Bracket} {offset : Nat} {o : Outcome}
    (h : openBracket room stack b offset o = .error f) :
    f.stop? = some (.tooDeep b) ∧ room ≤ stack.length := by
  unfold openBracket at h
  split at h <;> cases h
  next hroom => exact ⟨rfl, Nat.le_of_not_lt hroom⟩

theorem beginValue_stop (h : beginValue room stack p = .error f) (hs : f.stop? = some s) :
    p.token = .bad f ∨ StopsDeep room stack p s := by
  have hopened {b : Bracket} {o : Outcome} (hopens : p.opens = true)
      (h : openBracket room stack b p.offset o = .error f) : StopsDeep room stack p s := by
    obtain ⟨hb, hroom⟩ := openBracket_stop h
    exact ⟨⟨b, Option.some.inj (hs.symm.trans hb)⟩, hopens, hroom⟩
  unfold beginValue at h
  split at h
  · cases h
  · cases h
  next htoken => exact .inr (hopened (by rw [Placed.opens, htoken]) h)
  next htoken => exact .inr (hopened (by rw [Placed.opens, htoken]) h)
  next htoken =>
    cases h
    exact .inl htoken
  · cases h
    cases hs

/-- Where a name has to stand, an integer is out of place however long it is. -/
theorem beginName_stop {entries : List (Atom × Value)} (h : beginName entries stack p = .error f) :
    f.stop? = none := by
  unfold beginName at h
  split at h
  · cases h
  next g _ =>
    split at h
    · cases h
      rfl
    next hnot =>
      cases h
      rw [Option.eq_none_iff_forall_ne_some]
      exact fun s hs => hnot s (Failure.stop?_eq_some.mp hs)
  · cases h
    rfl

theorem continueAfter_stop {v : Value} (h : continueAfter v stack p = .error f) :
    f.stop? = none := by
  unfold continueAfter at h
  split at h <;> cases h <;> rfl

/-- The machine stops only by passing on a token that does, or for want of room. -/
theorem step_stop (h : step room goal stack p = .error f) (hs : f.stop? = some s) :
    p.token = .bad f ∨ StopsDeep room stack p s := by
  have hgrammar (hnone : f.stop? = none) : p.token = .bad f ∨ StopsDeep room stack p s := by
    rw [hnone] at hs
    cases hs
  unfold step at h
  split at h
  · exact beginValue_stop h hs
  · cases h
  · exact beginValue_stop h hs
  · cases h
  · exact hgrammar (beginName_stop h)
  · exact hgrammar (beginName_stop h)
  · cases h
  · cases h
    exact hgrammar rfl
  · exact hgrammar (continueAfter_stop h)

variable {goal' : Goal} {stack' : List Frame}

theorem beginValue_opened (h : beginValue room stack p = .ok (.next goal' stack')) :
    stack'.length + goal'.opened ≤ stack.length + [p].countP Placed.opens := by
  have hopened {b : Bracket} {o : Outcome} (hopens : p.opens = true)
      (h : openBracket room stack b p.offset o = .ok (.next goal' stack')) :
      o = .next goal' stack' ∧ [p].countP Placed.opens = 1 := by
    unfold openBracket at h
    split at h <;> cases h
    exact ⟨rfl, by simp [hopens]⟩
  unfold beginValue at h
  split at h
  · cases h
    exact Nat.le_add_right ..
  · cases h
    exact Nat.le_add_right ..
  next htoken =>
    obtain ⟨⟨⟩, hone⟩ := hopened (by rw [Placed.opens, htoken]) h
    rw [hone]
    rfl
  next htoken =>
    obtain ⟨⟨⟩, hone⟩ := hopened (by rw [Placed.opens, htoken]) h
    rw [hone]
    rfl
  · cases h
  · cases h

theorem beginName_opened {entries : List (Atom × Value)}
    (h : beginName entries stack p = .ok (.next goal' stack')) :
    stack'.length + goal'.opened = stack.length + 1 := by
  unfold beginName at h
  split at h
  · cases h
    rfl
  · split at h <;> cases h
  · cases h

theorem continueAfter_opened {v : Value}
    (h : continueAfter v stack p = .ok (.next goal' stack')) :
    stack'.length + goal'.opened ≤ stack.length := by
  unfold continueAfter at h
  split at h <;> cases h <;> simp [Goal.opened]

/-- What is open after one step was open before it or is opened by the token. -/
theorem step_opened (h : step room goal stack p = .ok (.next goal' stack')) :
    stack'.length + goal'.opened ≤ stack.length + goal.opened + [p].countP Placed.opens := by
  unfold step at h
  split at h
  · exact beginValue_opened h
  · cases h
    exact stack.tail_suffix.length_le.trans (Nat.le_add_right ..)
  · exact beginValue_opened h
  · cases h
    exact Nat.le_add_right_of_le (Nat.le_succ _)
  · rw [beginName_opened h]
    exact Nat.le_add_right ..
  · rw [beginName_opened h]
    exact Nat.le_add_right ..
  · cases h
    exact Nat.le_add_right ..
  · cases h
  · exact (continueAfter_opened h).trans (Nat.le_add_right ..)

/-- A run that stops has come upon a token that does, or opens more than there is room for. -/
theorem run_stop {ps : List Placed} (h : run room goal stack ps = .error f)
    (hs : f.stop? = some s) :
    (∃ p ∈ ps, p.token = .bad f) ∨
      (∃ b, s = .tooDeep b) ∧ room < stack.length + goal.opened + ps.countP Placed.opens := by
  induction ps generalizing goal stack with
  | nil =>
    cases h
    cases hs
  | cons p ps ih =>
    have hcount : (p :: ps).countP Placed.opens =
        [p].countP Placed.opens + ps.countP Placed.opens :=
      @List.countP_append _ Placed.opens [p] ps
    rw [run] at h
    split at h
    next hstep =>
      cases h
      rcases step_stop hstep hs with hbad | ⟨hdeep, hopens, hroom⟩
      · exact .inl ⟨p, List.mem_cons_self, hbad⟩
      · have hone : [p].countP Placed.opens = 1 := by simp [hopens]
        exact .inr ⟨hdeep, by omega⟩
    next => cases h
    next hstep =>
      -- what is open together with what is still to be opened never grows
      have hopened := step_opened hstep
      rcases ih h with ⟨q, hq, hbad⟩ | ⟨hdeep, hroom⟩
      · exact .inl ⟨q, List.mem_cons_of_mem p hq, hbad⟩
      · exact .inr ⟨hdeep, by omega⟩

end

/-! ### Texts that are not read -/

/-- What a text has when reading it stops. -/
def Stop.GroundedIn (s : Stop) (text : List Char) (room : Nat) : Prop :=
  match s with
  | .integerDigits _ => Overlong text
  | .tooDeep _ => room < openings text
  | .halfPair => HasEscape text

section

variable {text : List Char} {room : Nat}

theorem readValue_eq_ok_iff {v : Value} : readValue text room = .ok v ↔
    run room .value [] (tokens 0 0 text) = .ok v ∧ ∀ p ∈ tokens 0 0 text, p.isTorn = false := by
  simp only [readValue]
  split
  next w p hrun hfind =>
    refine iff_of_false nofun fun ⟨_, hwhole⟩ => ?_
    have htorn := hwhole p (List.mem_of_find?_eq_some hfind)
    rw [List.find?_some hfind] at htorn
    cases htorn
  next hnot =>
    refine ⟨fun h => ⟨h, ?_⟩, And.left⟩
    have hnone : (tokens 0 0 text).find? Placed.isTorn = none :=
      Option.eq_none_iff_forall_ne_some.mpr fun p hp => hnot v p h hp
    simpa using List.find?_eq_none.mp hnone

theorem readValue_error {f : Failure} (h : readValue text room = .error f) :
    run room .value [] (tokens 0 0 text) = .error f ∨
      f.stop? = some .halfPair ∧ ∃ p ∈ tokens 0 0 text, p.isTorn = true := by
  simp only [readValue] at h
  split at h
  next w p _ hfind =>
    cases h
    exact .inr ⟨rfl, p, List.mem_of_find?_eq_some hfind, List.find?_some hfind⟩
  next => exact .inl h

theorem Placed.token_of_isTorn {p : Placed} (h : p.isTorn = true) :
    ∃ s, p.token = .text s true := by
  unfold isTorn at h
  split at h
  next s torn htoken => exact ⟨s, by rw [htoken, h]⟩
  next => cases h

theorem hasEscape_of_isTorn {p : Placed} (hp : p ∈ tokens 0 0 text) (htorn : p.isTorn = true) :
    HasEscape text := by
  obtain ⟨s, hs⟩ := p.token_of_isTorn htorn
  have hcomes := comesFrom_of_mem_tokens hp
  rw [hs] at hcomes
  cases hcomes with
  | text s escape => exact escape rfl
  | punctuation h => exact absurd rfl ((punctuation?_ne h).2.2 s true)
  | scalar _ h => rcases readScalar_cases h with ⟨v, hv⟩ | ⟨f, hf⟩ <;> contradiction

theorem groundedIn_of_readValue {f : Failure} (h : readValue text room = .error f) {s : Stop}
    (hs : f.stop? = some s) : s.GroundedIn text room := by
  rcases readValue_error h with hrun | ⟨hhalf, p, hp, htorn⟩
  · rcases run_stop hrun hs with ⟨p, hp, hbad⟩ | ⟨⟨b, rfl⟩, hroom⟩
    · obtain ⟨⟨count, rfl⟩, hlong⟩ := stop_of_mem_tokens hp hbad hs
      exact hlong
    · have hle := countP_opens_tokens_le 0 0 text
      have hnone : ([] : List Frame).length + Goal.value.opened = 0 := rfl
      show room < openings text
      omega
  · obtain rfl : Stop.halfPair = s := Option.some.inj (hhalf.symm.trans hs)
    exact hasEscape_of_isTorn hp htorn

/-- A text without a byte order mark is read as it is. -/
theorem read_eq_readValue (h : ∀ rest, text ≠ '\ufeff' :: rest) :
    read text room = readValue text room := by
  unfold read
  split
  next rest => exact absurd rfl (h rest)
  next => rfl

theorem groundedIn_of_read {f : Failure} (h : read text room = .error f) {s : Stop}
    (hs : f.stop? = some s) : s.GroundedIn text room := by
  unfold read at h
  split at h
  · cases h
    cases hs
  · exact groundedIn_of_readValue h hs

end

/-! ### Integers that are too long -/

theorem ne_of_isDigit {c d : Char} (hd : Text.isDigit d = true) (hc : Text.isDigit c = false) :
    d ≠ c := by
  rintro rfl
  rw [hd] at hc
  cases hc

theorem find_words_of_isDigit {d : Char} (hd : Text.isDigit d = true) (cs : List Char) :
    (words.find? fun (word, _) => word.isPrefixOf (d :: cs)) = none := by
  rw [List.find?_eq_none]
  intro word hword hprefix
  have hhead {c : Char} {rest : List Char} (h : (c :: rest).isPrefixOf (d :: cs) = true) : d = c :=
    (List.cons_prefix_cons.mp (List.isPrefixOf_iff_prefix.mp h)).1.symm
  simp only [words, List.mem_cons, List.not_mem_nil, or_false] at hword
  rcases hword with rfl | rfl | rfl | rfl | rfl | rfl <;>
    exact ne_of_isDigit hd (by decide) (hhead hprefix)

/-- A character after which a number is not read on. -/
def EndsInteger (c : Char) : Prop := Text.isDigit c = false ∧ c ≠ '.' ∧ c ≠ 'e' ∧ c ≠ 'E'

section

variable {d c : Char} {ds rest : List Char}

theorem Numeral.read_digits (hzero : d ≠ '0') (hdigits : ∀ e ∈ d :: ds, Text.isDigit e = true)
    (hc : EndsInteger c) :
    Numeral.read (d :: ds ++ c :: rest) = some ⟨false, d :: ds, [], none, ds.length + 1⟩ := by
  have hminus : d ≠ '-' := ne_of_isDigit (hdigits d (.head _)) (by decide)
  have htake : (d :: (ds ++ c :: rest)).takeWhile Text.isDigit = d :: ds := by
    rw [← List.cons_append, List.takeWhile_append_of_pos hdigits,
      List.takeWhile_cons_of_neg (by simp [hc.1]), List.append_nil]
  have hfraction : readFraction (c :: rest) = [] := by
    unfold readFraction
    split
    next heq => exact absurd (List.cons.inj heq).1 hc.2.1
    next => rfl
  have hexponent : readExponent (c :: rest) = none := by simp [readExponent, hc.2.2]
  simp [Numeral.read, hzero, hminus, htake, hfraction, hexponent]

/-- More digits than an integer may have, where a number begins. -/
theorem tokens_of_overlong (hzero : d ≠ '0') (hdigits : ∀ e ∈ d :: ds, Text.isDigit e = true)
    (hc : EndsInteger c) (hlength : maxIntegerDigits < (d :: ds).length) (offset : Nat) :
    tokens 0 offset (d :: ds ++ c :: rest) =
      [⟨.bad ⟨.stop (.integerDigits (d :: ds).length), offset⟩, offset⟩] := by
  have hd := hdigits d (.head _)
  have hne (c : Char) (hc : Text.isDigit c = false) : d ≠ c := ne_of_isDigit hd hc
  have hspace : isSpace d = false := by
    simp [isSpace, hne ' ' (by decide), hne '\t' (by decide), hne '\n' (by decide),
      hne '\r' (by decide)]
  have hpunctuation : punctuation? d = none := by
    simp [punctuation?, hne '[' (by decide), hne ']' (by decide), hne '\x7b' (by decide),
      hne '\x7d' (by decide), hne ':' (by decide), hne ',' (by decide)]
  have hscalar : readScalar offset (d :: ds ++ c :: rest) =
      some (.bad ⟨.stop (.integerDigits (d :: ds).length), offset⟩, ds.length + 1) := by
    unfold readScalar
    rw [List.cons_append, find_words_of_isDigit hd, ← List.cons_append,
      Numeral.read_digits hzero hdigits hc]
    simp only [Numeral.value]
    rw [if_pos hlength]
  rw [List.cons_append] at hscalar ⊢
  rw [tokens, if_neg (by rw [hspace]; decide), hpunctuation]
  dsimp only
  rw [if_neg (hne '\x22' (by decide)), hscalar]

end

end ApiConformance.Json
