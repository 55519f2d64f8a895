import ApiConformance.Proofs.Json.Stops
import ApiConformance.Proofs.Json.WithinLines

/-!
JSON texts with the same lines hold the same. Between tokens a line end is white space, and no
token goes on beyond one. So the tokens of two such texts are alike, and the reader goes through
the same states on both.
-/
namespace ApiConformance.Json

open Text

/-! ### Alike tokens -/

/-- Tokens that are the same but for what is wrong with their grammar and where. -/
inductive Token.Alike : Token → Token → Prop where
  | same (t : Token) : Alike t t
  | bad {f g : Failure} (h : f.stop? = g.stop?) : Alike (.bad f) (.bad g)

section

variable {cs ds : List Char}

theorem readScalar_of_word {word : List Char} {value : Value}
    (h : words.find? (fun (word, _) => word.isPrefixOf cs) = some (word, value)) (offset : Nat) :
    readScalar offset cs = some (.value value, word.length) := by
  rw [readScalar, h]

theorem readScalar_of_noWord (h : words.find? (fun (word, _) => word.isPrefixOf cs) = none)
    (offset : Nat) :
    readScalar offset cs = (Numeral.read cs).map fun n =>
      (match n.value with
        | .ok value => .value value
        | .error cause => .bad ⟨cause, offset⟩, n.length) := by
  rw [readScalar, h]
  cases Numeral.read cs with
  | none => rfl
  | some n =>
    dsimp only [Option.map_some]
    cases n.value <;> rfl

theorem readScalar_sameLines (h : SameLines cs ds) {offset length : Nat} {token : Token}
    (hread : readScalar offset cs = some (token, length)) (offset' : Nat) :
    WithinLine length cs ∧
      ∃ token', token.Alike token' ∧ readScalar offset' ds = some (token', length) := by
  cases hword : words.find? fun (word, _) => word.isPrefixOf cs with
  | some found =>
    obtain ⟨word, value⟩ := found
    have hword' := (find_words_sameLines h).symm.trans hword
    rw [readScalar_of_word hword] at hread
    cases hread
    have hbegins : word.isPrefixOf cs = true := by simpa using List.find?_some hword
    exact ⟨.of_begins (words_not_lineEnd _ (List.mem_of_find?_eq_some hword))
      (List.isPrefixOf_iff_prefix.mp hbegins), .value value, .same _,
      readScalar_of_word hword' offset'⟩
  | none =>
    have hword' := (find_words_sameLines h).symm.trans hword
    rw [readScalar_of_noWord hword] at hread
    obtain ⟨n, hn, heq⟩ := Option.map_eq_some_iff.mp hread
    rw [readScalar_of_noWord hword', ← Numeral.read_sameLines h, hn, Option.map_some]
    cases heq
    refine ⟨withinLine_numeral hn, _, ?_, rfl⟩
    cases n.value with
    | ok value => exact .same _
    | error cause => exact .bad rfl

theorem readScalar_none_sameLines (h : SameLines cs ds) {offset : Nat}
    (hread : readScalar offset cs = none) (offset' : Nat) : readScalar offset' ds = none := by
  rw [Option.eq_none_iff_forall_ne_some]
  rintro ⟨token, length⟩ hsome
  obtain ⟨-, token', -, hcs⟩ := readScalar_sameLines h.symm hsome offset
  rw [hread] at hcs
  cases hcs

/-! ### Tokens -/

theorem readText_error_sameLines (h : SameLines cs ds) {start offset : Nat} {done : List Nat}
    {f : Failure} (hread : readText start 0 offset done cs = .error f) (start' offset' : Nat) :
    ∃ g, f.stop? = g.stop? ∧ readText start' 0 offset' done ds = .error g := by
  cases hread' : readText start' 0 offset' done ds with
  | error g =>
    refine ⟨g, ?_, rfl⟩
    rw [readText_stop hread, readText_stop hread']
  | ok result =>
    obtain ⟨n, -, -, hcs⟩ := readText_sameLines h.symm hread'
    rw [hcs] at hread
    cases hread

theorem tokens_skip (skip offset : Nat) (cs : List Char) :
    ∃ offset', tokens skip offset cs = tokens 0 offset' (cs.drop skip) := by
  induction cs generalizing skip offset with
  | nil =>
    rw [List.drop_nil]
    exact ⟨offset, rfl⟩
  | cons c cs ih =>
    cases skip with
    | zero => exact ⟨offset, rfl⟩
    | succ skip =>
      rw [tokens, List.drop_succ_cons]
      exact ih skip (offset + 1)

theorem tokens_of_isSpace {c : Char} (hc : isSpace c = true) (offset : Nat) (cs : List Char) :
    tokens 0 offset (c :: cs) = tokens 0 (offset + 1) cs := by
  rw [tokens, if_pos hc]

/-- The tokens after the end of a line. -/
theorem tokens_lineEnd {c : Char} (hc : IsLineEnd c) (offset : Nat) (cs : List Char) :
    ∃ r offset', r.length ≤ cs.length ∧ unifyNewlines (c :: cs) = '\n' :: unifyNewlines r ∧
      tokens 0 offset (c :: cs) = tokens 0 offset' r := by
  have hspace : isSpace c = true := by rcases hc with rfl | rfl <;> rfl
  rw [tokens_of_isSpace hspace]
  obtain ⟨r, hr, rfl | rfl⟩ := unifyNewlines_lineEnd hc cs
  · exact ⟨cs, offset + 1, le_rfl, hr, rfl⟩
  · exact ⟨r, offset + 1 + 1, Nat.le_succ _, hr, tokens_of_isSpace rfl _ _⟩

def AlikeTokens (ps qs : List Placed) : Prop :=
  List.Forall₂ (fun p q => p.token.Alike q.token) ps qs

section

variable {rest rest' : List Char} (hrest : SameLines rest rest')
  (hskip : ∀ {n : Nat}, WithinLine n rest → ∀ offset offset',
    AlikeTokens (tokens n offset rest) (tokens n offset' rest'))
include hrest hskip

theorem tokens_text_sameLines (offset offset' : Nat) :
    AlikeTokens (tokens 0 offset ('\x22' :: rest)) (tokens 0 offset' ('\x22' :: rest')) := by
  have hspace : ¬ isSpace '\x22' = true := by decide
  have hpunctuation : punctuation? '\x22' = none := rfl
  rw [tokens, tokens, if_neg hspace, if_neg hspace, hpunctuation]
  dsimp only
  rw [if_pos rfl, if_pos rfl]
  cases hread : readText offset 0 (offset + 1) [] rest with
  | error f =>
    obtain ⟨g, hg, hread'⟩ := readText_error_sameLines hrest hread offset' (offset' + 1)
    rw [hread']
    exact .cons (.bad hg) .nil
  | ok result =>
    obtain ⟨read, next⟩ := result
    obtain ⟨n, rfl, hn, hread'⟩ := readText_sameLines hrest hread
    have hwidth (o : Nat) : o + 1 + n - o - 1 = n := by omega
    rw [hread']
    dsimp only
    rw [hwidth, hwidth]
    exact .cons (.same _) (hskip hn _ _)

theorem tokens_scalar_sameLines {c : Char} (hc : ¬ IsLineEnd c) (hspace : ¬ isSpace c = true)
    (hpunctuation : punctuation? c = none) (hquote : c ≠ '\x22') (offset offset' : Nat) :
    AlikeTokens (tokens 0 offset (c :: rest)) (tokens 0 offset' (c :: rest')) := by
  have hcs : SameLines (c :: rest) (c :: rest') := hrest.cons hc
  rw [tokens, tokens, if_neg hspace, if_neg hspace, hpunctuation]
  dsimp only
  rw [if_neg hquote, if_neg hquote]
  cases hread : readScalar offset (c :: rest) with
  | none =>
    rw [readScalar_none_sameLines hcs hread]
    exact .cons (.same _) .nil
  | some result =>
    obtain ⟨token, length⟩ := result
    obtain ⟨hn, token', halike, hread'⟩ := readScalar_sameLines hcs hread offset'
    rw [hread']
    cases halike with
    | bad hstop => exact .cons (.bad hstop) .nil
    | same =>
      cases token with
      | bad f => exact .cons (.same _) .nil
      | _ => exact .cons (.same _) (hskip hn.tail _ _)

end

/-- Texts with the same lines have the same tokens, at other places. -/
theorem tokens_sameLines (h : SameLines cs ds) (offset offset' : Nat) :
    AlikeTokens (tokens 0 offset cs) (tokens 0 offset' ds) := by
  induction hlength : cs.length using Nat.strong_induction_on generalizing cs ds offset offset' with
  | _ _ ih =>
    subst hlength
    cases h.together with
    | nil => exact .cons (.same _) .nil
    | @lineEnd c d rest rest' hc hd =>
      obtain ⟨r, _, hr, hunify, htokens⟩ := tokens_lineEnd hc offset rest
      obtain ⟨r', _, -, hunify', htokens'⟩ := tokens_lineEnd hd offset' rest'
      rw [htokens, htokens']
      have hrest : SameLines r r' := (List.cons.inj (hunify.symm.trans (h.trans hunify'))).2
      exact ih _ (Nat.lt_succ_of_le hr) hrest _ _ rfl
    | @cons c rest rest' hc hrest =>
      have hskip {n : Nat} (hn : WithinLine n rest) (o o' : Nat) :
          AlikeTokens (tokens n o rest) (tokens n o' rest') := by
        obtain ⟨_, htokens⟩ := tokens_skip n o rest
        obtain ⟨_, htokens'⟩ := tokens_skip n o' rest'
        rw [htokens, htokens']
        exact ih _ (Nat.lt_succ_of_le (List.drop_suffix n rest).length_le) (hn.sameLines_drop hrest)
          _ _ rfl
      by_cases hspace : isSpace c = true
      · rw [tokens_of_isSpace hspace, tokens_of_isSpace hspace]
        exact hskip (.zero rest) _ _
      · cases hpunctuation : punctuation? c with
        | some token =>
          rw [tokens, tokens, if_neg hspace, if_neg hspace, hpunctuation]
          exact .cons (.same token) (hskip (.zero rest) _ _)
        | none =>
          by_cases hquote : c = '\x22'
          · subst hquote
            exact tokens_text_sameLines hrest hskip _ _
          · exact tokens_scalar_sameLines hrest hskip hc hspace hpunctuation hquote _ _

end

theorem Token.Alike.isTorn_eq {p q : Placed} (h : p.token.Alike q.token) : p.isTorn = q.isTorn := by
  obtain ⟨token, offset⟩ := p
  obtain ⟨token', offset'⟩ := q
  cases h <;> rfl

/-- A text is torn alike in alike tokens. -/
theorem AlikeTokens.any_isTorn_eq {ps qs : List Placed} (h : AlikeTokens ps qs) :
    ps.any Placed.isTorn = qs.any Placed.isTorn := by
  induction h with
  | nil => rfl
  | cons hpq _ ih => rw [List.any_cons, List.any_cons, hpq.isTorn_eq, ih]

/-! ### The machine -/

section

variable (room : Nat) (stack : List Frame) {p q : Placed}

theorem beginValue_alike (h : p.token.Alike q.token) :
    (beginValue room stack p).mapError Failure.stop? =
      (beginValue room stack q).mapError Failure.stop? := by
  have hopened (b : Bracket) (offset offset' : Nat) (o : Outcome) :
      (openBracket room stack b offset o).mapError Failure.stop? =
        (openBracket room stack b offset' o).mapError Failure.stop? := by
    unfold openBracket
    split <;> rfl
  obtain ⟨token, offset⟩ := p
  obtain ⟨token', offset'⟩ := q
  cases h with
  | same =>
    cases token with
    | openList => exact hopened .list offset offset' _
    | openMap => exact hopened .map offset offset' _
    | _ => rfl
  | bad hstop => exact congrArg Except.error hstop

/-- Where a name has to stand, every integer is out of place. -/
theorem beginName_bad (entries : List (Atom × Value)) (f : Failure) (offset : Nat) :
    (beginName entries stack ⟨.bad f, offset⟩).mapError Failure.stop? = .error none := by
  cases h : beginName entries stack ⟨.bad f, offset⟩ with
  | error g => exact congrArg Except.error (beginName_stop h)
  | ok outcome =>
    simp only [beginName] at h
    split at h <;> cases h

theorem beginName_alike (entries : List (Atom × Value)) (h : p.token.Alike q.token) :
    (beginName entries stack p).mapError Failure.stop? =
      (beginName entries stack q).mapError Failure.stop? := by
  obtain ⟨token, offset⟩ := p
  obtain ⟨token', offset'⟩ := q
  cases h with
  | same =>
    cases token with
    | bad f => rw [beginName_bad, beginName_bad]
    | _ => rfl
  | bad => rw [beginName_bad, beginName_bad]

theorem continueAfter_alike (v : Value) (h : p.token.Alike q.token) :
    (continueAfter v stack p).mapError Failure.stop? =
      (continueAfter v stack q).mapError Failure.stop? := by
  obtain ⟨token, offset⟩ := p
  obtain ⟨token', offset'⟩ := q
  cases h with
  | same =>
    cases stack with
    | nil => cases token <;> rfl
    | cons frame => cases frame <;> cases token <;> rfl
  | bad =>
    cases stack with
    | nil => rfl
    | cons frame => cases frame <;> rfl

/-- The machine takes alike tokens alike, but for its complaints about the grammar. -/
theorem step_alike (goal : Goal) (h : p.token.Alike q.token) :
    (step room goal stack p).mapError Failure.stop? =
      (step room goal stack q).mapError Failure.stop? := by
  have hvalue := beginValue_alike room stack h
  have hname (entries : List (Atom × Value)) := beginName_alike stack entries h
  have hrest (v : Value) := continueAfter_alike stack v h
  obtain ⟨token, offset⟩ := p
  obtain ⟨token', offset'⟩ := q
  cases goal with
  | value => exact hvalue
  | name entries => exact hname entries
  | rest v => exact hrest v
  | itemOrEnd =>
    cases h with
    | same =>
      cases token with
      | closeList => rfl
      | _ => exact hvalue
    | bad => exact hvalue
  | nameOrEnd =>
    cases h with
    | same =>
      cases token with
      | closeMap => rfl
      | _ => exact hname []
    | bad => exact hname []
  | colon =>
    cases h with
    | same => cases token <;> rfl
    | bad => rfl

theorem run_alike {ps qs : List Placed} (goal : Goal) (h : AlikeTokens ps qs) :
    (run room goal stack ps).mapError Failure.stop? =
      (run room goal stack qs).mapError Failure.stop? := by
  induction h generalizing goal stack with
  | nil => rfl
  | @cons p q ps qs hpq _ ih =>
    have hstep := step_alike room stack goal hpq
    rw [run, run]
    cases hp : step room goal stack p <;> cases hq : step room goal stack q <;>
      rw [hp, hq] at hstep
    case error.error => exact congrArg Except.error (Except.error.inj hstep)
    case error.ok | ok.error => cases hstep
    case ok.ok outcome _ =>
      obtain rfl := Except.ok.inj hstep
      cases outcome with
      | finished => rfl
      | next goal stack => exact ih stack goal

end

theorem readValue_mapError (cs : List Char) (room : Nat) :
    (readValue cs room).mapError Failure.stop? =
    match (run room .value [] (tokens 0 0 cs)).mapError Failure.stop?,
      (tokens 0 0 cs).any Placed.isTorn with
    | .ok _, true => .error (some .halfPair)
    | result, _ => result := by
  simp only [readValue]
  rw [← List.isSome_find?]
  cases run room .value [] (tokens 0 0 cs) <;> cases (tokens 0 0 cs).find? Placed.isTorn <;> rfl

section

variable {cs ds : List Char} (h : SameLines cs ds) (room : Nat)

include h

theorem readValue_sameLines : (readValue cs room).mapError Failure.stop? =
    (readValue ds room).mapError Failure.stop? := by
  have htokens := tokens_sameLines h 0 0
  rw [readValue_mapError, readValue_mapError, run_alike room [] .value htokens,
    htokens.any_isTorn_eq]

/-- Texts with the same lines hold the same value, or none for the same reason as far as something
stops the reader. -/
theorem read_sameLines : (read cs room).mapError Failure.stop? =
    (read ds room).mapError Failure.stop? := by
  by_cases hmark : ∃ rest, cs = '\ufeff' :: rest
  · obtain ⟨rest, rfl⟩ := hmark
    obtain ⟨rest', rfl, -⟩ := h.cons_left (by decide)
    rfl
  · have hcs : ∀ rest, cs ≠ '\ufeff' :: rest := not_exists.mp hmark
    have hds : ∀ rest, ds ≠ '\ufeff' :: rest := by
      rintro rest rfl
      obtain ⟨rest', rfl, -⟩ := h.symm.cons_left (by decide)
      exact hcs rest' rfl
    rw [read_eq_readValue hcs, read_eq_readValue hds, readValue_sameLines h room]

end

end ApiConformance.Json
