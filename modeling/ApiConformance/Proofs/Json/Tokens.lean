import Mathlib.Data.List.Infix
import ApiConformance.Json.Token

/-! Where the tokens of a text come from: each is read at some place of the text, in one of a few
ways, whatever came before it. -/
namespace ApiConformance.Json

/-- An escape of four hexadecimal digits begins somewhere. -/
def HasEscape (text : List Char) : Prop := ['\\', 'u'] <:+: text

theorem HasEscape.of_suffix {cs text : List Char} (h : HasEscape cs) (hcs : cs <:+ text) :
    HasEscape text := h.trans hcs.isInfix

theorem readEscape_surrogate {start offset code length : Nat} {cs : List Char}
    (h : readEscape start offset cs = .ok (code, length)) (hcode : Text.isSurrogate code = true) :
    ∃ rest, cs = 'u' :: rest := by
  unfold readEscape at h
  split at h
  · cases h
  next rest => exact ⟨rest, rfl⟩
  · split at h
    next c _ =>
      cases h
      rw [Text.isSurrogate_toNat] at hcode
      cases hcode
    · cases h

/-- Halves of surrogate pairs come from escapes. -/
theorem hasEscape_of_readText {start skip offset next : Nat} {done codes : List Nat}
    {cs : List Char} (h : readText start skip offset done cs = .ok (codes, next))
    (hdone : done.any Text.isSurrogate = false) (hcodes : codes.any Text.isSurrogate = true) :
    HasEscape cs := by
  induction cs generalizing skip offset done with
  | nil => cases h
  | cons c rest ih =>
    have hrest {skip offset : Nat} {done : List Nat}
        (h : readText start skip offset done rest = .ok (codes, next))
        (hdone : done.any Text.isSurrogate = false) : HasEscape (c :: rest) :=
      (ih h hdone).of_suffix (List.suffix_cons c rest)
    cases skip with
    | succ skip => exact hrest h hdone
    | zero =>
      rw [readText] at h
      split at h
      · cases h
        rw [hdone] at hcodes
        cases hcodes
      · split at h
        next hbackslash =>
          split at h
          · cases h
          next code length hescape =>
            cases hcode : Text.isSurrogate code with
            | false => exact hrest h (by rw [List.any_cons, hcode, hdone, Bool.or_self])
            | true =>
              -- the first half that is read shows where there is an escape
              obtain ⟨more, rfl⟩ := readEscape_surrogate hescape hcode
              rw [hbackslash]
              exact (List.prefix_append ['\\', 'u'] more).isInfix
        · split at h
          · cases h
          · exact hrest h (by rw [List.any_cons, Text.isSurrogate_toNat, hdone, Bool.or_self])

/-! ### Tokens -/

/-- Punctuation holds no failure, no value and no text. -/
theorem punctuation?_ne {c : Char} {token : Token} (h : punctuation? c = some token) :
    (∀ f, token ≠ .bad f) ∧ (∀ v, token ≠ .value v) ∧ ∀ s torn, token ≠ .text s torn := by
  unfold punctuation? at h
  repeat' split at h
  all_goals cases h
  all_goals simp

inductive Token.ComesFrom (cs : List Char) : Token → Prop where
  | stop : ComesFrom cs .stop
  | unknown : ComesFrom cs .unknown
  | text (s : String) {torn : Bool} (escape : torn = true → HasEscape cs) :
      ComesFrom cs (.text s torn)
  | badText {start offset : Nat} {rest : List Char} {f : Failure}
      (h : readText start 0 offset [] rest = .error f) : ComesFrom cs (.bad f)
  | punctuation {c : Char} {token : Token} (h : punctuation? c = some token) : ComesFrom cs token
  | scalar {offset length : Nat} {rest : List Char} {token : Token} (suffix : rest <:+ cs)
      (h : readScalar offset rest = some (token, length)) : ComesFrom cs token

theorem Token.ComesFrom.of_suffix {cs text : List Char} {t : Token} (h : t.ComesFrom cs)
    (hcs : cs <:+ text) : t.ComesFrom text := by
  cases h with
  | stop => exact .stop
  | unknown => exact .unknown
  | text s escape => exact .text s fun htorn => (escape htorn).of_suffix hcs
  | badText h => exact .badText h
  | punctuation h => exact .punctuation h
  | scalar suffix h => exact .scalar (suffix.trans hcs) h

theorem comesFrom_of_mem_tokens {skip offset : Nat} {cs : List Char} {p : Placed}
    (hp : p ∈ tokens skip offset cs) : p.token.ComesFrom cs := by
  induction cs generalizing skip offset with
  | nil =>
    cases List.mem_singleton.mp hp
    exact .stop
  | cons c rest ih =>
    have hrest {skip offset : Nat} (h : p ∈ tokens skip offset rest) :
        p.token.ComesFrom (c :: rest) := (ih h).of_suffix (List.suffix_cons c rest)
    cases skip with
    | succ skip => exact hrest hp
    | zero =>
      rw [tokens] at hp
      split at hp
      · exact hrest hp
      · split at hp
        next htoken =>
          rcases List.mem_cons.mp hp with rfl | hp
          · exact .punctuation htoken
          · exact hrest hp
        · split at hp
          · split at hp
            next htext =>
              cases List.mem_singleton.mp hp
              exact .badText htext
            next htext =>
              rcases List.mem_cons.mp hp with rfl | hp
              · exact .text _ fun htorn =>
                  (hasEscape_of_readText htext rfl htorn).of_suffix (List.suffix_cons c rest)
              · exact hrest hp
          · split at hp
            next hscalar =>
              cases List.mem_singleton.mp hp
              exact .scalar (List.suffix_refl _) hscalar
            next hscalar =>
              rcases List.mem_cons.mp hp with rfl | hp
              · exact .scalar (List.suffix_refl _) hscalar
              · exact hrest hp
            · cases List.mem_singleton.mp hp
              exact .unknown

/-! ### Numbers -/

theorem digits_prefix (cs : List Char) :
    let whole := match cs with
      | '0' :: _ => ['0']
      | _ => cs.takeWhile Text.isDigit
    whole <+: cs ∧ ∀ c ∈ whole, Text.isDigit c := by
  intro whole
  dsimp only [whole]
  split
  next tail =>
    refine ⟨⟨tail, rfl⟩, fun c hc => ?_⟩
    rw [List.mem_singleton.mp hc]
    decide
  next => exact ⟨List.takeWhile_prefix _, List.all_eq_true.mp List.all_takeWhile⟩

theorem Numeral.whole_of_read {cs : List Char} {n : Numeral} (h : Numeral.read cs = some n) :
    n.whole <:+: cs ∧ ∀ c ∈ n.whole, Text.isDigit c := by
  unfold Numeral.read at h
  split at h
  rename_i negative sign _
  extract_lets unsigned whole rest fraction point at h
  have hwhole : whole <+: unsigned ∧ ∀ c ∈ whole, Text.isDigit c := digits_prefix unsigned
  have hpart : whole <:+: cs := hwhole.1.isInfix.trans (List.drop_suffix sign cs).isInfix
  split at h
  · cases h
  · split at h
    all_goals
      cases h
      exact ⟨hpart, hwhole.2⟩

end ApiConformance.Json
