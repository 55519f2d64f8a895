import Mathlib.Data.List.TakeWhile
import ApiConformance.Text.Lines

/-!
Texts with the same lines, whatever ends them. Such texts go together character by character up
to the first line end, so what is read from within a line is read from both.
-/
namespace ApiConformance.Text

/-- The characters that end lines, alone or as a pair. -/
def IsLineEnd (c : Char) : Prop := c = '\r' ∨ c = '\n'

instance : DecidablePred IsLineEnd := fun c => inferInstanceAs (Decidable (c = '\r' ∨ c = '\n'))

/-! ### Unifying line ends -/

theorem unifyNewlines_cons {c : Char} (hc : c ≠ '\r') (cs : List Char) :
    unifyNewlines (c :: cs) = c :: unifyNewlines cs := by
  simp [unifyNewlines, hc]

/-- What follows a carriage return is the next line, but for a line feed that belongs to it. -/
theorem unifyNewlines_return (cs : List Char) :
    ∃ r, unifyNewlines ('\r' :: cs) = '\n' :: unifyNewlines r ∧ (cs = r ∨ cs = '\n' :: r) := by
  cases cs with
  | nil => exact ⟨[], rfl, .inl rfl⟩
  | cons c cs =>
    by_cases hc : c = '\n'
    · subst hc
      exact ⟨cs, rfl, .inr rfl⟩
    · exact ⟨c :: cs, by simp [unifyNewlines, hc], .inl rfl⟩

theorem unifyNewlines_lineEnd {c : Char} (hc : IsLineEnd c) (cs : List Char) :
    ∃ r, unifyNewlines (c :: cs) = '\n' :: unifyNewlines r ∧ (cs = r ∨ cs = '\n' :: r) := by
  rcases hc with rfl | rfl
  · exact unifyNewlines_return cs
  · exact ⟨cs, unifyNewlines_cons (by decide) cs, .inl rfl⟩

theorem return_notMem_unifyNewlines (cs : List Char) : '\r' ∉ unifyNewlines cs := by
  fun_induction unifyNewlines cs with
  | case1 => exact List.not_mem_nil
  | case2 rest ih => simpa using ih
  | case3 c rest _ ih =>
    rw [List.mem_cons, not_or]
    refine ⟨?_, ih⟩
    split
    · decide
    · exact fun h => absurd h.symm ‹_›

theorem unifyNewlines_of_notMem {cs : List Char} (h : '\r' ∉ cs) : unifyNewlines cs = cs := by
  induction cs with
  | nil => rfl
  | cons c cs ih =>
    rw [List.mem_cons, not_or] at h
    rw [unifyNewlines_cons (Ne.symm h.1), ih h.2]

/-- The texts have the same lines. -/
def SameLines (cs ds : List Char) : Prop := unifyNewlines cs = unifyNewlines ds

theorem SameLines.symm {cs ds : List Char} (h : SameLines cs ds) : SameLines ds cs := Eq.symm h

theorem SameLines.cons {c : Char} {cs ds : List Char} (hc : ¬ IsLineEnd c) (h : SameLines cs ds) :
    SameLines (c :: cs) (c :: ds) := by
  have hreturn : c ≠ '\r' := fun h => hc (.inl h)
  rw [SameLines, unifyNewlines_cons hreturn, unifyNewlines_cons hreturn, h]

theorem sameLines_unifyNewlines (cs : List Char) : SameLines (unifyNewlines cs) cs :=
  unifyNewlines_of_notMem (return_notMem_unifyNewlines cs)

/-! ### Going together -/

/-- Texts go together: both are at their end, or at the end of a line, or at the same character of
a line. -/
inductive Together : List Char → List Char → Prop where
  | nil : Together [] []
  | lineEnd {c d : Char} {cs ds : List Char} (hc : IsLineEnd c) (hd : IsLineEnd d) :
      Together (c :: cs) (d :: ds)
  | cons {c : Char} {cs ds : List Char} (hc : ¬ IsLineEnd c) (h : SameLines cs ds) :
      Together (c :: cs) (c :: ds)

/-- What a text begins with once its line ends are made alike. -/
theorem unifyNewlines_head (c : Char) (cs : List Char) :
    (IsLineEnd c ∧ ∃ r, unifyNewlines (c :: cs) = '\n' :: r) ∨
      ¬ IsLineEnd c ∧ unifyNewlines (c :: cs) = c :: unifyNewlines cs := by
  by_cases hc : IsLineEnd c
  · obtain ⟨r, hr, -⟩ := unifyNewlines_lineEnd hc cs
    exact .inl ⟨hc, _, hr⟩
  · exact .inr ⟨hc, unifyNewlines_cons (fun h => hc (.inl h)) cs⟩

theorem unifyNewlines_ne_nil (c : Char) (cs : List Char) : unifyNewlines (c :: cs) ≠ [] := by
  intro h
  rcases unifyNewlines_head c cs with ⟨-, r, hr⟩ | ⟨-, hr⟩ <;> rw [h] at hr <;> cases hr

theorem SameLines.together {cs ds : List Char} (h : SameLines cs ds) : Together cs ds := by
  unfold SameLines at h
  cases cs with
  | nil =>
    cases ds with
    | nil => exact .nil
    | cons d ds => exact absurd h.symm (unifyNewlines_ne_nil d ds)
  | cons c cs =>
    cases ds with
    | nil => exact absurd h (unifyNewlines_ne_nil c cs)
    | cons d ds =>
      rcases unifyNewlines_head c cs with ⟨hc, r, hr⟩ | ⟨hc, hr⟩ <;>
        rcases unifyNewlines_head d ds with ⟨hd, s, hs⟩ | ⟨hd, hs⟩ <;> rw [hr, hs] at h
      · exact .lineEnd hc hd
      · exact absurd (.inr (List.cons.inj h).1.symm) hd
      · exact absurd (.inr (List.cons.inj h).1) hc
      · obtain ⟨rfl, hrest⟩ := List.cons.inj h
        exact .cons hc hrest

theorem SameLines.cons_left {c : Char} {cs ds : List Char} (h : SameLines (c :: cs) ds)
    (hc : ¬ IsLineEnd c) : ∃ ds', ds = c :: ds' ∧ SameLines cs ds' := by
  cases h.together with
  | lineEnd hc' _ => exact absurd hc' hc
  | cons _ htail => exact ⟨_, rfl, htail⟩

theorem SameLines.append_left {w cs ds : List Char} (h : SameLines (w ++ cs) ds)
    (hw : ∀ c ∈ w, ¬ IsLineEnd c) : ∃ ds', ds = w ++ ds' ∧ SameLines cs ds' := by
  induction w generalizing ds with
  | nil => exact ⟨ds, rfl, h⟩
  | cons c w ih =>
    obtain ⟨hc, hw⟩ := List.forall_mem_cons.mp hw
    obtain ⟨rest, rfl, hrest⟩ := h.cons_left hc
    obtain ⟨ds', rfl, hds⟩ := ih hrest hw
    exact ⟨ds', rfl, hds⟩

theorem SameLines.isPrefixOf_eq {w cs ds : List Char} (h : SameLines cs ds)
    (hw : ∀ c ∈ w, ¬ IsLineEnd c) : w.isPrefixOf cs = w.isPrefixOf ds := by
  have hbegins {cs ds : List Char} (h : SameLines cs ds) (hcs : w <+: cs) : w <+: ds := by
    obtain ⟨cs, rfl⟩ := hcs
    obtain ⟨ds, rfl, -⟩ := h.append_left hw
    exact List.prefix_append w ds
  rw [Bool.eq_iff_iff, List.isPrefixOf_iff_prefix, List.isPrefixOf_iff_prefix]
  exact ⟨hbegins h, hbegins h.symm⟩

theorem SameLines.takeWhile_eq {p : Char → Bool} (hp : ∀ c, p c = true → ¬ IsLineEnd c)
    {cs ds : List Char} (h : SameLines cs ds) : cs.takeWhile p = ds.takeWhile p := by
  have hstop {c : Char} (hc : IsLineEnd c) : ¬ p c = true := fun hpc => hp c hpc hc
  induction cs generalizing ds with
  | nil =>
    cases h.together
    rfl
  | cons c cs ih =>
    cases h.together with
    | lineEnd hc hd =>
      rw [List.takeWhile_cons_of_neg (hstop hc), List.takeWhile_cons_of_neg (hstop hd)]
    | cons _ htail => rw [List.takeWhile_cons, List.takeWhile_cons, ih htail]

/-! ### Within a line -/

/-- The first characters, so many, stand in one line. -/
def WithinLine (n : Nat) (cs : List Char) : Prop := ∀ c ∈ cs.take n, ¬ IsLineEnd c

namespace WithinLine

variable {m n : Nat} {c : Char} {cs ds : List Char}

@[simp] theorem zero (cs : List Char) : WithinLine 0 cs := by
  rw [WithinLine, List.take_zero]
  exact List.forall_mem_nil _

@[simp] theorem cons_iff : WithinLine (n + 1) (c :: cs) ↔ ¬ IsLineEnd c ∧ WithinLine n cs := by
  rw [WithinLine, List.take_succ_cons, List.forall_mem_cons, WithinLine]

theorem tail (h : WithinLine n (c :: cs)) : WithinLine (n - 1) cs := by
  cases n with
  | zero => exact .zero cs
  | succ n => exact (cons_iff.mp h).2

theorem add (hm : WithinLine m cs) (hn : WithinLine n (cs.drop m)) : WithinLine (m + n) cs := by
  rw [WithinLine, List.take_add, List.forall_mem_append]
  exact ⟨hm, hn⟩

theorem of_begins {w : List Char} (hw : ∀ c ∈ w, ¬ IsLineEnd c) (h : w <+: cs) :
    WithinLine w.length cs := by
  rw [WithinLine, ← List.prefix_iff_eq_take.mp h]
  exact hw

theorem takeWhile {p : Char → Bool} (hp : ∀ c, p c = true → ¬ IsLineEnd c) (cs : List Char) :
    WithinLine (cs.takeWhile p).length cs :=
  of_begins (fun c hc => hp c (List.mem_takeWhile_imp hc)) (List.takeWhile_prefix p)

/-- Texts go together beyond what stands in one line. -/
theorem sameLines_drop (hn : WithinLine n cs) (h : SameLines cs ds) :
    SameLines (cs.drop n) (ds.drop n) := by
  induction n generalizing cs ds with
  | zero => exact h
  | succ n ih =>
    cases h.together with
    | nil => rfl
    | lineEnd hc => exact absurd hc (cons_iff.mp hn).1
    | cons _ htail => exact ih (cons_iff.mp hn).2 htail

end WithinLine

end ApiConformance.Text
