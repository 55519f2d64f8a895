import Mathlib.Data.Set.Insert

/-!
Splitting texts at marks. Two texts that are the same, each a piece before the same mark
and a rest, have the same piece and the same rest as soon as neither piece can run on over
the mark.
-/
namespace ApiConformance

/-- A mark comes after every text that lacks it. -/
theorem eq_append_of_notMem {m : Char} {a r w z : List Char} (ha : m ∉ a)
    (h : a ++ r = w ++ m :: z) : ∃ w', w = a ++ w' ∧ r = w' ++ m :: z := by
  rcases List.append_eq_append_iff.mp h with ⟨w', hw, hr⟩ | ⟨b, hb, hz⟩
  · exact ⟨w', hw, hr⟩
  · cases b with
    | nil => exact ⟨[], by simpa using hb.symm, by simpa using hz.symm⟩
    | cons c b =>
      obtain ⟨rfl, -⟩ := List.cons.inj hz
      exact absurd (by simp [hb]) ha

/-- Two names before the same mark are one, if a name cannot run on over the mark. -/
theorem eq_of_append_mark_eq {S : Set Char} {m : Char} {ms a b r s : List Char}
    (hms : m ∉ ms) (ha : ∀ c ∈ a, c ∈ S) (hb : ∀ c ∈ b, c ∈ S)
    (hr : ∀ w z, (∀ c ∈ m :: ms ++ w, c ∈ S) → r ≠ w ++ m :: (ms ++ z))
    (hs : ∀ w z, (∀ c ∈ m :: ms ++ w, c ∈ S) → s ≠ w ++ m :: (ms ++ z))
    (h : a ++ m :: (ms ++ r) = b ++ m :: (ms ++ s)) : a = b ∧ r = s := by
  -- The longer name is the shorter one, the mark and then more: that is where it runs on.
  have longer {a b r s : List Char} {w : List Char} (hb : ∀ c ∈ b, c ∈ S)
      (hr : ∀ w z, (∀ c ∈ m :: ms ++ w, c ∈ S) → r ≠ w ++ m :: (ms ++ z))
      (hw : b = a ++ w) (h : m :: (ms ++ r) = w ++ m :: (ms ++ s)) : a = b ∧ r = s := by
    cases w with
    | nil => simp_all
    | cons c w =>
      obtain ⟨rfl, hrest⟩ := List.cons.inj h
      obtain ⟨w', rfl, hr'⟩ := eq_append_of_notMem hms hrest
      exact absurd hr' (hr w' s fun c hc => hb c (by rw [hw]; exact List.mem_append_right a hc))
  rcases List.append_eq_append_iff.mp h with ⟨w, hw, h⟩ | ⟨w, hw, h⟩
  · exact longer hb hr hw h
  · obtain ⟨rfl, rfl⟩ := longer ha hs hw h
    exact ⟨rfl, rfl⟩

/-- Two names before a mark that is in no name are one. -/
theorem eq_of_append_cons_eq {S : Set Char} {m : Char} (hm : m ∉ S) {a b r s : List Char}
    (ha : ∀ c ∈ a, c ∈ S) (hb : ∀ c ∈ b, c ∈ S) (h : a ++ m :: r = b ++ m :: s) :
    a = b ∧ r = s := by
  have hnever (r w z : List Char) (hw : ∀ c ∈ m :: [] ++ w, c ∈ S) : r ≠ w ++ m :: ([] ++ z) :=
    absurd (hw m (by simp)) hm
  exact eq_of_append_mark_eq (by simp) ha hb (hnever r) (hnever s) h

/-- Texts up to the first character of another kind are the same. -/
theorem eq_of_append_eq_of_all {p : Char → Bool} {a b r s : List Char}
    (ha : ∀ c ∈ a, p c) (hb : ∀ c ∈ b, p c) (hr : ∀ c ∈ r.head?, ¬ p c)
    (hs : ∀ c ∈ s.head?, ¬ p c) (h : a ++ r = b ++ s) : a = b ∧ r = s := by
  rcases List.append_eq_append_iff.mp h with ⟨w, rfl, rfl⟩ | ⟨w, rfl, rfl⟩
  all_goals
    cases w with
    | nil => simp
    | cons c w => simp_all

theorem intercalate_cons (sep a : List Char) (as : List (List Char)) :
    sep.intercalate (a :: as) = a ++ as.flatMap (sep ++ ·) := by
  induction as generalizing a with
  | nil => simp
  | cons b as ih =>
    rw [List.intercalate_cons_cons, ih, List.flatMap_cons, List.append_assoc, List.append_assoc]

section Several

variable {α β : Type} {text text' : α → List Char} {out out' : α → β} {sep : Char}
  {Good : List Char → Prop} {as bs : List α} {r s : List Char}

theorem good_flatMap_append (hsep : ∀ r, Good (sep :: r)) (as : List α) (hr : Good r) :
    Good ((as.map text).flatMap ([sep] ++ ·) ++ r) := by
  cases as with
  | nil => exact hr
  | cons a as => exact hsep _

theorem map_eq_of_flatMap_eq
    (hread : ∀ a ∈ as, ∀ b ∈ bs, ∀ r s, Good r → Good s → text a ++ r = text' b ++ s →
      out a = out' b ∧ r = s)
    (hsep : ∀ r, Good (sep :: r)) (hr : Good r) (hs : Good s)
    (hrsep : ∀ z, r ≠ sep :: z) (hssep : ∀ z, s ≠ sep :: z)
    (h : (as.map text).flatMap ([sep] ++ ·) ++ r = (bs.map text').flatMap ([sep] ++ ·) ++ s) :
    as.map out = bs.map out' ∧ r = s := by
  induction as generalizing bs with
  | nil =>
    cases bs with
    | nil => exact ⟨rfl, h⟩
    | cons b bs => exact absurd h (hrsep _)
  | cons a as ih =>
    cases bs with
    | nil => exact absurd h.symm (hssep _)
    | cons b bs =>
      simp only [List.map_cons, List.flatMap_cons, List.append_assoc, List.cons_append,
        List.nil_append, List.cons.injEq, true_and] at h
      obtain ⟨hab, h⟩ := hread a (.head as) b (.head bs) _ _
        (good_flatMap_append hsep as hr) (good_flatMap_append hsep bs hs) h
      obtain ⟨hout, hrs⟩ := ih (fun a ha b hb => hread a (.tail _ ha) b (.tail _ hb)) h
      exact ⟨by rw [List.map_cons, List.map_cons, hab, hout], hrs⟩

/-- The text of several things, with a mark between each and the next, is read back if the
text of each is. -/
theorem map_eq_of_intercalate_eq
    (hread : ∀ a ∈ as, ∀ b ∈ bs, ∀ r s, Good r → Good s → text a ++ r = text' b ++ s →
      out a = out' b ∧ r = s)
    (hsep : ∀ r, Good (sep :: r)) (hr : Good r) (hs : Good s)
    (hrsep : ∀ z, r ≠ sep :: z) (hssep : ∀ z, s ≠ sep :: z)
    (hrbs : ∀ b ∈ bs, ∀ z, r ≠ text' b ++ z) (hsas : ∀ a ∈ as, ∀ z, s ≠ text a ++ z)
    (h : [sep].intercalate (as.map text) ++ r = [sep].intercalate (bs.map text') ++ s) :
    as.map out = bs.map out' ∧ r = s := by
  cases as with
  | nil =>
    cases bs with
    | nil => exact ⟨rfl, h⟩
    | cons b bs =>
      rw [List.map_cons, intercalate_cons, List.append_assoc] at h
      exact absurd h (hrbs b (.head bs) _)
  | cons a as =>
    cases bs with
    | nil =>
      rw [List.map_cons, intercalate_cons, List.append_assoc] at h
      exact absurd h.symm (hsas a (.head as) _)
    | cons b bs =>
      rw [List.map_cons, List.map_cons, intercalate_cons, intercalate_cons, List.append_assoc,
        List.append_assoc] at h
      obtain ⟨hab, h⟩ := hread a (.head as) b (.head bs) _ _
        (good_flatMap_append hsep as hr) (good_flatMap_append hsep bs hs) h
      obtain ⟨hout, hrs⟩ := map_eq_of_flatMap_eq
        (fun a ha b hb => hread a (.tail _ ha) b (.tail _ hb)) hsep hr hs hrsep hssep h
      exact ⟨by rw [List.map_cons, List.map_cons, hab, hout], hrs⟩

end Several

end ApiConformance
