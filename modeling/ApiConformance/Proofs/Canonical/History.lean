import Mathlib.Data.Finset.Card
import ApiConformance.Proofs.Canonical.TwoPass
import ApiConformance.Proofs.Lookup

/-!
What a numbering tells of the calls that made it. Whatever was asked in between, variables
have the numbers in which they first came up: each has as its number how many others came up
before it. Entries stay where they are, and only a variable that is new adds one.
-/
namespace ApiConformance.Numbering

/-! ### First occurrences -/

/-- The variables that first occur before a given one does. -/
def earlier (ids : List Int) (id : Int) : Finset Int :=
  ids.toFinset.filter fun other => ids.idxOf other < ids.idxOf id

/-- What comes later matters to no variable that has occurred. -/
theorem earlier_append {ids : List Int} {id : Int} (h : id ∈ ids) (more : List Int) :
    earlier (ids ++ more) id = earlier ids id := by
  ext other
  simp only [earlier, Finset.mem_filter, List.mem_toFinset, List.mem_append]
  rw [List.idxOf_append_of_mem h]
  by_cases hother : other ∈ ids
  · rw [List.idxOf_append_of_mem hother]
    simp [hother]
  · have hid : ids.idxOf id < ids.length := List.idxOf_lt_length_of_mem h
    have hlater : (ids ++ more).idxOf other = more.idxOf other + ids.length := by
      rw [List.idxOf_append, if_neg hother]
    simp only [hother, false_or, false_and, iff_false, not_and]
    omega

theorem earlier_append_new {ids : List Int} {id : Int} (h : id ∉ ids) :
    earlier (ids ++ [id]) id = ids.toFinset := by
  have hlast : (ids ++ [id]).idxOf id = ids.length := by
    rw [List.idxOf_append, if_neg h]
    simp
  ext other
  simp only [earlier, Finset.mem_filter, List.mem_toFinset, List.mem_append, hlast]
  constructor
  · rintro ⟨hother | hother, hlt⟩
    · exact hother
    · rw [List.mem_singleton.mp hother, hlast] at hlt
      exact absurd hlt (lt_irrefl _)
  · intro hother
    rw [List.idxOf_append_of_mem hother]
    exact ⟨.inl hother, List.idxOf_lt_length_of_mem hother⟩

/-! ### Numbers by first occurrence -/

/-- The numbering knows the variables met in this order, each under the number of those that first
occur before it, and no others. -/
structure Records (s : Numbering) (ids : List Int) : Prop where
  next : s.next = ids.toFinset.card
  met : ∀ id ∈ ids, s.get? id = some (earlier ids id).card
  unmet : ∀ id ∉ ids, s.get? id = none

theorem records_empty : Records empty [] where
  next := rfl
  met _ h := nomatch h
  unmet _ _ := rfl

theorem Records.resolve_known {s : Numbering} {ids : List Int} (hs : s.Records ids) {id : Int}
    (h : id ∈ ids) : (s.resolve id).2.Records (ids ++ [id]) := by
  rw [resolve_of_get? (hs.met id h)]
  have hmem (other : Int) : other ∈ ids ++ [id] ↔ other ∈ ids := by
    rw [List.mem_append, List.mem_singleton, or_iff_left_of_imp]
    rintro rfl
    exact h
  refine ⟨?_, fun other hother => ?_, fun other hother => ?_⟩
  · rw [hs.next]
    congr 1
    ext other
    rw [List.mem_toFinset, List.mem_toFinset, hmem]
  · rw [hmem] at hother
    rw [earlier_append hother, hs.met other hother]
  · rw [hmem] at hother
    exact hs.unmet other hother

theorem Records.resolve_new {s : Numbering} {ids : List Int} (hs : s.Records ids) {id : Int}
    (h : id ∉ ids) : (s.resolve id).2.Records (ids ++ [id]) := by
  have hresolve := resolve_of_get?_none (hs.unmet id h)
  refine ⟨?_, fun other hother => ?_, fun other hother => ?_⟩
  · have hfinset : (ids ++ [id]).toFinset = insert id ids.toFinset := by
      ext other
      simp
    rw [hfinset, Finset.card_insert_of_notMem (by rwa [List.mem_toFinset]), hresolve, hs.next]
  · by_cases hne : other = id
    · subst hne
      rw [get?_resolve, earlier_append_new h, hresolve, hs.next]
    · have hold : other ∈ ids := by simpa [hne] using hother
      rw [get?_resolve_of_ne s hne, earlier_append hold, hs.met other hold]
  · rw [List.mem_append, List.mem_singleton, not_or] at hother
    rw [get?_resolve_of_ne s hother.2, hs.unmet other hother.1]

/-- Meeting one variable more. -/
theorem Records.resolve {s : Numbering} {ids : List Int} (hs : s.Records ids) (id : Int) :
    (s.resolve id).2.Records (ids ++ [id]) := by
  by_cases h : id ∈ ids
  · exact hs.resolve_known h
  · exact hs.resolve_new h

theorem Records.meet {s : Numbering} {ids : List Int} (hs : s.Records ids) (more : List Int) :
    (s.meet more).Records (ids ++ more) := by
  induction more generalizing s ids with
  | nil => rwa [List.append_nil]
  | cons id more ih => simpa using ih (hs.resolve id)

/-! ### Entries -/

theorem ids_prefix_resolve (s : Numbering) (id : Int) : s.ids <+: (s.resolve id).2.ids := by
  cases h : s.get? id with
  | some n => rw [resolve_of_get? h]
  | none =>
    rw [resolve_of_get?_none h]
    exact List.prefix_append _ _

theorem ids_prefix_meet (s : Numbering) (ids : List Int) : s.ids <+: (s.meet ids).ids := by
  induction ids generalizing s with
  | nil => exact List.prefix_rfl
  | cons id ids ih => exact (s.ids_prefix_resolve id).trans (ih _)

/-- Only a variable without a number makes a difference. -/
theorem meet_eq_self_iff {s : Numbering} {ids : List Int} :
    s.meet ids = s ↔ ∀ id ∈ ids, ∃ n, s.get? id = some n := by
  constructor
  · intro h id hid
    have hnumber := get?_meet_of_mem (s := s) hid
    rwa [h] at hnumber
  · intro h
    induction ids with
    | nil => rfl
    | cons id ids ih =>
      obtain ⟨⟨n, hn⟩, hids⟩ := List.forall_mem_cons.mp h
      rw [meet_cons, resolve_of_get? hn, ih hids]

theorem Dense.next_eq_length {s : Numbering} (hs : s.Dense) : s.next = s.ids.length := by
  have hlength := congrArg List.length hs.numbers
  rw [List.length_map, List.length_range] at hlength
  exact hlength.symm

theorem Dense.exists_get?_iff {s : Numbering} (hs : s.Dense) {n : Nat} :
    (∃ id, s.get? id = some n) ↔ n < s.next := by
  rw [← List.mem_range, ← hs.numbers, List.mem_map]
  constructor
  · rintro ⟨id, hid⟩
    exact ⟨(id, n), mem_ids_of_get? hid, rfl⟩
  · rintro ⟨⟨id, n⟩, hentry, rfl⟩
    exact ⟨id, (Table.mem_iff_lookup_of_nodup hs.nodup).mp hentry⟩

/-! ### Calls -/

/-- What a numbering can be asked: the number of a variable, or the key of something. -/
inductive Call where
  | resolve (id : Int)
  | type (t : TypeExpr)
  | parameter (p : Parameter)
  | constructor (c : Constructor)

/-- The variables that a call meets, in their order. -/
def Call.ids : Call → List Int
  | .resolve id => [id]
  | .type t => t.ids
  | .parameter p => p.ids
  | .constructor c => c.ids

/-- The numbering that a call hands on. -/
def Call.run (s : Numbering) : Call → Numbering
  | .resolve id => (s.resolve id).2
  | .type t => (t.key s).2
  | .parameter p => (p.key s).2
  | .constructor c => (c.key s).2

/-- The numbering after calls are made in turn, the first of them on the empty one. -/
def after (calls : List Call) : Numbering := calls.foldl Call.run empty

theorem Call.run_eq_meet (s : Numbering) (call : Call) : call.run s = s.meet call.ids := by
  cases call with
  | resolve id => rfl
  | type t => rw [run, t.key_eq_render, ids]
  | parameter p => rw [run, p.key_eq_render, ids]
  | constructor c => rw [run, c.key_eq_render, ids]

theorem foldl_run (calls : List Call) (s : Numbering) :
    calls.foldl Call.run s = s.meet (calls.flatMap Call.ids) := by
  induction calls generalizing s with
  | nil => rfl
  | cons call calls ih =>
    rw [List.foldl_cons, ih, Call.run_eq_meet, List.flatMap_cons, meet_append]

/-- Numbers are given first come, first served: they are the first ones, each goes to one variable,
and a variable has as its number how many others occur before it. -/
structure FirstCome (s : Numbering) (ids : List Int) : Prop extends s.Dense, s.Records ids where
  next_eq : s.next = s.ids.length
  injective : ∀ id other n, s.get? id = some n → s.get? other = some n → id = other
  given : ∀ n, (∃ id, s.get? id = some n) ↔ n < s.next

theorem firstCome_after (calls : List Call) :
    (after calls).FirstCome (calls.flatMap Call.ids) := by
  have hafter : after calls = empty.meet (calls.flatMap Call.ids) := foldl_run calls empty
  have hdense : (after calls).Dense := hafter ▸ dense_empty.meet _
  have hrecords : (after calls).Records (calls.flatMap Call.ids) :=
    hafter ▸ records_empty.meet _
  exact ⟨hdense, hrecords, hdense.next_eq_length, fun _ _ _ => hdense.get?_inj,
    fun _ => hdense.exists_get?_iff⟩

/-- After any calls, numbers have been given first come, first served. Later calls leave the entries
as they are, at their places, and a call makes a difference just when it meets a variable that no
call before it met. -/
theorem after_invariant (calls : List Call) :
    (after calls).FirstCome (calls.flatMap Call.ids) ∧
    (∀ more, (after calls).ids <+: (after (calls ++ more)).ids) ∧
    ∀ call : Call, call.run (after calls) ≠ after calls ↔
      ∃ id ∈ call.ids, id ∉ calls.flatMap Call.ids := by
  have hfirst := firstCome_after calls
  refine ⟨hfirst, fun more => ?_, fun call => ?_⟩
  · have hmore : after (calls ++ more) = (after calls).meet (more.flatMap Call.ids) := by
      rw [after, List.foldl_append, foldl_run more]
      rfl
    rw [hmore]
    exact ids_prefix_meet _ _
  · have hknown (id : Int) :
        (∃ n, (after calls).get? id = some n) ↔ id ∈ calls.flatMap Call.ids := by
      constructor
      · rintro ⟨n, hn⟩
        by_contra hid
        rw [hfirst.unmet id hid] at hn
        cases hn
      · exact fun hid => ⟨_, hfirst.met id hid⟩
    rw [Ne, Call.run_eq_meet, meet_eq_self_iff]
    simp only [hknown, not_forall, exists_prop]

/-- A function type meets its parameters first; what was met before keeps its number. -/
example : after [.resolve 7, .type (.fn [.variable 3, .variable 7] (.variable 5)),
    .parameter ⟨none, .variable 3⟩] = ⟨[(7, 0), (3, 1), (5, 2)], 3⟩ := by decide

end ApiConformance.Numbering
