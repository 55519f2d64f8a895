import Mathlib.Data.List.Nodup
import Mathlib.Data.Set.Function
import ApiConformance.Canonical.Numbering

/-!
How a numbering grows while variables are met. A number once given stays, and the
numbers given out are the ones from zero on, each to one variable. To rename the
variables beforehand renames the numbering and changes no number.
-/
namespace ApiConformance.Numbering

/-! ### Meeting one variable -/

@[simp] theorem get?_resolve (s : Numbering) (id : Int) :
    (s.resolve id).2.get? id = some (s.resolve id).1 := by
  cases h : s.get? id with
  | some n => rw [resolve_of_get? h, h]
  | none =>
    rw [resolve_of_get?_none h]
    unfold get? at h ⊢
    simp [List.lookup_append, h]

theorem get?_resolve_of_ne (s : Numbering) {id other : Int} (hne : other ≠ id) :
    (s.resolve id).2.get? other = s.get? other := by
  cases h : s.get? id with
  | some n => rw [resolve_of_get? h]
  | none =>
    rw [resolve_of_get?_none h]
    have hbeq : (other == id) = false := by simpa using hne
    simp [get?, List.lookup_append, List.lookup_cons, hbeq]

theorem get?_resolve_of_get? {s : Numbering} {id other : Int} {n : Nat}
    (h : s.get? other = some n) : (s.resolve id).2.get? other = some n := by
  by_cases hne : other = id
  · subst hne
    rw [resolve_of_get? h, h]
  · rw [get?_resolve_of_ne s hne, h]

/-! ### Meeting variables in turn -/

/-- The numbering after variables are met in turn. -/
def meet (s : Numbering) (ids : List Int) : Numbering :=
  ids.foldl (fun s id => (s.resolve id).2) s

@[simp] theorem meet_nil (s : Numbering) : s.meet [] = s := rfl

@[simp] theorem meet_cons (s : Numbering) (id : Int) (ids : List Int) :
    s.meet (id :: ids) = (s.resolve id).2.meet ids := rfl

theorem meet_append (s : Numbering) (ids more : List Int) :
    s.meet (ids ++ more) = (s.meet ids).meet more :=
  List.foldl_append

theorem get?_meet_of_get? {s : Numbering} {id : Int} {n : Nat} (h : s.get? id = some n)
    (ids : List Int) : (s.meet ids).get? id = some n := by
  induction ids generalizing s with
  | nil => exact h
  | cons other ids ih => exact ih (get?_resolve_of_get? h)

theorem get?_meet_of_mem {s : Numbering} {id : Int} {ids : List Int} (h : id ∈ ids) :
    ∃ n, (s.meet ids).get? id = some n := by
  induction ids generalizing s with
  | nil => cases h
  | cons other ids ih =>
    rcases List.mem_cons.mp h with rfl | h
    · exact ⟨_, get?_meet_of_get? (get?_resolve s id) ids⟩
    · exact ih h

/-- The number of a variable, which matters only for variables met before. -/
def number (s : Numbering) (id : Int) : Nat := (s.get? id).getD 0

theorem number_of_get? {s : Numbering} {id : Int} {n : Nat} (h : s.get? id = some n) :
    s.number id = n := by
  simp [number, h]

theorem get?_meet_number {s : Numbering} {id : Int} {ids : List Int} (h : id ∈ ids) :
    (s.meet ids).get? id = some ((s.meet ids).number id) := by
  obtain ⟨n, hn⟩ := get?_meet_of_mem (s := s) h
  rw [hn, number_of_get? hn]

/-- Meeting more variables changes no number of one met before. -/
theorem number_meet_append {s : Numbering} {id : Int} {ids : List Int} (h : id ∈ ids)
    (more : List Int) : (s.meet (ids ++ more)).number id = (s.meet ids).number id := by
  rw [meet_append, number_of_get? (get?_meet_of_get? (get?_meet_number h) more)]

/-! ### Numbers from zero on -/

/-- Each variable has one number, and the numbers given out are the first ones. -/
structure Dense (s : Numbering) : Prop where
  nodup : (s.ids.map Prod.fst).Nodup
  numbers : s.ids.map Prod.snd = List.range s.next

theorem dense_empty : Dense empty := ⟨List.nodup_nil, rfl⟩

theorem Dense.resolve {s : Numbering} (hs : s.Dense) (id : Int) : (s.resolve id).2.Dense := by
  cases h : s.get? id with
  | some n => rwa [resolve_of_get? h]
  | none =>
    rw [resolve_of_get?_none h]
    have hnew : id ∉ s.ids.map Prod.fst := by
      intro hmem
      obtain ⟨entry, hentry, rfl⟩ := List.mem_map.mp hmem
      simpa using List.lookup_eq_none_iff.mp h entry hentry
    constructor
    · rw [List.map_append, List.nodup_append]
      exact ⟨hs.nodup, by simp, by rintro a ha b hb rfl; simp at hb; exact hnew (hb ▸ ha)⟩
    · rw [List.map_append, hs.numbers, List.range_succ]
      rfl

theorem Dense.meet {s : Numbering} (hs : s.Dense) (ids : List Int) : (s.meet ids).Dense := by
  induction ids generalizing s with
  | nil => exact hs
  | cons id ids ih => exact ih (hs.resolve id)

theorem mem_ids_of_get? {s : Numbering} {id : Int} {n : Nat} (h : s.get? id = some n) :
    (id, n) ∈ s.ids := by
  obtain ⟨before, after, hids, -⟩ := List.lookup_eq_some_iff.mp h
  simp [hids]

theorem Dense.get?_inj {s : Numbering} (hs : s.Dense) {id other : Int} {n : Nat}
    (h : s.get? id = some n) (h' : s.get? other = some n) : id = other := by
  have hnumbers : (s.ids.map Prod.snd).Nodup := hs.numbers ▸ List.nodup_range
  have heq := List.inj_on_of_nodup_map hnumbers (mem_ids_of_get? h) (mem_ids_of_get? h') rfl
  exact congrArg Prod.fst heq

/-- Two variables that were met have different numbers. -/
theorem Dense.number_meet_injOn {s : Numbering} (hs : s.Dense) (ids : List Int) :
    Set.InjOn (s.meet ids).number {id | id ∈ ids} := by
  intro id hid other hother heq
  obtain ⟨n, hn⟩ := get?_meet_of_mem (s := s) hid
  obtain ⟨m, hm⟩ := get?_meet_of_mem (s := s) hother
  rw [number_of_get? hn, number_of_get? hm] at heq
  subst heq
  exact (hs.meet ids).get?_inj hn hm

/-! ### Renaming the variables -/

/-- All variables with a number are among the known ones. -/
def Within (known : Set Int) (s : Numbering) : Prop := ∀ entry ∈ s.ids, entry.1 ∈ known

theorem Within.resolve {known : Set Int} {s : Numbering} (hs : s.Within known) {id : Int}
    (hid : id ∈ known) : (s.resolve id).2.Within known := by
  cases h : s.get? id with
  | some n => rwa [resolve_of_get? h]
  | none =>
    rw [resolve_of_get?_none h]
    intro entry hentry
    rcases List.mem_append.mp hentry with hold | hnew
    · exact hs entry hold
    · cases List.mem_singleton.mp hnew
      exact hid

theorem Within.meet {known : Set Int} {s : Numbering} (hs : s.Within known) {ids : List Int}
    (hids : ∀ id ∈ ids, id ∈ known) : (s.meet ids).Within known := by
  induction ids generalizing s with
  | nil => exact hs
  | cons id ids ih =>
    rw [List.forall_mem_cons] at hids
    exact ih (hs.resolve hids.1) hids.2

/-- The same numbers given to renamed variables. -/
def rename (ρ : Int → Int) (s : Numbering) : Numbering :=
  ⟨s.ids.map fun (id, n) => (ρ id, n), s.next⟩

section Renaming

variable {ρ : Int → Int} {known : Set Int} (hρ : Set.InjOn ρ known)
include hρ

theorem get?_rename {s : Numbering} (hs : s.Within known) {id : Int} (hid : id ∈ known) :
    (s.rename ρ).get? (ρ id) = s.get? id := by
  obtain ⟨entries, next⟩ := s
  unfold Within at hs
  unfold rename get?
  dsimp only at hs ⊢
  induction entries with
  | nil => rfl
  | cons entry entries ih =>
    obtain ⟨other, n⟩ := entry
    rw [List.forall_mem_cons] at hs
    have hbeq : (ρ id == ρ other) = (id == other) := by
      rw [Bool.eq_iff_iff, beq_iff_eq, beq_iff_eq]
      exact hρ.eq_iff hid hs.1
    rw [List.map_cons, List.lookup_cons, List.lookup_cons, hbeq, ih hs.2]

theorem resolve_rename {s : Numbering} (hs : s.Within known) {id : Int} (hid : id ∈ known) :
    (s.rename ρ).resolve (ρ id) = ((s.resolve id).1, (s.resolve id).2.rename ρ) := by
  have hget := get?_rename hρ hs hid
  cases h : s.get? id with
  | some n => rw [resolve_of_get? (hget.trans h), resolve_of_get? h]
  | none =>
    rw [resolve_of_get?_none (hget.trans h), resolve_of_get?_none h]
    simp [rename]

theorem meet_rename {s : Numbering} (hs : s.Within known) {ids : List Int}
    (hids : ∀ id ∈ ids, id ∈ known) :
    (s.rename ρ).meet (ids.map ρ) = (s.meet ids).rename ρ := by
  induction ids generalizing s with
  | nil => rfl
  | cons id ids ih =>
    rw [List.forall_mem_cons] at hids
    rw [List.map_cons, meet_cons, meet_cons, resolve_rename hρ hs hids.1]
    exact ih (hs.resolve hids.1) hids.2

end Renaming

/-- Variables met under other names have the numbers that they would have under their own. -/
theorem number_meet_map {ρ : Int → Int} {ids : List Int} (hρ : Set.InjOn ρ {id | id ∈ ids})
    {id : Int} (hid : id ∈ ids) :
    (empty.meet (ids.map ρ)).number (ρ id) = (empty.meet ids).number id := by
  have hempty : Within {id | id ∈ ids} empty := fun entry h => nomatch h
  have hmeet : empty.meet (ids.map ρ) = (empty.meet ids).rename ρ :=
    meet_rename hρ hempty fun _ h => h
  unfold number
  rw [hmeet, get?_rename hρ (hempty.meet fun _ h => h) hid]

end ApiConformance.Numbering
