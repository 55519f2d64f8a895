import Mathlib.Data.List.FinRange
import Mathlib.Data.String.Basic

/-!
Stable sorting. Things that the order does not tell apart stay in the order in which they
came, and no more of that order is left: two lists that agree on it are the same when
sorted.
-/
namespace ApiConformance.Sorting

variable {α : Type} {le : α → α → Bool}

/-- The order puts neither before the other. -/
def alike (le : α → α → Bool) (a b : α) : Bool := le a b && le b a

/-! ### Two lists in order -/

theorem cons_filter_alike (hrefl : ∀ a, le a a = true) (a : α) (l : List α) :
    (a :: l).filter (alike le a) = a :: l.filter (alike le a) :=
  List.filter_cons_of_pos (by simp [alike, hrefl a])

/-- Two lists in order begin alike if they agree on things that are alike. -/
theorem alike_of_filter_eq (hrefl : ∀ a, le a a = true) {a b : α} {l m : List α}
    (hl : (a :: l).Pairwise fun a b => le a b) (hm : (b :: m).Pairwise fun a b => le a b)
    (h : ∀ c, (a :: l).filter (alike le c) = (b :: m).filter (alike le c)) :
    alike le a b = true := by
  have hhead {c d : α} {n : List α} (hn : (c :: n).Pairwise fun a b => le a b)
      (hd : d ∈ c :: n) : le c d = true := by
    rcases List.mem_cons.mp hd with rfl | hd
    · exact hrefl _
    · exact List.rel_of_pairwise_cons hn hd
  have ha : a ∈ b :: m := by
    have hmem : a ∈ (b :: m).filter (alike le a) := by
      rw [← h a, cons_filter_alike hrefl]
      exact List.mem_cons_self
    exact List.mem_of_mem_filter hmem
  have hb : b ∈ a :: l := by
    have hmem : b ∈ (a :: l).filter (alike le b) := by
      rw [h b, cons_filter_alike hrefl]
      exact List.mem_cons_self
    exact List.mem_of_mem_filter hmem
  rw [alike, hhead hl hb, hhead hm ha]
  rfl

theorem eq_of_filter_eq (hrefl : ∀ a, le a a = true) {l m : List α}
    (hl : l.Pairwise fun a b => le a b) (hm : m.Pairwise fun a b => le a b)
    (h : ∀ c, l.filter (alike le c) = m.filter (alike le c)) : l = m := by
  induction l generalizing m with
  | nil =>
    cases m with
    | nil => rfl
    | cons b m =>
      have hb := h b
      rw [cons_filter_alike hrefl] at hb
      cases hb
  | cons a l ih =>
    cases m with
    | nil =>
      have ha := h a
      rw [cons_filter_alike hrefl] at ha
      cases ha
    | cons b m =>
      have hab := alike_of_filter_eq hrefl hl hm h
      have hheads := h a
      rw [cons_filter_alike hrefl, List.filter_cons_of_pos hab] at hheads
      obtain rfl : a = b := (List.cons.inj hheads).1
      rw [ih hl.of_cons hm.of_cons fun c => ?_]
      have hc := h c
      by_cases hca : alike le c a = true
      · rw [List.filter_cons_of_pos hca, List.filter_cons_of_pos hca] at hc
        exact (List.cons.inj hc).2
      · rwa [List.filter_cons_of_neg hca, List.filter_cons_of_neg hca] at hc

/-! ### Sorting -/

section

variable (htrans : ∀ a b c, le a b = true → le b c = true → le a c = true)
  (htotal : ∀ a b, (le a b || le b a) = true)
include htrans htotal

/-- Things none of which goes before another are not moved past one another. -/
theorem filter_mergeSort {p : α → Bool} (hp : ∀ a b, p a = true → p b = true → le a b = true)
    (l : List α) : (l.mergeSort le).filter p = l.filter p := by
  have hpairwise : (l.filter p).Pairwise fun a b => le a b := by
    refine List.pairwise_of_forall_mem_list fun a ha b hb => ?_
    exact hp a b (List.of_mem_filter ha) (List.of_mem_filter hb)
  have hsublist : (l.filter p).Sublist (l.mergeSort le) :=
    List.sublist_mergeSort htrans htotal hpairwise List.filter_sublist
  have hfiltered : (l.filter p).Sublist ((l.mergeSort le).filter p) := by
    have hself := hsublist.filter p
    rwa [List.filter_filter, funext fun a => Bool.and_self (p a)] at hself
  have hlength := ((List.mergeSort_perm l le).filter p).length_eq
  exact (hfiltered.eq_of_length hlength.symm).symm

theorem filter_alike_mergeSort (c : α) (l : List α) :
    (l.mergeSort le).filter (alike le c) = l.filter (alike le c) := by
  refine filter_mergeSort htrans htotal (fun a b ha hb => ?_) l
  unfold alike at ha hb
  rw [Bool.and_eq_true] at ha hb
  exact htrans a c b ha.2 hb.1

theorem mergeSort_eq_of_filter_eq {l m : List α}
    (h : ∀ c, l.filter (alike le c) = m.filter (alike le c)) : l.mergeSort le = m.mergeSort le := by
  have hrefl (a : α) : le a a = true := by simpa using htotal a a
  refine eq_of_filter_eq hrefl (List.pairwise_mergeSort htrans htotal l)
    (List.pairwise_mergeSort htrans htotal m) fun c => ?_
  rw [filter_alike_mergeSort htrans htotal, filter_alike_mergeSort htrans htotal, h]

end

/-! ### By name -/

theorem trans_of_names (name : α → String) (a b c : α) (hab : decide (name a ≤ name b) = true)
    (hbc : decide (name b ≤ name c) = true) : decide (name a ≤ name c) = true :=
  decide_eq_true (le_trans (of_decide_eq_true hab) (of_decide_eq_true hbc))

theorem total_of_names (name : α → String) (a b : α) :
    (decide (name a ≤ name b) || decide (name b ≤ name a)) = true := by
  simpa using le_total (name a) (name b)

theorem pairwise_mergeSort_names (name : α → String) (l : List α) :
    (l.mergeSort fun a b => decide (name a ≤ name b)).Pairwise fun a b => name a ≤ name b :=
  (List.pairwise_mergeSort (trans_of_names name) (total_of_names name) l).imp of_decide_eq_true

/-- Names in order that are all different are strictly in order. -/
theorem pairwise_lt_of_names {name : α → String} {l : List α}
    (h : l.Pairwise fun a b => name a ≤ name b) (hnodup : (l.map name).Nodup) :
    l.Pairwise fun a b => name a < name b :=
  (h.and (List.pairwise_map.mp hnodup)).imp fun ⟨hle, hne⟩ => lt_of_le_of_ne hle hne

/-! ### Rearranging -/

/-- The members of a list at rearranged places. -/
def rearranged (l : List α) (σ : Equiv.Perm (Fin l.length)) : List α :=
  (List.finRange l.length).map fun i => l.get (σ i)

theorem rearranged_perm (l : List α) (σ : Equiv.Perm (Fin l.length)) :
    (rearranged l σ).Perm l := by
  have hmap := σ.map_finRange_perm.map l.get
  rwa [List.map_map, List.map_get_finRange] at hmap

/-- The members with a property come in the same order if none of them are exchanged. -/
theorem filter_rearranged {l : List α} {σ : Equiv.Perm (Fin l.length)} {p : α → Bool}
    (h : ∀ i j, i < j → p (l.get (σ i)) = true → p (l.get (σ j)) = true → σ i < σ j) :
    (rearranged l σ).filter p = l.filter p := by
  have hplaces : ((List.finRange l.length).filter fun i => p (l.get (σ i))).map σ =
      (List.finRange l.length).filter fun i => p (l.get i) := by
    have hperm : (((List.finRange l.length).filter fun i => p (l.get (σ i))).map σ).Perm
        ((List.finRange l.length).filter fun i => p (l.get i)) := by
      have hmap := σ.map_finRange_perm.filter fun i => p (l.get i)
      rwa [List.filter_map] at hmap
    have hmoved : (((List.finRange l.length).filter fun i => p (l.get (σ i))).map σ).Pairwise
        fun i j => i < j := by
      rw [List.pairwise_map]
      refine List.Pairwise.imp_of_mem (fun {i j} hi hj hij => ?_)
        ((List.pairwise_lt_finRange l.length).filter _)
      exact h i j hij (List.mem_filter.mp hi).2 (List.mem_filter.mp hj).2
    refine hperm.eq_of_pairwise (fun i j _ _ hij hji => absurd hij hji.asymm) hmoved ?_
    exact (List.pairwise_lt_finRange l.length).filter _
  calc (rearranged l σ).filter p
    _ = (((List.finRange l.length).filter fun i => p (l.get (σ i))).map σ).map l.get := by
        rw [rearranged, List.filter_map, List.map_map]
        rfl
    _ = ((List.finRange l.length).map l.get).filter p := by
        rw [hplaces, List.filter_map]
        rfl
    _ = l.filter p := by rw [List.map_get_finRange]

end ApiConformance.Sorting
