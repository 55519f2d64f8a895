import Mathlib.Order.MinMax
import Mathlib.Order.Nat
import ApiConformance.Service.Answer

/-!
Problems of a body can always be told when the numbers in the body are finite and there is room for
what is inside one another in it: what a problem shows is a part of the body, and all else that it
tells is texts and integers.
-/
namespace ApiConformance

namespace Value

theorem finiteItems_iff {vs : List Value} :
    finiteItems vs = true ↔ ∀ v ∈ vs, v.isFinite = true := by
  induction vs with
  | nil => simp [finiteItems]
  | cons first rest ih => rw [finiteItems, Bool.and_eq_true, ih, List.forall_mem_cons]

theorem finiteEntries_iff {entries : List (Atom × Value)} :
    finiteEntries entries = true ↔ ∀ entry ∈ entries, entry.2.isFinite = true := by
  induction entries with
  | nil => simp [finiteEntries]
  | cons first rest ih => rw [finiteEntries, Bool.and_eq_true, ih, List.forall_mem_cons]

theorem isFinite_object {fields : List (String × Value)} :
    (object fields).isFinite = true ↔ ∀ field ∈ fields, field.2.isFinite = true := by
  rw [object, isFinite, finiteEntries_iff, List.forall_mem_map]

theorem isFinite_of_at? {place : Location} {v part : Value} (hv : v.isFinite = true)
    (h : at? place v = some part) : part.isFinite = true := by
  induction place generalizing v with
  | nil => exact Option.some.inj h ▸ hv
  | cons step rest ih =>
    cases step with
    | kind => exact ih hv h
    | key name =>
      cases v with
      | map entries =>
        obtain ⟨w, hw, hpart⟩ := Option.bind_eq_some_iff.mp h
        obtain ⟨before, after, hentries, -⟩ := List.lookup_eq_some_iff.mp hw
        refine ih (finiteEntries_iff.mp hv (.text name, w) ?_) hpart
        simp [hentries]
      | _ => cases h
    | index i =>
      cases v with
      | list vs =>
        obtain ⟨w, hw, hpart⟩ := Option.bind_eq_some_iff.mp h
        exact ih (finiteItems_iff.mp hv w (List.mem_of_getElem? hw)) hpart
      | _ => cases h

mutual

theorem isFinite_shown : (v : Value) → v.isFinite = true → v.shown.isFinite = true
  | .atom _, h => h
  | .set _, h => h
  | .knot _ _, h => h
  | .list vs, h => finiteItems_shownItems vs h
  | .pair a b, h => by
    rw [isFinite, Bool.and_eq_true] at h
    rw [shown, isFinite, isFinite_shown a h.1, isFinite_shown b h.2, Bool.and_self]
  | .map entries, h => finiteEntries_shownEntries entries h

theorem finiteItems_shownItems :
    (vs : List Value) → finiteItems vs = true → finiteItems (shownItems vs) = true
  | [], h => h
  | v :: vs, h => by
    rw [finiteItems, Bool.and_eq_true] at h
    rw [shownItems, finiteItems, isFinite_shown v h.1, finiteItems_shownItems vs h.2, Bool.and_self]

theorem finiteEntries_shownEntries : (entries : List (Atom × Value)) →
    finiteEntries entries = true → finiteEntries (shownEntries entries) = true
  | [], h => h
  | (key, v) :: rest, h => by
    rw [finiteEntries, Bool.and_eq_true] at h
    have hshown : finiteEntries ((key, v.shown) :: shownEntries rest) = true := by
      rw [finiteEntries, isFinite_shown v h.1, finiteEntries_shownEntries rest h.2, Bool.and_self]
    cases key with
    | text name =>
      rw [shownEntries]
      split
      · exact finiteEntries_shownEntries rest h.2
      · exact hshown
    | _ => exact hshown

end

/-! ### Levels -/

theorem itemLevels_le_iff {vs : List Value} {n : Nat} :
    itemLevels vs ≤ n ↔ ∀ v ∈ vs, v.levels ≤ n := by
  induction vs with
  | nil => simp [itemLevels]
  | cons first rest ih => rw [itemLevels, Nat.max_le, ih, List.forall_mem_cons]

theorem entryLevels_le_iff {entries : List (Atom × Value)} {n : Nat} :
    entryLevels entries ≤ n ↔ ∀ entry ∈ entries, entry.2.levels ≤ n := by
  induction entries with
  | nil => simp [entryLevels]
  | cons first rest ih => rw [entryLevels, Nat.max_le, ih, List.forall_mem_cons]

theorem levels_list_le {vs : List Value} {n : Nat} (h : ∀ v ∈ vs, v.levels ≤ n) :
    (Value.list vs).levels ≤ n + 1 := Nat.succ_le_succ (itemLevels_le_iff.mpr h)

theorem levels_object_le {fields : List (String × Value)} {n : Nat}
    (h : ∀ field ∈ fields, field.2.levels ≤ n) : (object fields).levels ≤ n + 1 := by
  refine Nat.succ_le_succ (entryLevels_le_iff.mpr ?_)
  rwa [List.forall_mem_map]

theorem levels_at?_le {place : Location} {v part : Value} (h : at? place v = some part) :
    part.levels ≤ v.levels := by
  induction place generalizing v with
  | nil => rw [Option.some.inj h]
  | cons step rest ih =>
    cases step with
    | kind => exact ih h
    | key name =>
      cases v with
      | map entries =>
        obtain ⟨w, hw, hpart⟩ := Option.bind_eq_some_iff.mp h
        obtain ⟨before, after, hentries, -⟩ := List.lookup_eq_some_iff.mp hw
        have hle : w.levels ≤ entryLevels entries :=
          entryLevels_le_iff.mp le_rfl (.text name, w) (by simp [hentries])
        exact (ih hpart).trans (hle.trans (Nat.le_succ _))
      | _ => cases h
    | index i =>
      cases v with
      | list vs =>
        obtain ⟨w, hw, hpart⟩ := Option.bind_eq_some_iff.mp h
        have hle : w.levels ≤ itemLevels vs :=
          itemLevels_le_iff.mp le_rfl w (List.mem_of_getElem? hw)
        exact (ih hpart).trans (hle.trans (Nat.le_succ _))
      | _ => cases h

mutual

theorem levels_shown_le : (v : Value) → v.shown.levels ≤ v.levels
  | .atom _ => le_rfl
  | .set _ => le_rfl
  | .knot _ _ => le_rfl
  | .list vs => Nat.succ_le_succ (itemLevels_shownItems_le vs)
  | .pair a b => Nat.succ_le_succ (max_le_max (levels_shown_le a) (levels_shown_le b))
  | .map entries => Nat.succ_le_succ (entryLevels_shownEntries_le entries)

theorem itemLevels_shownItems_le : (vs : List Value) → itemLevels (shownItems vs) ≤ itemLevels vs
  | [] => le_rfl
  | v :: vs => max_le_max (levels_shown_le v) (itemLevels_shownItems_le vs)

theorem entryLevels_shownEntries_le : (entries : List (Atom × Value)) →
    entryLevels (shownEntries entries) ≤ entryLevels entries
  | [] => le_rfl
  | (key, v) :: rest => by
    have hrest := entryLevels_shownEntries_le rest
    have hshown : entryLevels ((key, v.shown) :: shownEntries rest) ≤
        entryLevels ((key, v) :: rest) := max_le_max (levels_shown_le v) hrest
    cases key with
    | text name =>
      rw [shownEntries]
      split
      · exact hrest.trans (le_max_right _ _)
      · exact hshown
    | _ => exact hshown

end

end Value

/-! ### Problems -/

theorem Step.isFinite_value (s : Step) : s.value.isFinite = true := by
  cases s <;> rfl

theorem Step.levels_value (s : Step) : s.value.levels = 0 := by
  cases s <;> rfl

theorem Fault.isFinite_context {f : Fault} {c : Value} (h : f.context = some c) :
    c.isFinite = true := by
  unfold context at h
  split at h <;> cases h <;> rfl

theorem Fault.levels_context {f : Fault} {c : Value} (h : f.context = some c) : c.levels = 1 := by
  unfold context at h
  split at h <;> cases h <;> rfl

theorem Problem.isFinite_detail {body : Value} (hbody : body.isFinite = true) (p : Problem) :
    (p.detail body).isFinite = true := by
  have hinput : ((Value.at? p.seenAt body).getD .null).shown.isFinite = true := by
    apply Value.isFinite_shown
    cases hpart : Value.at? p.seenAt body with
    | none => rfl
    | some part => exact Value.isFinite_of_at? hbody hpart
  have hplace : (Value.list (.text "body" :: p.location.map Step.value)).isFinite = true := by
    rw [Value.isFinite, Value.finiteItems_iff, List.forall_mem_cons, List.forall_mem_map]
    exact ⟨rfl, fun s _ => s.isFinite_value⟩
  rw [detail, Value.isFinite_object]
  intro field hfield
  rcases List.mem_append.mp hfield with hfield | hfield
  · simp only [List.mem_cons, List.not_mem_nil, or_false] at hfield
    rcases hfield with rfl | rfl | rfl | rfl
    · rfl
    · exact hplace
    · rfl
    · exact hinput
  · obtain ⟨c, hc, rfl⟩ := Option.map_eq_some_iff.mp (Option.mem_toList.mp hfield)
    exact Fault.isFinite_context hc

/-- A problem is told on one level more than the body has, or on the two that every problem has. -/
theorem Problem.levels_detail_le (body : Value) (p : Problem) :
    (p.detail body).levels ≤ max body.levels 1 + 1 := by
  have hinput : ((Value.at? p.seenAt body).getD .null).shown.levels ≤ body.levels := by
    refine (Value.levels_shown_le _).trans ?_
    cases hpart : Value.at? p.seenAt body with
    | none => exact Nat.zero_le _
    | some part => exact Value.levels_at?_le hpart
  have hplace : (Value.list (.text "body" :: p.location.map Step.value)).levels ≤ 1 := by
    refine Value.levels_list_le ?_
    rw [List.forall_mem_cons, List.forall_mem_map]
    exact ⟨le_rfl, fun s _ => s.levels_value.le⟩
  refine Value.levels_object_le fun field hfield => ?_
  rcases List.mem_append.mp hfield with hfield | hfield
  · simp only [List.mem_cons, List.not_mem_nil, or_false] at hfield
    rcases hfield with rfl | rfl | rfl | rfl
    · exact Nat.zero_le _
    · exact hplace.trans (le_max_right _ _)
    · exact Nat.zero_le _
    · exact hinput.trans (le_max_left _ _)
  · obtain ⟨c, hc, rfl⟩ := Option.map_eq_some_iff.mp (Option.mem_toList.mp hfield)
    exact (Fault.levels_context hc).le.trans (le_max_right _ _)

section

variable {body : Value} (hbody : body.isFinite = true) (room : Nat) (problems : List Problem)

include hbody

/-- A body with finite numbers that is not valid is refused with all of its problems, if there is
room for them. -/
theorem Response.ofProblems_detail : ofProblems room (problems.map (Problem.detail body)) =
    if room < Value.itemLevels (problems.map (Problem.detail body)) then .error .tooDeep
    else .ok (.refused 422 (.list (problems.map (Problem.detail body)))) := by
  have hfinite : Value.finiteItems (problems.map (Problem.detail body)) = true := by
    rw [Value.finiteItems_iff, List.forall_mem_map]
    exact fun p _ => p.isFinite_detail hbody
  rw [ofProblems, if_pos hfinite]

theorem Response.ofProblems_of_levels (hroom : max body.levels 1 < room) :
    ofProblems room (problems.map (Problem.detail body)) =
      .ok (.refused 422 (.list (problems.map (Problem.detail body)))) := by
  have hlevels : Value.itemLevels (problems.map (Problem.detail body)) ≤ max body.levels 1 + 1 := by
    rw [Value.itemLevels_le_iff, List.forall_mem_map]
    exact fun p _ => p.levels_detail_le body
  rw [ofProblems_detail hbody, if_neg (by omega)]

end

end ApiConformance
