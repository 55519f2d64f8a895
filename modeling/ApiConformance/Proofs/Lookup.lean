import Mathlib.Data.List.Forall2
import Mathlib.Data.List.Nodup
import ApiConformance.Interface.Basic
import ApiConformance.Proofs.Sorting

/-! Names in a table are distinct, so what lies under a name is what a look-up finds, in
whatever order the entries are visited; and tables in which look-ups find the same
are the same when sorted. -/
namespace ApiConformance.Table

variable {α β : Type}

theorem mem_iff_lookup_of_nodup {κ : Type} [BEq κ] [LawfulBEq κ] {entries : List (κ × α)}
    (h : (entries.map Prod.fst).Nodup) {key : κ} {value : α} :
    (key, value) ∈ entries ↔ entries.lookup key = some value := by
  induction entries with
  | nil => simp
  | cons entry rest ih =>
    obtain ⟨k, v⟩ := entry
    rw [List.map_cons, List.nodup_cons] at h
    rw [List.mem_cons, ih h.2, List.lookup_cons]
    by_cases hk : key = k
    · subst hk
      have hrest : rest.lookup key ≠ some value := fun hl =>
        h.1 (List.mem_map.mpr ⟨(key, value), (ih h.2).mpr hl, rfl⟩)
      simp [hrest, eq_comm]
    · have hbeq : (key == k) = false := beq_eq_false_iff_ne.mpr hk
      simp [hbeq, hk]

theorem lookup_eq_of_perm {κ : Type} [BEq κ] [LawfulBEq κ] {entries entries' : List (κ × α)}
    (h : entries.Perm entries') (hnodup : (entries.map Prod.fst).Nodup) (key : κ) :
    entries.lookup key = entries'.lookup key := by
  have hnodup' : (entries'.map Prod.fst).Nodup := (h.map Prod.fst).nodup hnodup
  apply Option.ext
  intro value
  rw [← mem_iff_lookup_of_nodup hnodup, ← mem_iff_lookup_of_nodup hnodup', h.mem_iff]

/-- Side by side, look-ups stop at the first entry of the key in both lists. -/
theorem rel_lookup {κ : Type} [BEq κ] {R : α → β → Prop} {entries : List (κ × α)}
    {entries' : List (κ × β)}
    (h : List.Forall₂ (fun x y => x.1 = y.1 ∧ R x.2 y.2) entries entries') (key : κ) :
    Option.Rel R (entries.lookup key) (entries'.lookup key) := by
  induction h with
  | nil => exact .none
  | @cons x y _ _ hxy _ ih =>
    obtain ⟨k, v⟩ := x
    obtain ⟨k', w⟩ := y
    obtain ⟨rfl, hvw⟩ := hxy
    rw [List.lookup_cons, List.lookup_cons]
    cases key == k with
    | true => exact .some hvw
    | false => exact ih

theorem mem_entries {t : Table α} {name : String} {value : α} :
    (name, value) ∈ t.entries ↔ t.get? name = some value :=
  mem_iff_lookup_of_nodup t.nodup

theorem mem_sorted {t : Table α} {name : String} {value : α} :
    (name, value) ∈ t.sorted ↔ t.get? name = some value := by
  rw [sorted, List.mem_mergeSort, mem_entries]

/-! ### Changing the values -/

theorem lookup_mapNamed {κ : Type} [BEq κ] [LawfulBEq κ] (f : κ → α → β)
    (entries : List (κ × α)) (key : κ) :
    (entries.map fun (k, value) => (k, f k value)).lookup key =
      (entries.lookup key).map (f key) := by
  induction entries with
  | nil => rfl
  | cons entry rest ih =>
    obtain ⟨k, v⟩ := entry
    rw [List.map_cons, List.lookup_cons, List.lookup_cons, ih]
    by_cases hk : key = k
    · subst hk
      simp
    · have hbeq : (key == k) = false := beq_eq_false_iff_ne.mpr hk
      simp [hbeq]

/-- Every value changed in a way that may depend on its name. -/
def mapNamed (f : String → α → β) (t : Table α) : Table β :=
  ⟨t.entries.map fun (name, value) => (name, f name value), by
    simpa [List.map_map, Function.comp_def] using t.nodup⟩

theorem get?_mapNamed (f : String → α → β) (t : Table α) (name : String) :
    (t.mapNamed f).get? name = (t.get? name).map (f name) :=
  lookup_mapNamed f t.entries name

theorem get?_map (f : α → β) (t : Table α) (name : String) :
    (t.map f).get? name = (t.get? name).map f :=
  get?_mapNamed (fun _ => f) t name

/-! ### Tables of entries put in turn -/

theorem lookup_putEntry (name other : String) (value : α) (entries : List (String × α)) :
    (putEntry name value entries).lookup other =
      if other = name then some value else entries.lookup other := by
  induction entries with
  | nil =>
    rw [putEntry, List.lookup_cons]
    by_cases h : other = name
    · simp [h]
    · simp [h, beq_eq_false_iff_ne.mpr h]
  | cons first rest ih =>
    obtain ⟨n, v⟩ := first
    by_cases hn : n = name
    · rw [putEntry, if_pos hn, hn, List.lookup_cons, List.lookup_cons]
      by_cases h : other = name
      · simp [h]
      · simp [h, beq_eq_false_iff_ne.mpr h]
    · rw [putEntry, if_neg hn, List.lookup_cons, List.lookup_cons, ih]
      by_cases h : other = n
      · simp [h, hn]
      · simp [beq_eq_false_iff_ne.mpr h]

theorem get?_put (t : Table α) (name other : String) (value : α) :
    (t.put name value).get? other = if other = name then some value else t.get? other :=
  lookup_putEntry name other value t.entries

theorem mem_putEntry {name : String} {value : α} {entries : List (String × α)}
    {entry : String × α} (h : entry ∈ putEntry name value entries) :
    entry = (name, value) ∨ entry ∈ entries := by
  induction entries with
  | nil => exact .inl (List.mem_singleton.mp h)
  | cons first rest ih =>
    obtain ⟨n, v⟩ := first
    unfold putEntry at h
    split at h
    · rename_i hn
      rw [hn] at h
      exact (List.mem_cons.mp h).imp_right (List.mem_cons_of_mem _)
    · rcases List.mem_cons.mp h with rfl | h
      · exact .inr (.head _)
      · exact (ih h).imp_right (List.mem_cons_of_mem _)

theorem mem_foldl_put {t : Table α} {entries : List (String × α)} {entry : String × α}
    (h : entry ∈ (entries.foldl (fun t (name, value) => t.put name value) t).entries) :
    entry ∈ t.entries ∨ entry ∈ entries := by
  induction entries generalizing t with
  | nil => exact .inl h
  | cons first rest ih =>
    rcases ih h with h | h
    · exact (mem_putEntry h).elim (fun he => .inr (he ▸ .head _)) .inl
    · exact .inr (.tail _ h)

theorem mem_entries_ofList {entries : List (String × α)} {entry : String × α}
    (h : entry ∈ (ofList entries).entries) : entry ∈ entries :=
  (mem_foldl_put h).resolve_left List.not_mem_nil

theorem mem_names_foldl_put {t : Table α} {entries : List (String × α)} {name : String} :
    name ∈ (entries.foldl (fun t (name, value) => t.put name value) t).names ↔
      name ∈ t.names ∨ name ∈ entries.map Prod.fst := by
  induction entries generalizing t with
  | nil => simp
  | cons first rest ih =>
    have hput : name ∈ (t.put first.1 first.2).names ↔ name = first.1 ∨ name ∈ t.names :=
      mem_names_putEntry
    rw [List.foldl_cons, ih, hput, List.map_cons, List.mem_cons, or_assoc, or_left_comm]

/-- Under a name that is listed stands one of the values that are listed for it. -/
theorem exists_get?_ofList {entries : List (String × α)} {name : String}
    (h : name ∈ entries.map Prod.fst) :
    ∃ value, (ofList entries).get? name = some value ∧ (name, value) ∈ entries := by
  have hname : name ∈ (ofList entries).names := mem_names_foldl_put.mpr (.inr h)
  obtain ⟨⟨_, value⟩, hentry, rfl⟩ := List.mem_map.mp hname
  exact ⟨value, mem_entries.mp hentry, mem_entries_ofList hentry⟩

theorem putEntry_of_new {name : String} {value : α} {entries : List (String × α)}
    (h : name ∉ entries.map Prod.fst) : putEntry name value entries = entries ++ [(name, value)] := by
  induction entries with
  | nil => rfl
  | cons first rest ih =>
    obtain ⟨n, v⟩ := first
    rw [List.map_cons, List.mem_cons, not_or] at h
    rw [putEntry, if_neg (Ne.symm h.1), ih h.2, List.cons_append]

/-- Entries under names that are distinct, and new to the table, come after those it has. -/
theorem entries_foldl_put {t : Table α} {entries : List (String × α)}
    (h : ((t.entries ++ entries).map Prod.fst).Nodup) :
    (entries.foldl (fun t (name, value) => t.put name value) t).entries = t.entries ++ entries := by
  induction entries generalizing t with
  | nil => rw [List.foldl_nil, List.append_nil]
  | cons first rest ih =>
    obtain ⟨name, value⟩ := first
    have hnew : name ∉ t.entries.map Prod.fst := by
      rw [List.map_append, List.map_cons] at h
      exact fun hmem => (List.nodup_append.mp h).2.2 _ hmem _ (.head _) rfl
    have hput : (t.put name value).entries = t.entries ++ [(name, value)] := putEntry_of_new hnew
    rw [List.foldl_cons, ih] <;> rw [hput, List.append_assoc, List.singleton_append]
    exact h

theorem entries_ofList {entries : List (String × α)} (h : (entries.map Prod.fst).Nodup) :
    (ofList entries).entries = entries :=
  (entries_foldl_put (t := empty) h).trans (List.nil_append _)

theorem ofList_entries (t : Table α) : ofList t.entries = t := by
  have hentries : (ofList t.entries).entries = t.entries := entries_ofList t.nodup
  cases t
  exact (Table.mk.injEq ..).mpr hentries

/-! ### Leaving entries out -/

/-- The entries under the names that pass a test. -/
def restrict (p : String → Bool) (t : Table α) : Table α :=
  ⟨t.entries.filter fun entry => p entry.1, t.nodup.sublist (List.filter_sublist.map Prod.fst)⟩

theorem get?_restrict (p : String → Bool) (t : Table α) (name : String) :
    (t.restrict p).get? name = if p name then t.get? name else none := by
  apply Option.ext
  intro value
  rw [← mem_entries, restrict, List.mem_filter, mem_entries]
  cases p name <;> simp

/-! ### The sorted view -/

theorem nodup_entries (t : Table α) : t.entries.Nodup := List.Nodup.of_map Prod.fst t.nodup

theorem pairwise_sorted (t : Table α) : t.sorted.Pairwise fun a b => a.1 ≤ b.1 :=
  Sorting.pairwise_mergeSort_names Prod.fst t.entries

theorem pairwise_lt_sorted (t : Table α) : t.sorted.Pairwise fun a b => a.1 < b.1 := by
  have hnodup : (t.sorted.map Prod.fst).Nodup :=
    ((List.mergeSort_perm t.entries _).map Prod.fst).nodup_iff.mpr t.nodup
  exact Sorting.pairwise_lt_of_names t.pairwise_sorted hnodup

theorem lookup_sorted (t : Table α) (name : String) : t.sorted.lookup name = t.get? name :=
  (lookup_eq_of_perm (List.mergeSort_perm t.entries _).symm t.nodup name).symm

/-- The sorted view tells no more than look-ups do. -/
theorem sorted_eq_of_get?_eq {t u : Table α} (h : ∀ name, t.get? name = u.get? name) :
    t.sorted = u.sorted := by
  have hperm : t.sorted.Perm u.sorted := by
    refine (List.mergeSort_perm ..).trans (.trans ?_ (List.mergeSort_perm ..).symm)
    rw [List.perm_ext_iff_of_nodup t.nodup_entries u.nodup_entries]
    intro entry
    rw [mem_entries, mem_entries, h]
  refine hperm.eq_of_pairwise ?_ t.pairwise_sorted u.pairwise_sorted
  intro a b ha hb hab hba
  obtain ⟨name, value⟩ := a
  obtain ⟨name', value'⟩ := b
  obtain rfl : name = name' := String.le_antisymm hab hba
  rw [mem_sorted] at ha hb
  rw [h, hb] at ha
  rw [Option.some.inj ha]

theorem sorted_map (f : α → β) (t : Table α) :
    (t.map f).sorted = t.sorted.map (Prod.map id f) := by
  have hentries : (t.map f).entries = t.entries.map (Prod.map id f) := rfl
  rw [sorted, sorted, hentries, List.map_mergeSort]
  intro a _ b _
  rfl

end ApiConformance.Table
