import ApiConformance.Proofs.Validation.Accepted
import ApiConformance.Proofs.Value.Alike
import ApiConformance.Proofs.Verify.Reordering

/-!
Decoders find entries by their keys, so what data is decoded into, data that is alike is decoded
into as well. Only tables keep the order in which their entries came.
-/
namespace ApiConformance.Validation

variable {α β : Type}

/-- The order of entries does not matter to what is decoded. -/
def Steady (decode : Value → Checked α) : Prop :=
  ∀ (v w : Value) (a : α), v.Alike w → decode v = .ok a → decode w = .ok a

/-- The same of a decoder that is given the entries of a map. -/
def SteadyFields (fields : List (Atom × Value) → Checked α) : Prop :=
  ∀ (entries entries' : List (Atom × Value)) (a : α), (Value.map entries).Alike (.map entries') →
    fields entries = .ok a → fields entries' = .ok a

/-! ### Parts that all documents share -/

/-- What decodes neither lists nor maps does not look into data. -/
theorem steady_of_scalar {decode : Value → Checked α} (hlist : ∀ vs a, decode (.list vs) ≠ .ok a)
    (hmap : ∀ entries a, decode (.map entries) ≠ .ok a) : Steady decode := by
  intro v w a halike hv
  cases halike with
  | atom => exact hv
  | list => exact absurd hv (hlist _ a)
  | map => exact absurd hv (hmap _ a)

theorem steady_text : Steady text := steady_of_scalar nofun nofun

theorem steady_integer : Steady integer := steady_of_scalar nofun nofun

theorem steady_naturalNumber : Steady naturalNumber := steady_of_scalar nofun nofun

theorem steady_boolean : Steady boolean := steady_of_scalar nofun nofun

variable {decode : Value → Checked α}

theorem Steady.nullable (h : Steady decode) : Steady (nullable decode) := by
  intro v w a halike hv
  have hsome {v w : Value} (halike : v.Alike w) (hv : some <$> decode v = .ok a) :
      some <$> decode w = .ok a := by
    obtain ⟨b, hb, rfl⟩ := Checked.map_eq_ok.mp hv
    exact Checked.map_eq_ok.mpr ⟨b, h _ _ _ halike hb, rfl⟩
  cases halike with
  | atom => exact hv
  | list items => exact hsome (.list items) hv
  | map distinct perm keys values => exact hsome (.map distinct perm keys values) hv

theorem Steady.forall₂ (h : Steady decode) {vs ws : List Value}
    (halike : List.Forall₂ Value.Alike vs ws) {as : List α}
    (hvs : List.Forall₂ (fun v a => decode v = .ok a) vs as) :
    List.Forall₂ (fun w a => decode w = .ok a) ws as := by
  induction halike generalizing as with
  | nil => exact hvs
  | cons hvw _ ih =>
    cases hvs with
    | cons hv hvs => exact .cons (h _ _ _ hvw hv) (ih hvs)

theorem Steady.items (h : Steady decode) {vs ws : List Value}
    (halike : List.Forall₂ Value.Alike vs ws) {as : List α} (hvs : items decode vs = .ok as) :
    Validation.items decode ws = .ok as :=
  items_eq_ok.mpr (h.forall₂ halike (items_eq_ok.mp hvs))

theorem Steady.tuple (h : Steady decode) : Steady (tuple decode) := by
  intro v w as halike hv
  cases halike with
  | list items => exact h.items items hv
  | atom | map => exact hv

/-! ### Maps -/

theorem find_eq_some {names : List String} {entries entries' : List (Atom × Value)}
    (halike : (Value.map entries).Alike (.map entries')) {name : String} {v : Value}
    (h : find names entries = some (name, v)) :
    ∃ w, find names entries' = some (name, w) ∧ v.Alike w := by
  unfold find at h ⊢
  induction names with
  | nil => cases h
  | cons first rest ih =>
    rw [List.findSome?_cons] at h ⊢
    cases hfirst : Value.lookup first entries with
    | some u =>
      obtain ⟨w, hw, hvw⟩ := halike.lookup_eq_some hfirst
      rw [hfirst] at h
      cases h
      rw [hw]
      exact ⟨w, rfl, hvw⟩
    | none =>
      rw [hfirst] at h
      rw [halike.lookup_eq_none hfirst]
      exact ih h

theorem find_eq_none {names : List String} {entries entries' : List (Atom × Value)}
    (halike : (Value.map entries).Alike (.map entries')) (h : find names entries = none) :
    find names entries' = none := by
  unfold find at h ⊢
  rw [List.findSome?_eq_none_iff] at h ⊢
  intro name hname
  rw [halike.lookup_eq_none (Option.map_eq_none_iff.mp (h name hname)), Option.map_none]

theorem Steady.required (h : Steady decode) (names : List String) :
    SteadyFields (requiredField names decode) := by
  intro entries entries' a halike ha
  obtain ⟨name, v, hfind, hv⟩ := requiredField_eq_ok.mp ha
  obtain ⟨w, hfind', hvw⟩ := find_eq_some halike hfind
  exact requiredField_eq_ok.mpr ⟨name, w, hfind', h _ _ _ hvw hv⟩

theorem Steady.optional (h : Steady decode) (names : List String) (default : α) :
    SteadyFields (optionalField names default decode) := by
  intro entries entries' a halike ha
  rcases optionalField_eq_ok.mp ha with ⟨hfind, rfl⟩ | ⟨name, v, hfind, hv⟩
  · exact optionalField_eq_ok.mpr (.inl ⟨find_eq_none halike hfind, rfl⟩)
  · obtain ⟨w, hfind', hvw⟩ := find_eq_some halike hfind
    exact optionalField_eq_ok.mpr (.inr ⟨name, w, hfind', h _ _ _ hvw hv⟩)

theorem SteadyFields.map {fields : List (Atom × Value) → Checked α} (h : SteadyFields fields)
    (f : α → β) : SteadyFields fun r => f <$> fields r := by
  intro entries entries' b halike hb
  obtain ⟨a, ha, rfl⟩ := Checked.map_eq_ok.mp hb
  exact Checked.map_eq_ok.mpr ⟨a, h _ _ _ halike ha, rfl⟩

theorem SteadyFields.seq {f : List (Atom × Value) → Checked (α → β)}
    {fields : List (Atom × Value) → Checked α} (hf : SteadyFields f) (h : SteadyFields fields) :
    SteadyFields fun r => f r <*> fields r := by
  intro entries entries' b halike hb
  obtain ⟨g, a, hg, ha, rfl⟩ := Checked.seq_eq_ok.mp hb
  exact Checked.seq_eq_ok.mpr ⟨g, a, hf _ _ _ halike hg, h _ _ _ halike ha, rfl⟩

theorem SteadyFields.record {fields : List (Atom × Value) → Checked α} (h : SteadyFields fields)
    (shape : String) : Steady (record shape fields) := by
  intro v w a halike hv
  cases halike with
  | map distinct perm keys values => exact h _ _ _ (.map distinct perm keys values) hv
  | atom | list => exact hv

theorem steady_tagged {decoders : List (String × (List (Atom × Value) → Checked α))}
    (h : ∀ decoder ∈ decoders, SteadyFields decoder.2) : Steady (tagged decoders) := by
  intro v w a halike hv
  obtain ⟨entries, tag, fields, huntied, hkind, hfields, ha⟩ := tagged_eq_ok.mp hv
  cases halike with
  | atom | list => cases huntied
  | @map _ between entries' distinct perm keys values =>
    cases huntied
    have halike : (Value.map entries).Alike (.map entries') := .map distinct perm keys values
    obtain ⟨kind, hkind', hsame⟩ := halike.lookup_eq_some hkind
    cases hsame
    exact tagged_eq_ok.mpr ⟨entries', tag, fields, rfl, hkind', hfields,
      h _ (mem_of_lookup hfields) _ _ _ halike ha⟩

/-! ### Tables -/

/-- A decoded entry of a table comes from an entry under its name. -/
def DecodesEntry (decode : Value → Checked α) (entry : Atom × Value) (named : String × α) : Prop :=
  entry.1 = .text named.1 ∧ decode entry.2 = .ok named.2

theorem nodup_of_decodesEntry {entries : List (Atom × Value)} {named : List (String × α)}
    (h : List.Forall₂ (DecodesEntry decode) entries named) (hnodup : (entries.map Prod.fst).Nodup) :
    (named.map Prod.fst).Nodup := by
  have hkeys : entries.map Prod.fst = (named.map Prod.fst).map Atom.text := by
    rw [List.map_map, ← List.forall₂_eq_eq_eq, List.forall₂_map_left_iff, List.forall₂_map_right_iff]
    exact h.imp fun _ _ hentry => hentry.1
  exact List.Nodup.of_map Atom.text (hkeys ▸ hnodup)

variable {R : α → α → Prop}

theorem forall₂_decodesEntry
    (h : ∀ v w a, v.Alike w → decode v = .ok a → ∃ b, decode w = .ok b ∧ R a b)
    {entries entries' : List (Atom × Value)} {named : List (String × α)}
    (halike : List.Forall₂ (fun x y => x.1 = y.1 ∧ x.2.Alike y.2) entries entries')
    (hnamed : List.Forall₂ (DecodesEntry decode) entries named) :
    ∃ named', List.Forall₂ (DecodesEntry decode) entries' named' ∧
      List.Forall₂ (fun x y => x.1 = y.1 ∧ R x.2 y.2) named named' := by
  induction halike generalizing named with
  | nil =>
    cases hnamed
    exact ⟨[], .nil, .nil⟩
  | @cons x y _ _ hxy _ ih =>
    cases hnamed with
    | @cons _ n _ _ hentry hrest =>
      obtain ⟨named', hnamed', hrel⟩ := ih hrest
      obtain ⟨b, hb, hab⟩ := h _ _ _ hxy.2 hentry.2
      exact ⟨(n.1, b) :: named', .cons ⟨hxy.1 ▸ hentry.1, hb⟩ hnamed', .cons ⟨rfl, hab⟩ hrel⟩

/-- A table lists its entries in the order of the data; what stands under each name is related. -/
theorem table_reorders (h : ∀ v w a, v.Alike w → decode v = .ok a → ∃ b, decode w = .ok b ∧ R a b)
    {v w : Value} {t : Table α} (halike : v.Alike w) (hv : table decode v = .ok t) :
    ∃ u, table decode w = .ok u ∧ t.Reorders R u := by
  obtain ⟨entries, named, huntied, hnamed, rfl⟩ := table_eq_ok.mp hv
  cases halike with
  | atom | list => cases huntied
  | @map _ _ entries' distinct perm keys values =>
    cases huntied
    have halike : (Value.map entries).Alike (.map entries') := .map distinct perm keys values
    obtain ⟨between, hperm, hrel⟩ := halike.exists_perm
    obtain ⟨moved, hmoved, hmovedPerm⟩ := List.perm_comp_forall₂ hperm.symm hnamed
    obtain ⟨named', hnamed', hrelated⟩ := forall₂_decodesEntry h hrel hmoved
    refine ⟨_, table_eq_ok.mpr ⟨entries', named', rfl, hnamed', rfl⟩, moved, ?_, ?_⟩
    · rw [Table.entries_ofList (nodup_of_decodesEntry hnamed halike.nodup)]
      exact hmovedPerm.symm
    · rw [Table.entries_ofList (nodup_of_decodesEntry hnamed' halike.nodup_right)]
      exact hrelated

theorem Steady.table (h : Steady decode) {v w : Value} {t : Table α} (halike : v.Alike w)
    (hv : table decode v = .ok t) : ∃ u, Validation.table decode w = .ok u ∧ t.Reorders Eq u :=
  table_reorders (fun v w a hvw ha => ⟨a, h v w a hvw ha, rfl⟩) halike hv

/-- A table that may be absent, and then is empty. -/
theorem optionalTable_reorders {R : α → α → Prop}
    (h : ∀ v w t, v.Alike w → table decode v = .ok t →
      ∃ u, table decode w = .ok u ∧ t.Reorders R u)
    {names : List String} {entries entries' : List (Atom × Value)}
    (halike : (Value.map entries).Alike (.map entries')) {t : Table α}
    (ht : optionalField names .empty (table decode) entries = .ok t) :
    ∃ u, optionalField names .empty (table decode) entries' = .ok u ∧ t.Reorders R u := by
  rcases optionalField_eq_ok.mp ht with ⟨hfind, rfl⟩ | ⟨name, v, hfind, hv⟩
  · exact ⟨.empty, optionalField_eq_ok.mpr (.inl ⟨find_eq_none halike hfind, rfl⟩), [], .nil, .nil⟩
  · obtain ⟨w, hfind', hvw⟩ := find_eq_some halike hfind
    obtain ⟨u, hu, htu⟩ := h v w t hvw hv
    exact ⟨u, optionalField_eq_ok.mpr (.inr ⟨name, w, hfind', hu⟩), htu⟩

end ApiConformance.Validation
