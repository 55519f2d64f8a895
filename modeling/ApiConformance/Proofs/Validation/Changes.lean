import ApiConformance.Proofs.Lookup
import ApiConformance.Proofs.Validation.Accepted

/-!
Changes that decoders do not see. Data is changed in one field of a map, or item by item; if the
decoder of that part gives the same before and after, so does the decoder of the whole, with every
problem in its place.
-/
namespace ApiConformance

/-- A list with every item changed; data that is no list stays as it is. -/
def Value.mapItems (f : Value → Value) : Value → Value
  | .list vs => .list (vs.map f)
  | v => v

/-- The entries of a map, with what stands under a name changed. -/
def Value.changeEntries (name : String) (f : Value → Value) (entries : List (Atom × Value)) :
    List (Atom × Value) :=
  entries.map fun (key, v) => (key, if key = .text name then f v else v)

/-- A map with one field changed; data that is no map stays as it is. -/
def Value.mapField (name : String) (f : Value → Value) : Value → Value
  | .map entries => .map (changeEntries name f entries)
  | v => v

theorem Value.lookup_changeEntries (name : String) (f : Value → Value) (key : String)
    (entries : List (Atom × Value)) :
    lookup key (changeEntries name f entries) =
      (lookup key entries).map fun v => if key = name then f v else v := by
  have hlookup := Table.lookup_mapNamed (fun k v => if k = Atom.text name then f v else v) entries
    (.text key)
  simp only [Atom.text.injEq] at hlookup
  exact hlookup

namespace Validation

variable {α : Type} {decode : Value → Checked α}

/-! ### What decoders look at -/

theorem items_congr {vs ws : List Value} (h : vs.map decode = ws.map decode) :
    items decode vs = items decode ws := by
  have hdecoded (us : List Value) : us.mapIdx (fun i v => (decode v).under (.index i)) =
      (us.map decode).mapIdx fun i x => x.under (.index i) := by
    refine List.mapIdx_eq_iff.mpr fun i => ?_
    rw [List.getElem?_mapIdx, List.getElem?_map, Option.map_map]
    rfl
  rw [items, items, hdecoded, hdecoded, h]

section

variable {names : List String} {entries entries' : List (Atom × Value)}

theorem find_decoded (names : List String) (entries : List (Atom × Value)) :
    (find names entries).map (Prod.map id decode) =
      names.findSome? fun name => ((Value.lookup name entries).map decode).map (name, ·) := by
  unfold find
  simp only [List.map_findSome?, Option.map_map, Function.comp_def, Prod.map, id]

theorem find_congr (h : ∀ name ∈ names,
      (Value.lookup name entries).map decode = (Value.lookup name entries').map decode) :
    (find names entries).map (Prod.map id decode) =
      (find names entries').map (Prod.map id decode) := by
  rw [find_decoded, find_decoded]
  induction names with
  | nil => rfl
  | cons name names ih =>
    obtain ⟨hname, hnames⟩ := List.forall_mem_cons.mp h
    rw [List.findSome?_cons, List.findSome?_cons, hname, ih hnames]

theorem found_congr (h : ∀ name ∈ names,
      (Value.lookup name entries).map decode = (Value.lookup name entries').map decode)
    (absent : Checked α) :
    (match find names entries with
      | some (name, v) => (decode v).under (.key name)
      | none => absent) =
    match find names entries' with
      | some (name, v) => (decode v).under (.key name)
      | none => absent := by
  have hfind := find_congr h
  cases hv : find names entries with
  | none =>
    rw [hv, Option.map_none, eq_comm, Option.map_eq_none_iff] at hfind
    rw [hfind]
  | some found =>
    rw [hv, Option.map_some, eq_comm, Option.map_eq_some_iff] at hfind
    obtain ⟨found', hfound', heq⟩ := hfind
    obtain ⟨hname, hdecode⟩ := Prod.ext_iff.mp heq
    rw [hfound']
    dsimp only [Prod.map, id] at hname hdecode ⊢
    rw [hname, hdecode]

/-- A field is told by what its decoder makes of what stands under its names. -/
theorem requiredField_congr (h : ∀ name ∈ names,
      (Value.lookup name entries).map decode = (Value.lookup name entries').map decode) :
    requiredField names decode entries = requiredField names decode entries' := found_congr h _

theorem optionalField_congr {default : α} (h : ∀ name ∈ names,
      (Value.lookup name entries).map decode = (Value.lookup name entries').map decode) :
    optionalField names default decode entries = optionalField names default decode entries' :=
  found_congr h _

theorem tagged_congr {decoders : List (String × (List (Atom × Value) → Checked α))}
    (hkind : Value.lookup "kind" entries = Value.lookup "kind" entries')
    (h : ∀ tag fields, Value.lookup "kind" entries = some (.text tag) →
      decoders.lookup tag = some fields → fields entries = fields entries') :
    tagged decoders (.map entries) = tagged decoders (.map entries') := by
  simp only [tagged, Value.untied]
  rw [← hkind]
  split
  · rfl
  next hfound =>
    split
    · split
      next hfields => rw [h _ _ hfound hfields]
      · rfl
    · rfl

end

/-! ### Items and fields that are changed -/

variable {f : Value → Value}

theorem items_map (h : ∀ v, decode (f v) = decode v) (vs : List Value) :
    items decode (vs.map f) = items decode vs := by
  apply items_congr
  rw [List.map_map]
  exact List.map_congr_left fun v _ => h v

theorem tuple_mapItems (h : ∀ v, decode (f v) = decode v) (v : Value) :
    tuple decode (v.mapItems f) = tuple decode v := by
  cases v with
  | list vs => exact items_map h vs
  | _ => rfl

variable {name : String} {names : List String} {entries : List (Atom × Value)}

/-- A change that a decoder does not see is not seen where the decoder finds its value. -/
theorem decoded_changeEntries (h : name ∈ names → ∀ v, decode (f v) = decode v) {n : String}
    (hn : n ∈ names) :
    (Value.lookup n (Value.changeEntries name f entries)).map decode =
      (Value.lookup n entries).map decode := by
  rw [Value.lookup_changeEntries, Option.map_map]
  congr 1
  funext v
  by_cases hname : n = name
  · rw [Function.comp_apply, if_pos hname, h (hname ▸ hn)]
  · rw [Function.comp_apply, if_neg hname]

theorem requiredField_changeEntries (h : name ∈ names → ∀ v, decode (f v) = decode v) :
    requiredField names decode (Value.changeEntries name f entries) =
      requiredField names decode entries :=
  requiredField_congr fun _ => decoded_changeEntries h

theorem optionalField_changeEntries {default : α}
    (h : name ∈ names → ∀ v, decode (f v) = decode v) :
    optionalField names default decode (Value.changeEntries name f entries) =
      optionalField names default decode entries :=
  optionalField_congr fun _ => decoded_changeEntries h

theorem tagged_changeEntries {decoders : List (String × (List (Atom × Value) → Checked α))}
    {tag : String} {fields : List (Atom × Value) → Checked α}
    (hkind : Value.lookup "kind" entries = some (.text tag))
    (hfields : decoders.lookup tag = some fields) (hname : "kind" ≠ name)
    (h : fields (Value.changeEntries name f entries) = fields entries) :
    tagged decoders (.map (Value.changeEntries name f entries)) =
      tagged decoders (.map entries) := by
  have hkind' : Value.lookup "kind" (Value.changeEntries name f entries) = some (.text tag) := by
    rw [Value.lookup_changeEntries, hkind, Option.map_some, if_neg hname]
  rw [tagged_of_kind hkind' hfields, tagged_of_kind hkind hfields, h]

end Validation

end ApiConformance
