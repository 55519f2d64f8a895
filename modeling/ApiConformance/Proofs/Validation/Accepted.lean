import Mathlib.Data.List.Forall2
import ApiConformance.Validation.Field

/-!
What decoders accept. A value is decoded exactly if all of its parts are, and then into what
its parts are decoded into; which problems others have does not matter here.
-/
namespace ApiConformance

namespace Checked

variable {α β γ δ : Type}

theorem map_eq_ok {f : α → β} {x : Checked α} {b : β} :
    f <$> x = .ok b ↔ ∃ a, x = .ok a ∧ f a = b := by
  cases x <;> simp

theorem seq_eq_ok {f : Checked (α → β)} {x : Checked α} {b : β} :
    f <*> x = .ok b ↔ ∃ g a, f = .ok g ∧ x = .ok a ∧ g a = b := by
  cases f <;> cases x <;> simp

theorem map₂_eq_ok {f : α → β → γ} {x : Checked α} {y : Checked β} {c : γ} :
    f <$> x <*> y = .ok c ↔ ∃ a b, x = .ok a ∧ y = .ok b ∧ f a b = c := by
  cases x <;> cases y <;> simp

theorem map₃_eq_ok {f : α → β → γ → δ} {x : Checked α} {y : Checked β} {z : Checked γ} {d : δ} :
    f <$> x <*> y <*> z = .ok d ↔
      ∃ a b c, x = .ok a ∧ y = .ok b ∧ z = .ok c ∧ f a b c = d := by
  cases x <;> cases y <;> cases z <;> simp

theorem under_eq_ok {step : Step} {x : Checked α} {a : α} : x.under step = .ok a ↔ x = .ok a := by
  cases x <;> simp [under]

theorem fault_ne_ok {f : Fault} {a : α} : (fault f : Checked α) ≠ .ok a := nofun

theorem all_cons_eq_ok {x : Checked α} {xs : List (Checked α)} {as : List α} :
    all (x :: xs) = .ok as ↔ ∃ a rest, x = .ok a ∧ all xs = .ok rest ∧ a :: rest = as := by
  rw [all_cons, seq_eq_ok]
  constructor
  · rintro ⟨g, rest, hg, hrest, rfl⟩
    obtain ⟨a, ha, rfl⟩ := map_eq_ok.mp hg
    exact ⟨a, rest, ha, hrest, rfl⟩
  · rintro ⟨a, rest, ha, hrest, rfl⟩
    exact ⟨_, rest, map_eq_ok.mpr ⟨a, ha, rfl⟩, hrest, rfl⟩

theorem all_map_eq_ok {f : γ → Checked α} {cs : List γ} {as : List α} :
    all (cs.map f) = .ok as ↔ List.Forall₂ (fun c a => f c = .ok a) cs as := by
  induction cs generalizing as with
  | nil => simp [List.forall₂_nil_left_iff, eq_comm]
  | cons c cs ih =>
    rw [List.map_cons, all_cons_eq_ok, List.forall₂_cons_left_iff]
    simp only [ih, eq_comm]

/-- Where a part stands matters to its problems alone. -/
theorem all_mapIdx_eq_ok {f : Nat → γ → Checked α} {R : γ → α → Prop}
    (h : ∀ i c a, f i c = .ok a ↔ R c a) {cs : List γ} {as : List α} :
    all (cs.mapIdx f) = .ok as ↔ List.Forall₂ R cs as := by
  induction cs generalizing f as with
  | nil => simp [List.forall₂_nil_left_iff, eq_comm]
  | cons c cs ih =>
    rw [List.mapIdx_cons, all_cons_eq_ok, List.forall₂_cons_left_iff]
    simp only [ih fun i => h (i + 1), h, eq_comm]

end Checked

namespace Validation

variable {α : Type} {decode : Value → Checked α}

theorem items_eq_ok {vs : List Value} {as : List α} :
    items decode vs = .ok as ↔ List.Forall₂ (fun v a => decode v = .ok a) vs as :=
  Checked.all_mapIdx_eq_ok fun _ _ _ => Checked.under_eq_ok

theorem tuple_eq_ok {v : Value} {as : List α} :
    tuple decode v = .ok as ↔
      ∃ vs, items? v = some vs ∧ List.Forall₂ (fun v a => decode v = .ok a) vs as := by
  unfold tuple
  cases items? v with
  | none => simp [Checked.fault_ne_ok]
  | some vs => simp [items_eq_ok]

theorem entry_eq_ok {key : Atom} {v : Value} {named : String × α} :
    entry decode key v = .ok named ↔ key = .text named.1 ∧ decode v = .ok named.2 := by
  obtain ⟨name, a⟩ := named
  cases key with
  | text other =>
    simp only [entry, Checked.map_eq_ok, Checked.under_eq_ok, Prod.mk.injEq, Atom.text.injEq]
    constructor
    · rintro ⟨_, ha, rfl, rfl⟩
      exact ⟨rfl, ha⟩
    · rintro ⟨rfl, ha⟩
      exact ⟨a, ha, rfl, rfl⟩
  | _ =>
    simp only [entry, Checked.seq_eq_ok, Checked.map_eq_ok, Checked.under_eq_ok]
    simp [Checked.fault_ne_ok]

theorem table_eq_ok {v : Value} {t : Table α} :
    table decode v = .ok t ↔ ∃ entries named, v.untied = .map entries ∧
      List.Forall₂ (fun e n => e.1 = .text n.1 ∧ decode e.2 = .ok n.2) entries named ∧
      Table.ofList named = t := by
  unfold table
  cases v.untied with
  | map entries =>
    simp only [Checked.map_eq_ok, Checked.all_map_eq_ok, entry_eq_ok, Value.map.injEq]
    constructor
    · rintro ⟨named, hnamed, rfl⟩
      exact ⟨entries, named, rfl, hnamed, rfl⟩
    · rintro ⟨_, named, rfl, hnamed, rfl⟩
      exact ⟨named, hnamed, rfl⟩
  | _ => simp [Checked.fault_ne_ok]

theorem record_eq_ok {shape : String} {fields : List (Atom × Value) → Checked α} {v : Value}
    {a : α} :
    record shape fields v = .ok a ↔ ∃ entries, v.untied = .map entries ∧ fields entries = .ok a := by
  unfold record
  cases v.untied with
  | map entries => simp
  | _ => simp [Checked.fault_ne_ok]

theorem tagged_eq_ok {decoders : List (String × (List (Atom × Value) → Checked α))} {v : Value}
    {a : α} :
    tagged decoders v = .ok a ↔ ∃ entries tag fields, v.untied = .map entries ∧
      Value.lookup "kind" entries = some (.text tag) ∧ decoders.lookup tag = some fields ∧
      fields entries = .ok a := by
  unfold tagged
  cases v.untied with
  | map entries =>
    cases hkind : Value.lookup "kind" entries with
    | none => simp [hkind, Checked.fault_ne_ok]
    | some kind =>
      cases kind with
      | atom kind =>
        cases kind with
        | text tag => cases hfields : decoders.lookup tag <;>
            simp [hkind, hfields, Checked.under_eq_ok, Checked.fault_ne_ok]
        | _ => simp [hkind, Checked.fault_ne_ok]
      | _ => simp [hkind, Checked.fault_ne_ok]
  | atom kind => cases kind <;> simp [Checked.fault_ne_ok]
  | _ => simp [Checked.fault_ne_ok]

/-- The kind of a value says which decoder reads it. -/
theorem tagged_of_kind {decoders : List (String × (List (Atom × Value) → Checked α))}
    {entries : List (Atom × Value)} {tag : String} {fields : List (Atom × Value) → Checked α}
    (hkind : Value.lookup "kind" entries = some (.text tag))
    (hfields : decoders.lookup tag = some fields) :
    tagged decoders (.map entries) = (fields entries).under (.kind tag) := by
  simp only [tagged, Value.untied, hkind, hfields]

theorem mem_of_lookup {β : Type} {tag : String} {b : β} {entries : List (String × β)}
    (h : entries.lookup tag = some b) : (tag, b) ∈ entries := by
  obtain ⟨_, _, rfl, -⟩ := List.lookup_eq_some_iff.mp h
  simp

theorem requiredField_eq_ok {names : List String} {entries : List (Atom × Value)} {a : α} :
    requiredField names decode entries = .ok a ↔
      ∃ name v, find names entries = some (name, v) ∧ decode v = .ok a := by
  unfold requiredField
  cases find names entries with
  | none => simp
  | some found => simp [Checked.under_eq_ok, Prod.ext_iff]

theorem optionalField_eq_ok {names : List String} {default : α} {entries : List (Atom × Value)}
    {a : α} :
    optionalField names default decode entries = .ok a ↔
      (find names entries = none ∧ default = a) ∨
      ∃ name v, find names entries = some (name, v) ∧ decode v = .ok a := by
  unfold optionalField
  cases find names entries with
  | none => simp
  | some found => simp [Checked.under_eq_ok, Prod.ext_iff]

theorem decode_of_optionalField {name : String} {default : α} {entries : List (Atom × Value)}
    {v : Value} {a : α} (h : optionalField [name] default decode entries = .ok a)
    (hv : Value.lookup name entries = some v) : decode v = .ok a := by
  simpa [optionalField, find, hv, Checked.under_eq_ok] using h

end Validation

end ApiConformance
