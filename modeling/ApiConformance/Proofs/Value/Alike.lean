import Mathlib.Data.List.Perm.Basic
import ApiConformance.Proofs.Lookup
import ApiConformance.Value.Basic

/-!
Data that is the same but for the order in which maps list their entries. Under a key there is the
same to be found, whatever the order.
-/
namespace ApiConformance

/-- The same data: lists have their items in the same order, maps their entries in any order. -/
inductive Value.Alike : Value → Value → Prop where
  | atom (a : Atom) : Alike (.atom a) (.atom a)
  | list {vs ws : List Value} (items : List.Forall₂ Alike vs ws) : Alike (.list vs) (.list ws)
  | map {entries between entries' : List (Atom × Value)} (distinct : (entries.map Prod.fst).Nodup)
      (perm : entries.Perm between) (keys : between.map Prod.fst = entries'.map Prod.fst)
      (values : List.Forall₂ Alike (between.map Prod.snd) (entries'.map Prod.snd)) :
      Alike (.map entries) (.map entries')

theorem forall₂_of_parts {κ α : Type} {R : α → α → Prop} {entries entries' : List (κ × α)}
    (keys : entries.map Prod.fst = entries'.map Prod.fst)
    (values : List.Forall₂ R (entries.map Prod.snd) (entries'.map Prod.snd)) :
    List.Forall₂ (fun x y => x.1 = y.1 ∧ R x.2 y.2) entries entries' := by
  rw [← List.forall₂_eq_eq_eq, List.forall₂_map_left_iff, List.forall₂_map_right_iff] at keys
  rw [List.forall₂_map_left_iff, List.forall₂_map_right_iff] at values
  induction keys with
  | nil => exact .nil
  | cons hkey _ ih =>
    cases values with
    | cons hvalue hvalues => exact .cons ⟨hkey, hvalue⟩ (ih hvalues)

namespace Value.Alike

variable {entries entries' : List (Atom × Value)}

theorem exists_perm (h : (Value.map entries).Alike (.map entries')) :
    ∃ between, entries.Perm between ∧
      List.Forall₂ (fun x y => x.1 = y.1 ∧ x.2.Alike y.2) between entries' := by
  cases h with
  | map _ perm keys values => exact ⟨_, perm, forall₂_of_parts keys values⟩

theorem nodup (h : (Value.map entries).Alike (.map entries')) :
    (entries.map Prod.fst).Nodup := by
  cases h with
  | map distinct => exact distinct

theorem nodup_right (h : (Value.map entries).Alike (.map entries')) :
    (entries'.map Prod.fst).Nodup := by
  cases h with
  | map distinct perm keys => exact keys ▸ (perm.map Prod.fst).nodup distinct

theorem rel_lookup (h : (Value.map entries).Alike (.map entries')) (name : String) :
    Option.Rel Alike (lookup name entries) (lookup name entries') := by
  obtain ⟨between, hperm, hrel⟩ := h.exists_perm
  unfold lookup
  rw [Table.lookup_eq_of_perm hperm h.nodup]
  exact Table.rel_lookup hrel _

theorem lookup_eq_some (h : (Value.map entries).Alike (.map entries')) {name : String} {v : Value}
    (hv : lookup name entries = some v) : ∃ w, lookup name entries' = some w ∧ v.Alike w := by
  have hrel := h.rel_lookup name
  rw [hv] at hrel
  generalize lookup name entries' = found at hrel
  cases hrel with
  | some halike => exact ⟨_, rfl, halike⟩

theorem lookup_eq_none (h : (Value.map entries).Alike (.map entries')) {name : String}
    (hv : lookup name entries = none) : lookup name entries' = none := by
  have hrel := h.rel_lookup name
  rw [hv] at hrel
  generalize lookup name entries' = found at hrel
  cases hrel
  rfl

end Value.Alike

end ApiConformance
