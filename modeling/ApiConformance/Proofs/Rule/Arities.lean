import ApiConformance.Proofs.Json.Data
import ApiConformance.Proofs.Rule.Steady
import ApiConformance.Proofs.Verify.Calls
import ApiConformance.Proofs.Violation.Written

/-!
Rules that JSON text holds ask for no arity that is too long to be written: integers that are too
long are not read, and neither are texts of as many digits. So there is a report on such rules,
whatever they are checked against.
-/
namespace ApiConformance

theorem Value.IsRead.untied_eq {v : Value} (h : v.IsRead) : v.untied = v := by
  cases h.1 <;> rfl

namespace Validation

variable {α : Type} {decode : Value → Checked α}

/-! ### Integers -/

theorem isWritable_of_plainInteger {cs : List Char} {n : Int} (h : plainInteger cs = .ok n) :
    Text.isWritable n = true := by
  unfold plainInteger at h
  split at h
  extract_lets digits at h
  have hdigits : ∀ c ∈ digits, Text.isDigit c = true := List.all_eq_true.mp List.all_takeWhile
  split at h
  · cases h
  · split at h
    · split at h <;> cases h
      decide +kernel
    · split at h
      · cases h
      next hlength =>
        have hwritable := Text.isWritable_readDecimal hdigits (Nat.le_of_not_lt hlength)
        split at h <;> cases h
        split
        · rw [Text.isWritable_neg, hwritable]
        · exact hwritable

theorem isWritable_of_integerOfText {s : String} {n : Int} (h : integerOfText s = .ok n) :
    Text.isWritable n = true := by
  unfold integerOfText at h
  split at h
  split at h
  · cases h
  · exact isWritable_of_plainInteger h

theorem isWritable_of_isNarrow {n : Int} (h : isNarrow n = true) : Text.isWritable n = true := by
  have hnarrow : n.natAbs < 1 <<< 63 := of_decide_eq_true h
  have hwide : 1 <<< 63 ≤ 10 ^ 19 := by decide
  rw [Text.isWritable_iff]
  exact Nat.lt_of_lt_of_le hnarrow (hwide.trans (Nat.pow_le_pow_right (by decide) (by decide)))

theorem isWritable_of_integerOfReal {x : Binary64} {n : Int} (h : integerOfReal x = .ok n) :
    Text.isWritable n = true := by
  unfold integerOfReal at h
  split at h
  · cases h
  · split at h
    · cases h
    · split at h <;> cases h
      next hnarrow => exact isWritable_of_isNarrow hnarrow

theorem isWritable_of_integer {v : Value} (hv : v.IsRead) {n : Int} (h : integer v = .ok n) :
    Text.isWritable n = true := by
  obtain ⟨hjson, hwritable⟩ := hv
  cases hjson with
  | null | list | map => cases h
  | bool b =>
    cases h
    cases b <;> decide +kernel
  | int n =>
    cases h
    rwa [Value.isWritable_int] at hwritable
  | real x => exact isWritable_of_integerOfReal h
  | text s => exact isWritable_of_integerOfText h

theorem isWritable_of_naturalNumber {v : Value} (hv : v.IsRead) {n : Nat}
    (h : naturalNumber v = .ok n) : Text.isWritable n = true := by
  unfold naturalNumber at h
  split at h
  next n hn =>
    cases h
    exact isWritable_of_integer hv hn
  · cases h
  · cases h

/-! ### Fields -/

theorem isRead_of_find {names : List String} {entries : List (Atom × Value)}
    (hentries : (Value.map entries).IsRead) {name : String} {v : Value}
    (h : find names entries = some (name, v)) : v.IsRead := by
  obtain ⟨key, -, hkey⟩ := List.exists_of_findSome?_eq_some h
  obtain ⟨w, hw, heq⟩ := Option.map_eq_some_iff.mp hkey
  cases heq
  obtain ⟨before, after, hsplit, -⟩ := List.lookup_eq_some_iff.mp hw
  have hmem : (Atom.text name, v) ∈ entries := by simp [hsplit]
  exact hentries.of_mem_map hmem

theorem forall_of_decoded {P : α → Prop} (hdecode : ∀ v a, v.IsRead → decode v = .ok a → P a)
    {vs : List Value} (hvs : ∀ v ∈ vs, v.IsRead) {as : List α}
    (h : List.Forall₂ (fun v a => decode v = .ok a) vs as) : ∀ a ∈ as, P a := by
  induction h with
  | nil => exact List.forall_mem_nil _
  | cons hv _ ih =>
    obtain ⟨hfirst, hvs⟩ := List.forall_mem_cons.mp hvs
    exact List.forall_mem_cons.mpr ⟨hdecode _ _ hfirst hv, ih hvs⟩

theorem forall_of_tuple {P : α → Prop} (hdecode : ∀ v a, v.IsRead → decode v = .ok a → P a)
    {v : Value} (hv : v.IsRead) {as : List α} (h : tuple decode v = .ok as) : ∀ a ∈ as, P a := by
  obtain ⟨vs, hitems, hvs⟩ := tuple_eq_ok.mp h
  unfold items? at hitems
  rw [hv.untied_eq] at hitems
  have hjson := hv.1
  cases hjson with
  | list =>
    cases hitems
    exact forall_of_decoded hdecode (fun _ => hv.of_mem_list) hvs
  | _ => cases hitems

end Validation

open Validation

/-- An arity that is asked for has no more digits than are ever written. -/
def ExportSpec.IsWritable (e : ExportSpec) : Prop := Text.isWritable e.arity = true

def Rule.IsWritable : Rule → Prop
  | .requiredExports r => ∀ e ∈ r.exports, e.IsWritable
  | _ => True

theorem ExportSpec.isWritable_of_ofValue {v : Value} (hv : v.IsRead) {e : ExportSpec}
    (h : ofValue v = .ok e) : e.IsWritable := by
  obtain ⟨entries, hmap, hfields⟩ := record_eq_ok.mp h
  rw [hv.untied_eq] at hmap
  subst hmap
  obtain ⟨_, arity, _, -, harity, -, rfl⟩ := Checked.map₃_eq_ok.mp hfields
  obtain ⟨_, w, hfind, hw⟩ := requiredField_eq_ok.mp harity
  exact isWritable_of_naturalNumber (isRead_of_find hv hfind) hw

theorem Rule.isWritable_of_ofValue {v : Value} (hv : v.IsRead) {r : Rule}
    (h : ofValue v = .ok r) : r.IsWritable := by
  obtain ⟨entries, _, fields, hmap, -, hlookup, hfields⟩ := tagged_eq_ok.mp h
  rw [hv.untied_eq] at hmap
  subst hmap
  have hmem := mem_of_lookup hlookup
  simp only [List.mem_cons, List.not_mem_nil, or_false, Prod.mk.injEq] at hmem
  rcases hmem with ⟨-, rfl⟩ | ⟨-, rfl⟩ | ⟨-, rfl⟩
  · obtain ⟨_, -, rfl⟩ := Checked.map_eq_ok.mp hfields
    trivial
  · obtain ⟨r, hr, rfl⟩ := Checked.map_eq_ok.mp hfields
    obtain ⟨_, exports, -, hexports, rfl⟩ := Checked.map₂_eq_ok.mp hr
    rcases optionalField_eq_ok.mp hexports with ⟨-, rfl⟩ | ⟨_, w, hfind, hw⟩
    · exact List.forall_mem_nil _
    · exact forall_of_tuple (fun _ _ hv h => ExportSpec.isWritable_of_ofValue hv h)
        (isRead_of_find hv hfind) hw
  · obtain ⟨_, -, rfl⟩ := Checked.map_eq_ok.mp hfields
    trivial

theorem Rule.ReadsAs.isWritable {vs : List Value} (hvs : (Value.list vs).IsRead)
    {rules : List Rule} (h : ReadsAs vs rules) : ∀ r ∈ rules, r.IsWritable :=
  forall_of_decoded (fun _ _ hv h => isWritable_of_ofValue hv h) (fun _ => hvs.of_mem_list) h

theorem Rule.CallsFor.isWritable {r : Rule} (hr : r.IsWritable) {i : Interface} {v : Violation}
    (h : r.CallsFor i v) : v.IsWritable := by
  cases h with
  | missingExport _ listed _ => exact hr _ listed
  | _ => trivial

/-- There is a report on rules whose arities can be written. -/
theorem Interface.exists_report {rules : List Rule} (h : ∀ r ∈ rules, r.IsWritable)
    (i : Interface) : ∃ report, Report.build (i.verify rules) = .ok report := by
  refine ⟨_, Report.build_eq_ok_iff.mpr ⟨fun v hv => ?_, rfl⟩⟩
  obtain ⟨r, hr, hcheck⟩ := List.mem_flatMap.mp hv
  exact (Rule.mem_check_iff_callsFor.mp hcheck).isWritable (h r hr)

end ApiConformance
