import ApiConformance.Interface.Decode
import ApiConformance.Proofs.Validation.Steady

/-!
The order in which data lists its entries does not matter to the interface that it holds, but for
the order in which the interface lists its own.
-/
namespace ApiConformance

open Validation

/-- Inside a type there is one level less to be read; the induction is on the room for levels. -/
theorem TypeExpr.steady_decode (room : Nat) : Steady (decode room) := by
  induction room with
  | zero =>
    refine steady_tagged fun decoder hdecoder entries entries' a halike ha => ?_
    obtain ⟨_, -, rfl⟩ := List.mem_map.mp hdecoder
    exact absurd ha Checked.fault_ne_ok
  | succ room ih =>
    refine steady_tagged fun decoder hdecoder => ?_
    simp only [List.mem_cons, List.not_mem_nil, or_false] at hdecoder
    rcases hdecoder with rfl | rfl | rfl | rfl
    · exact (steady_integer.required _).map _
    · exact (ih.tuple.optional _ _).map _
    · exact ((((steady_text.optional _ _).map _).seq (steady_text.required _)).seq
        (steady_text.required _)).seq (ih.tuple.optional _ _)
    · exact ((ih.tuple.optional _ _).map _).seq (ih.required _)

theorem TypeExpr.steady_ofField : Steady ofField := steady_decode maxDepth

theorem Parameter.steady_ofValue : Steady ofValue :=
  (((steady_text.nullable.optional _ _).map _).seq (TypeExpr.steady_ofField.required _)).record _

theorem Function.steady_ofValue : Steady ofValue :=
  (((Parameter.steady_ofValue.tuple.optional _ _).map _).seq
    (TypeExpr.steady_ofField.nullable.optional _ _)).record _

theorem Constructor.steady_ofValue : Steady ofValue :=
  (((steady_text.required _).map _).seq (Parameter.steady_ofValue.tuple.optional _ _)).record _

theorem TypeDefinition.steady_ofValue : Steady ofValue :=
  ((((steady_integer.optional _ _).map _).seq
    (Constructor.steady_ofValue.tuple.optional _ _)).seq (steady_boolean.optional _ _)).record _

theorem TypeAlias.steady_ofValue : Steady ofValue :=
  (((steady_integer.optional _ _).map _).seq (TypeExpr.steady_ofField.required _)).record _

theorem Module.ofValue_reorders {v w : Value} {m : Module} (halike : v.Alike w)
    (h : ofValue v = .ok m) : ∃ m', ofValue w = .ok m' ∧ m.Reorders m' := by
  obtain ⟨entries, huntied, hm⟩ := record_eq_ok.mp h
  obtain ⟨functions, types, aliases, hfunctions, htypes, haliases, rfl⟩ := Checked.map₃_eq_ok.mp hm
  cases halike with
  | atom | list => cases huntied
  | @map _ _ entries' distinct perm keys values =>
    cases huntied
    have halike : (Value.map entries).Alike (.map entries') := .map distinct perm keys values
    obtain ⟨functions', hfunctions', hf⟩ :=
      optionalTable_reorders (fun _ _ _ => Function.steady_ofValue.table) halike hfunctions
    obtain ⟨types', htypes', ht⟩ :=
      optionalTable_reorders (fun _ _ _ => TypeDefinition.steady_ofValue.table) halike htypes
    obtain ⟨aliases', haliases', ha⟩ :=
      optionalTable_reorders (fun _ _ _ => TypeAlias.steady_ofValue.table) halike haliases
    exact ⟨⟨functions', types', aliases'⟩, record_eq_ok.mpr ⟨entries', rfl, Checked.map₃_eq_ok.mpr
      ⟨_, _, _, hfunctions', htypes', haliases', rfl⟩⟩, hf, ht, ha⟩

/-- Alike data holds interfaces that list the same in different orders. -/
theorem Interface.ofValue_reorders {v w : Value} {i : Interface} (halike : v.Alike w)
    (h : ofValue v = .ok i) : ∃ j, ofValue w = .ok j ∧ i.Reorders j := by
  obtain ⟨entries, huntied, hi⟩ := record_eq_ok.mp h
  obtain ⟨name, version, modules, hname, hversion, hmodules, rfl⟩ := Checked.map₃_eq_ok.mp hi
  cases halike with
  | atom | list => cases huntied
  | @map _ _ entries' distinct perm keys values =>
    cases huntied
    have halike : (Value.map entries).Alike (.map entries') := .map distinct perm keys values
    have hname' := steady_text.optional _ _ _ _ _ halike hname
    have hversion' := steady_text.nullable.optional _ _ _ _ _ halike hversion
    obtain ⟨modules', hmodules', hm⟩ := optionalTable_reorders
      (fun _ _ _ => table_reorders fun _ _ _ => Module.ofValue_reorders) halike hmodules
    exact ⟨⟨name, version, modules'⟩, record_eq_ok.mpr ⟨entries', rfl, Checked.map₃_eq_ok.mpr
      ⟨_, _, _, hname', hversion', hmodules', rfl⟩⟩, hm⟩

end ApiConformance
