import ApiConformance.Proofs.Verify.Exports

/-!
How rules list what they speak of. Type names and exceptions count as sets, however often and in
whatever order they are listed. Exports count as they are listed only among those of one name and
one arity, which are visited in that order.
-/
namespace ApiConformance

/-! ### Sets of names -/

theorem sortedNames_congr {names names' : List String}
    (h : ∀ name, name ∈ names ↔ name ∈ names') : sortedNames names = sortedNames names' := by
  have hnodup (names : List String) : (sortedNames names).Nodup :=
    (pairwise_sortedNames names).imp fun hlt => hlt.ne
  have hperm : (sortedNames names).Perm (sortedNames names') := by
    rw [List.perm_ext_iff_of_nodup (hnodup names) (hnodup names')]
    intro name
    rw [mem_sortedNames, mem_sortedNames, h]
  exact hperm.eq_of_pairwise (fun _ _ _ _ hlt hgt => absurd hlt hgt.asymm)
    (pairwise_sortedNames names) (pairwise_sortedNames names')

theorem SharedTypes.check_congr_names {a b : String} {names names' : List String}
    (h : ∀ name, name ∈ names ↔ name ∈ names') (i : Interface) :
    (Rule.sharedTypes ⟨a, b, names⟩).check i = (Rule.sharedTypes ⟨a, b, names'⟩).check i := by
  have hname (ma mb : Module) :
      checkName ⟨a, b, names⟩ ma mb = checkName ⟨a, b, names'⟩ ma mb := rfl
  simp only [Rule.check, check, checkModules, sortedNames_congr h, hname]

theorem MirrorRule.check_congr_exceptions {s t : String} {lead : List ParamSpec}
    {exceptions exceptions' : List String} (h : ∀ name, name ∈ exceptions ↔ name ∈ exceptions')
    (i : Interface) :
    (Rule.mirror ⟨s, t, lead, exceptions⟩).check i =
      (Rule.mirror ⟨s, t, lead, exceptions'⟩).check i := by
  have hexcused (name : String) : exceptions.contains name = exceptions'.contains name := by
    rw [Bool.eq_iff_iff, List.contains_iff_mem, List.contains_iff_mem, h]
  simp only [Rule.check, check, checkModules, checkFunction, hexcused]

/-! ### Lists of exports -/

theorem ExportSpec.arity_le_of_precedes {e e' : ExportSpec} (h : e.precedes e' = true)
    (hname : e'.name = e.name) : e.arity ≤ e'.arity := by
  rcases of_decide_eq_true h with hlt | ⟨-, hle⟩
  · exact absurd hlt (hname ▸ lt_irrefl _)
  · exact hle

/-- Exports are visited in the order in which they are listed if they have one name and arity. -/
theorem ExportSpec.alike_precedes (e e' : ExportSpec) :
    Sorting.alike precedes e e' = decide (e'.name = e.name ∧ e'.arity = e.arity) := by
  unfold Sorting.alike
  rw [Bool.eq_iff_iff, Bool.and_eq_true, decide_eq_true_eq]
  constructor
  · rintro ⟨hle, hge⟩
    have hname := le_antisymm (name_le_of_precedes hge) (name_le_of_precedes hle)
    refine ⟨hname, le_antisymm ?_ ?_⟩
    · exact arity_le_of_precedes hge hname.symm
    · exact arity_le_of_precedes hle hname
  · rintro ⟨hname, harity⟩
    exact ⟨decide_eq_true (.inr ⟨hname.symm, harity.ge⟩), decide_eq_true (.inr ⟨hname, harity.le⟩)⟩

/-- The exports of one name and one arity are listed in the same order. -/
def ExportSpec.ListedAlike (exports exports' : List ExportSpec) : Prop :=
  ∀ name arity, exports.filter (fun e => e.name = name ∧ e.arity = arity) =
    exports'.filter fun e => e.name = name ∧ e.arity = arity

theorem ExportSpec.mergeSort_eq_of_listedAlike {exports exports' : List ExportSpec}
    (h : ListedAlike exports exports') :
    exports.mergeSort precedes = exports'.mergeSort precedes := by
  refine Sorting.mergeSort_eq_of_filter_eq precedes_trans precedes_total fun e => ?_
  rw [funext e.alike_precedes]
  exact h e.name e.arity

/-- Of exports that all differ in name or arity at most one is meant, wherever it is listed. -/
theorem ExportSpec.listedAlike_of_perm {exports exports' : List ExportSpec}
    (h : exports.Perm exports') (hdistinct : (exports.map fun e => (e.name, e.arity)).Nodup) :
    ListedAlike exports exports' := by
  intro name arity
  have hany (l : List ExportSpec) : l.Pairwise fun _ _ => True :=
    List.pairwise_of_forall fun _ _ => trivial
  refine (h.filter _).eq_of_pairwise (fun e e' he he' _ _ => ?_) (hany _) (hany _)
  obtain ⟨hlisted, hmeant⟩ := List.mem_filter.mp he
  obtain ⟨hlisted', hmeant'⟩ := List.mem_filter.mp he'
  rw [decide_eq_true_eq] at hmeant hmeant'
  refine List.inj_on_of_nodup_map hdistinct hlisted (h.mem_iff.mpr hlisted') ?_
  rw [hmeant.1, hmeant.2, hmeant'.1, hmeant'.2]

theorem RequiredExports.check_eq_of_listedAlike {path : String} {exports exports' : List ExportSpec}
    (h : ExportSpec.ListedAlike exports exports') (i : Interface) :
    (Rule.requiredExports ⟨path, exports⟩).check i =
      (Rule.requiredExports ⟨path, exports'⟩).check i := by
  simp only [Rule.check, check, checkModule, ExportSpec.mergeSort_eq_of_listedAlike h]

theorem RequiredExports.check_perm {path : String} {exports exports' : List ExportSpec}
    (h : exports.Perm exports') (i : Interface) :
    ((Rule.requiredExports ⟨path, exports⟩).check i).Perm
      ((Rule.requiredExports ⟨path, exports'⟩).check i) := by
  have hsorted : (exports.mergeSort ExportSpec.precedes).Perm
      (exports'.mergeSort ExportSpec.precedes) :=
    (List.mergeSort_perm ..).trans (h.trans (List.mergeSort_perm ..).symm)
  simp only [Rule.check, check, checkModule]
  cases i.modules.get? path with
  | none => exact .refl _
  | some m => exact hsorted.filterMap _

/-- A rule on shared types reports the same for the same set of type names, and a mirror rule for
the same set of exceptions. Required exports that are listed in another order have their reports in
another order at most, and in the same one if no two of them have one name and one arity, or if
those that do are listed alike. -/
theorem Rule.check_relisted (i : Interface) :
    (∀ (a b : String) (names names' : List String), (∀ name, name ∈ names ↔ name ∈ names') →
      (Rule.sharedTypes ⟨a, b, names⟩).check i = (Rule.sharedTypes ⟨a, b, names'⟩).check i) ∧
    (∀ (s t : String) (lead : List ParamSpec) (exceptions exceptions' : List String),
      (∀ name, name ∈ exceptions ↔ name ∈ exceptions') →
      (Rule.mirror ⟨s, t, lead, exceptions⟩).check i =
        (Rule.mirror ⟨s, t, lead, exceptions'⟩).check i) ∧
    ∀ (path : String) (exports exports' : List ExportSpec), exports.Perm exports' →
      ((Rule.requiredExports ⟨path, exports⟩).check i).Perm
        ((Rule.requiredExports ⟨path, exports'⟩).check i) ∧
      ((exports.map fun e => (e.name, e.arity)).Nodup ∨ ExportSpec.ListedAlike exports exports' →
        (Rule.requiredExports ⟨path, exports⟩).check i =
          (Rule.requiredExports ⟨path, exports'⟩).check i) := by
  refine ⟨fun a b names names' h => SharedTypes.check_congr_names h i,
    fun s t lead exceptions exceptions' h => MirrorRule.check_congr_exceptions h i,
    fun path exports exports' h => ⟨RequiredExports.check_perm h i, fun hlisted => ?_⟩⟩
  have halike : ExportSpec.ListedAlike exports exports' :=
    hlisted.elim (ExportSpec.listedAlike_of_perm h) id
  exact RequiredExports.check_eq_of_listedAlike halike i

/-! ### Bids at the stall -/

/-- Two exports of one name and one arity, of which the back of the stall offers neither. -/
def bids : List ExportSpec := [⟨"buy", 1, [.labeled "low"]⟩, ⟨"buy", 1, [.labeled "high"]⟩]

/-- The order of exports matters to the bids alone. -/
theorem stall_relisted :
    (∀ name, name ∈ ["Coin", "Box", "Coin"] ↔ name ∈ ["Box", "Coin"]) ∧
    (Rule.sharedTypes ⟨"front", "back", ["Coin", "Box", "Coin"]⟩).check stall =
      (Rule.sharedTypes ⟨"front", "back", ["Box", "Coin"]⟩).check stall ∧
    (∀ name, name ∈ ["buy", "sell", "buy"] ↔ name ∈ ["sell", "buy"]) ∧
    (Rule.mirror ⟨"front", "back", [], ["buy", "sell", "buy"]⟩).check stall =
      (Rule.mirror ⟨"front", "back", [], ["sell", "buy"]⟩).check stall ∧
    stallExports.exports.Perm stallExports.exports.reverse ∧
    (stallExports.exports.map fun e => (e.name, e.arity)).Nodup ∧
    (Rule.requiredExports ⟨"back", stallExports.exports⟩).check stall =
      (Rule.requiredExports ⟨"back", stallExports.exports.reverse⟩).check stall ∧
    bids.Perm bids.reverse ∧
    ((Rule.requiredExports ⟨"back", bids⟩).check stall).Perm
      ((Rule.requiredExports ⟨"back", bids.reverse⟩).check stall) ∧
    (Rule.requiredExports ⟨"back", bids⟩).check stall ≠
      (Rule.requiredExports ⟨"back", bids.reverse⟩).check stall := by
  have hnames : ∀ name, name ∈ ["Coin", "Box", "Coin"] ↔ name ∈ ["Box", "Coin"] := by grind
  have hexceptions : ∀ name, name ∈ ["buy", "sell", "buy"] ↔ name ∈ ["sell", "buy"] := by grind
  have hexports := stallExports.exports.reverse_perm.symm
  have hdistinct : (stallExports.exports.map fun e => (e.name, e.arity)).Nodup := by decide
  have hbids := bids.reverse_perm.symm
  obtain ⟨htypes, hmirror, hrequired⟩ := Rule.check_relisted stall
  refine ⟨hnames, htypes _ _ _ _ hnames, hexceptions, hmirror _ _ _ _ _ hexceptions, hexports,
    hdistinct, (hrequired _ _ _ hexports).2 (.inl hdistinct), hbids, (hrequired _ _ _ hbids).1, ?_⟩
  have hback : stall.modules.get? "back" = some stallBack := rfl
  have hkept {exports : List ExportSpec} (h : exports.Pairwise fun e e' => e.precedes e') :
      (Rule.requiredExports ⟨"back", exports⟩).check stall =
        exports.filterMap fun e => e.check "back" stallBack := by
    have hreport : (Rule.requiredExports ⟨"back", exports⟩).check stall =
        RequiredExports.checkModule ⟨"back", exports⟩ stallBack :=
      RequiredExports.check_of_found (r := ⟨"back", exports⟩) hback
    rw [hreport, RequiredExports.checkModule, List.mergeSort_of_pairwise h]
  rw [hkept (by decide), hkept (by decide)]
  decide

end ApiConformance
