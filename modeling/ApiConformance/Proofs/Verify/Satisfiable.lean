import ApiConformance.Proofs.Interface.RoundTrip
import ApiConformance.Proofs.Verify.Mirroring

/-!
Required exports that can be satisfied. A rule reports nothing if its module offers each export, and
some module does exactly if the exports are consistent: arities count labels, and namesakes have
the same labels. Then the exports themselves say what such a module looks like.
-/
namespace ApiConformance

/-! ### Offers -/

/-- The module has a function of the export's name, with as many parameters and with its labels. -/
def Module.Offers (m : Module) (e : ExportSpec) : Prop :=
  ∃ f, m.functions.get? e.name = some f ∧ e.arity = f.labels.length ∧
    labelTexts e.labels = f.labels

theorem ExportSpec.check_eq_none {e : ExportSpec} {path : String} {m : Module} :
    e.check path m = none ↔ m.Offers e := by
  unfold check Module.Offers
  cases m.functions.get? e.name <;> simp

theorem RequiredExports.check_eq_nil {r : RequiredExports} {i : Interface} :
    (Rule.requiredExports r).check i = [] ↔
      ∃ m, i.modules.get? r.module = some m ∧ ∀ e ∈ r.exports, m.Offers e := by
  have hreport {m : Module} (hm : i.modules.get? r.module = some m) :
      (Rule.requiredExports r).check i = [] ↔ ∀ e ∈ r.exports, m.Offers e := by
    have hcheck : (Rule.requiredExports r).check i = r.checkModule m := check_of_found hm
    rw [hcheck, checkModule, List.filterMap_eq_nil_iff]
    simp only [List.mem_mergeSort, ExportSpec.check_eq_none]
  constructor
  · intro h
    obtain ⟨m, hm⟩ := applies_iff.mp (Rule.applies_of_check_eq_nil h)
    exact ⟨m, hm, (hreport hm).mp h⟩
  · rintro ⟨m, hm, hoffers⟩
    exact (hreport hm).mpr hoffers

/-! ### Consistent exports -/

/-- Each arity is the number of labels, and exports of one name have the same labels, where no label
is as good as the one that stands for it. -/
structure RequiredExports.Consistent (r : RequiredExports) : Prop where
  arities : ∀ e ∈ r.exports, e.arity = e.labels.length
  namesakes : ∀ e ∈ r.exports, ∀ e' ∈ r.exports, e.name = e'.name →
    labelTexts e.labels = labelTexts e'.labels

theorem RequiredExports.consistent_of_offers {r : RequiredExports} {m : Module}
    (h : ∀ e ∈ r.exports, m.Offers e) : r.Consistent where
  arities e he := by
    obtain ⟨f, -, harity, hlabels⟩ := h e he
    rw [harity, ← hlabels, labelTexts, List.length_map]
  namesakes e he e' he' hname := by
    obtain ⟨f, hf, -, hlabels⟩ := h e he
    obtain ⟨f', hf', -, hlabels'⟩ := h e' he'
    rw [hname, hf'] at hf
    rw [hlabels, hlabels', Option.some.inj hf]

/-! ### The module that the exports describe -/

def ParamSpec.label? : ParamSpec → Option String
  | .labeled label => some label
  | .unlabeled => none

theorem ParamSpec.labelTexts_eq_map (specs : List ParamSpec) :
    labelTexts specs = (specs.map label?).map fun label => label.getD ApiConformance.unlabeled := by
  rw [labelTexts, List.map_map]
  refine List.map_congr_left fun spec _ => ?_
  cases spec <;> rfl

/-- The module of the functions that the exports ask for. -/
def RequiredExports.asModule (r : RequiredExports) : Module :=
  offering (r.exports.map fun e => (e.name, e.labels.map ParamSpec.label?))

def RequiredExports.asInterface (r : RequiredExports) : Interface :=
  ⟨"", none, .ofList [(r.module, r.asModule)]⟩

/-- What is offered under a name has the labels that are given for that name. -/
theorem exists_function_offering {functions : List (String × List (Option String))} {name : String}
    (h : name ∈ functions.map Prod.fst) : ∃ f labels, (name, labels) ∈ functions ∧
      (offering functions).functions.get? name = some f ∧
      f.labels = labels.map fun label => label.getD unlabeled := by
  have hname : name ∈ (functions.map fun f =>
      (f.1, (⟨f.2.map fun label => ⟨label, .tuple []⟩, none⟩ : Function))).map Prod.fst := by
    rwa [List.map_map]
  obtain ⟨f, hf, hlisted⟩ := Table.exists_get?_ofList hname
  obtain ⟨⟨_, labels⟩, hgiven, heq⟩ := List.mem_map.mp hlisted
  cases heq
  refine ⟨_, labels, hgiven, hf, ?_⟩
  rw [Function.labels, List.map_map]
  rfl

theorem RequiredExports.Consistent.offers {r : RequiredExports} (h : r.Consistent) {e : ExportSpec}
    (he : e ∈ r.exports) : r.asModule.Offers e := by
  have hname : e.name ∈ (r.exports.map fun e =>
      (e.name, e.labels.map ParamSpec.label?)).map Prod.fst := by
    rw [List.map_map]
    exact List.mem_map_of_mem he
  obtain ⟨f, labels, hgiven, hf, hlabels⟩ := exists_function_offering hname
  obtain ⟨e', he', heq⟩ := List.mem_map.mp hgiven
  obtain ⟨hname', rfl⟩ := Prod.mk.inj heq
  have hlabels' : labelTexts e.labels = f.labels := by
    rw [hlabels, ← ParamSpec.labelTexts_eq_map, h.namesakes e he e' he' hname'.symm]
  refine ⟨f, hf, ?_, hlabels'⟩
  rw [← hlabels', h.arities e he, labelTexts, List.length_map]

theorem offering_fits (functions : List (String × List (Option String))) :
    (offering functions).Fits := by
  refine ⟨fun entry hentry => ?_, nofun, nofun⟩
  obtain ⟨⟨name, labels⟩, -, rfl⟩ := List.mem_map.mp (Table.mem_entries_ofList hentry)
  refine ⟨fun p hp => ?_, nofun⟩
  obtain ⟨label, -, rfl⟩ := List.mem_map.mp hp
  have hdepth : (TypeExpr.tuple []).depth ≤ TypeExpr.maxDepth := by decide
  exact hdepth

theorem RequiredExports.asInterface_fits (r : RequiredExports) : r.asInterface.Fits := by
  intro entry hentry
  rw [List.mem_singleton.mp (Table.mem_entries_ofList hentry)]
  exact offering_fits _

theorem RequiredExports.Consistent.check_asInterface {r : RequiredExports} (h : r.Consistent) :
    (Rule.requiredExports r).check r.asInterface = [] := by
  have hname : r.module ∈ [(r.module, r.asModule)].map Prod.fst := .head _
  obtain ⟨m, hm, hlisted⟩ := Table.exists_get?_ofList hname
  obtain rfl : m = r.asModule := (Prod.mk.inj (List.mem_singleton.mp hlisted)).2
  exact check_eq_nil.mpr ⟨r.asModule, hm, fun e he => h.offers he⟩

/-- Required exports are satisfied by some interface exactly if they are consistent, and then by one
that comes from a document. So no interface satisfies a rule that lists an export of some arity
without labels. -/
theorem RequiredExports.satisfiable_iff_consistent (r : RequiredExports) :
    ((∃ i, (Rule.requiredExports r).check i = []) ↔ r.Consistent) ∧
    ((∃ v i, Interface.ofValue v = .ok i ∧ (Rule.requiredExports r).check i = []) ↔
      r.Consistent) ∧
    ∀ e ∈ r.exports, e.labels = [] → 0 < e.arity →
      ∀ i, (Rule.requiredExports r).check i ≠ [] := by
  have hconsistent {i : Interface} (h : (Rule.requiredExports r).check i = []) : r.Consistent := by
    obtain ⟨m, -, hoffers⟩ := check_eq_nil.mp h
    exact consistent_of_offers hoffers
  refine ⟨⟨fun ⟨_, h⟩ => hconsistent h, fun h => ⟨r.asInterface, h.check_asInterface⟩⟩,
    ⟨fun ⟨_, _, _, h⟩ => hconsistent h, fun h => ?_⟩, fun e he hnone harity i h => ?_⟩
  · obtain ⟨v, hv⟩ := (Interface.codec .document).exists_decode_iff.mpr r.asInterface_fits
    exact ⟨v, r.asInterface, hv, h.check_asInterface⟩
  · have hcounted := (hconsistent h).arities e he
    rw [hnone, List.length_nil] at hcounted
    exact absurd hcounted harity.ne'

/-! ### A toll -/

/-- Two of the three exports are namesakes, alike but for how they say that there is no label. -/
def toll : RequiredExports :=
  ⟨"toll", [⟨"pay", 2, [.labeled "coin", .unlabeled]⟩, ⟨"open", 0, []⟩,
    ⟨"pay", 2, [.labeled "coin", .labeled "_"]⟩]⟩

theorem toll_consistent : toll.Consistent where
  arities := by decide
  namesakes := by decide

theorem toll_satisfiable :
    toll.Consistent ∧ (∃ i, (Rule.requiredExports toll).check i = []) ∧
    ⟨"wait", 1, []⟩ ∈ ExportSpec.mk "wait" 1 [] :: toll.exports ∧
    ∀ i, (Rule.requiredExports ⟨"toll", ⟨"wait", 1, []⟩ :: toll.exports⟩).check i ≠ [] := by
  refine ⟨toll_consistent, (RequiredExports.satisfiable_iff_consistent toll).1.mpr toll_consistent,
    .head _, fun i => ?_⟩
  obtain ⟨-, -, hbare⟩ :=
    RequiredExports.satisfiable_iff_consistent ⟨"toll", ⟨"wait", 1, []⟩ :: toll.exports⟩
  exact hbare ⟨"wait", 1, []⟩ (.head _) rfl (by decide) i

end ApiConformance
