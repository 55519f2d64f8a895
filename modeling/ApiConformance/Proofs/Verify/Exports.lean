import ApiConformance.Proofs.Verify.Mirroring
import ApiConformance.Proofs.Verify.Order

/-!
Mirroring said by exports. What a mirror rule wants of its target can be listed as exports, one for
each function of the source. The rule that requires them reports the same in the same order,
only that it misses exports and not functions.
-/
namespace ApiConformance

/-! ### The exports of a lead and a source -/

/-- What is asked of a parameter that stands for this one. -/
def Parameter.spec (p : Parameter) : ParamSpec :=
  match p.label with
  | some label => .labeled label
  | none => .unlabeled

/-- The export that stands for a function with a lead before its parameters. -/
def Function.asExport (lead : List ParamSpec) (name : String) (f : Function) : ExportSpec :=
  ⟨name, lead.length + f.parameters.length, lead ++ f.parameters.map Parameter.spec⟩

def Module.asExports (lead : List ParamSpec) (m : Module) : List ExportSpec :=
  m.functions.entries.map fun (name, f) => f.asExport lead name

@[simp] theorem Parameter.labelText_spec (p : Parameter) : p.spec.labelText = p.labelText := by
  obtain ⟨label, type⟩ := p
  cases label <;> rfl

theorem Function.labelTexts_asExport (lead : List ParamSpec) (name : String) (f : Function) :
    labelTexts (f.asExport lead name).labels = labelTexts lead ++ f.labels := by
  simp [asExport, labelTexts, labels, Function.comp_def]

theorem Function.arity_asExport (lead : List ParamSpec) (name : String) (f : Function) :
    (f.asExport lead name).arity = (labelTexts lead ++ f.labels).length := by
  simp [asExport, labelTexts, labels]

theorem Module.mem_asExports {m : Module} {lead : List ParamSpec} {e : ExportSpec} :
    e ∈ m.asExports lead ↔
      ∃ name f, m.functions.get? name = some f ∧ f.asExport lead name = e := by
  simp only [asExports, List.mem_map, Prod.exists, Table.mem_entries]

/-- Exports of one name stand for one function. -/
theorem Module.eq_of_mem_asExports {m : Module} {lead : List ParamSpec} {e e' : ExportSpec}
    (he : e ∈ m.asExports lead) (he' : e' ∈ m.asExports lead) (hname : e.name = e'.name) :
    e = e' := by
  obtain ⟨name, f, hf, rfl⟩ := mem_asExports.mp he
  obtain ⟨name', f', hf', rfl⟩ := mem_asExports.mp he'
  obtain rfl : name = name' := hname
  rw [hf] at hf'
  rw [Option.some.inj hf']

/-! ### The order of visiting -/

theorem ExportSpec.name_le_of_precedes {a b : ExportSpec} (h : a.precedes b = true) :
    a.name ≤ b.name := by
  rcases of_decide_eq_true h with hlt | ⟨heq, -⟩
  · exact hlt.le
  · exact heq.le

/-- However they are listed, these exports are visited as the functions that they stand for. -/
theorem Module.mergeSort_of_perm_asExports {m : Module} {lead : List ParamSpec}
    {exports : List ExportSpec} (h : exports.Perm (m.asExports lead)) :
    exports.mergeSort ExportSpec.precedes =
      m.functions.sorted.map fun (name, f) => f.asExport lead name := by
  have hsorted : (exports.mergeSort ExportSpec.precedes).Perm (m.asExports lead) :=
    (List.mergeSort_perm exports _).trans h
  have hfunctions : (m.functions.sorted.map fun (name, f) => f.asExport lead name).Perm
      (m.asExports lead) :=
    (List.mergeSort_perm m.functions.entries _).map _
  have hascending : (m.functions.sorted.map fun (name, f) => f.asExport lead name).Pairwise
      fun a b => a.precedes b = true := by
    rw [List.pairwise_map]
    exact m.functions.pairwise_lt_sorted.imp fun hlt => decide_eq_true (.inl hlt)
  -- arities decide nothing, since no two of the exports have one name
  refine (hsorted.trans hfunctions.symm).eq_of_pairwise (fun a b ha hb hab hba => ?_)
    (List.pairwise_mergeSort ExportSpec.precedes_trans ExportSpec.precedes_total exports) hascending
  exact eq_of_mem_asExports (hsorted.mem_iff.mp ha) (hfunctions.mem_iff.mp hb)
    (le_antisymm (ExportSpec.name_le_of_precedes hab) (ExportSpec.name_le_of_precedes hba))

/-! ### Reports -/

/-- The same report, but for a missing function it is the missing export of that name. -/
inductive Violation.AsExport (source target : String) (exports : List ExportSpec) :
    Violation → Violation → Prop where
  | missing {e : ExportSpec} (listed : e ∈ exports) :
      AsExport source target exports (.missingFunction source target e.name)
        (.missingExport target e.name e.arity)
  | mismatch (function : String) (expected actual : List String) :
      AsExport source target exports (.parameterMismatch target function expected actual)
        (.parameterMismatch target function expected actual)

/-- The arity of such an export says nothing that its labels do not say. -/
theorem Function.asExport_fits {lead : List ParamSpec} {name : String} {f g : Function} :
    (f.asExport lead name).arity = g.labels.length ∧
      labelTexts (f.asExport lead name).labels = g.labels ↔
    labelTexts lead ++ f.labels = g.labels := by
  rw [arity_asExport, labelTexts_asExport, and_iff_right_iff_imp]
  exact congrArg List.length

theorem Function.rel_check_asExport {source target : String} {lead : List ParamSpec}
    {exports : List ExportSpec} {name : String} {f : Function}
    (listed : f.asExport lead name ∈ exports) (m : Module) :
    Option.Rel (Violation.AsExport source target exports)
      (MirrorRule.checkFunction ⟨source, target, lead, []⟩ m name f)
      ((f.asExport lead name).check target m) := by
  unfold MirrorRule.checkFunction ExportSpec.check
  have hname : (f.asExport lead name).name = name := rfl
  rw [hname]
  cases m.functions.get? name with
  | none => exact .some (.missing listed)
  | some g =>
    dsimp only
    rw [if_neg (by simp)]
    by_cases hfits : labelTexts lead ++ f.labels = g.labels
    · rw [if_pos hfits, if_pos (asExport_fits.mpr hfits)]
      exact .none
    · rw [if_neg hfits, if_neg (mt asExport_fits.mp hfits), labelTexts_asExport]
      exact .some (.mismatch ..)

theorem forall₂_filterMap {α β γ : Type} {R : β → γ → Prop} {f : α → Option β}
    {g : α → Option γ} {l : List α} (h : ∀ a ∈ l, Option.Rel R (f a) (g a)) :
    List.Forall₂ R (l.filterMap f) (l.filterMap g) := by
  have hself : List.Forall₂ (fun a b => a = b ∧ a ∈ l) l l :=
    List.forall₂_same.mpr fun a ha => ⟨rfl, ha⟩
  refine List.rel_filterMap (fun a b hab => ?_) hself
  obtain ⟨rfl, ha⟩ := hab
  exact h a ha

/-- A mirror rule without exceptions and the rule that requires the functions of its source as
exports of its target, listed in any order, report the same, report by report; where the one
misses a function, the other misses its export. -/
theorem Interface.forall₂_check_asExports {i : Interface} {s t : String} {source target : Module}
    {lead : List ParamSpec} {exports : List ExportSpec} (hs : i.modules.get? s = some source)
    (ht : i.modules.get? t = some target) (hexports : exports.Perm (source.asExports lead)) :
    List.Forall₂ (Violation.AsExport s t exports) ((Rule.mirror ⟨s, t, lead, []⟩).check i)
      ((Rule.requiredExports ⟨t, exports⟩).check i) := by
  have hmirror : (Rule.mirror ⟨s, t, lead, []⟩).check i =
      MirrorRule.checkModules ⟨s, t, lead, []⟩ source target := MirrorRule.check_of_found hs ht
  have hrequired : (Rule.requiredExports ⟨t, exports⟩).check i =
      RequiredExports.checkModule ⟨t, exports⟩ target := RequiredExports.check_of_found ht
  rw [hmirror, hrequired, MirrorRule.checkModules, RequiredExports.checkModule,
    Module.mergeSort_of_perm_asExports hexports, List.filterMap_map]
  refine forall₂_filterMap fun entry hentry => ?_
  have hlisted : entry.2.asExport lead entry.1 ∈ exports :=
    hexports.mem_iff.mpr (Module.mem_asExports.mpr ⟨_, _, Table.mem_sorted.mp hentry, rfl⟩)
  exact Function.rel_check_asExport hlisted target

/-- The functions of the wire as exports of the core, which cannot be flushed. -/
def coreExports : RequiredExports := ⟨"core", (relayWire.asExports [.labeled "via"]).reverse⟩

theorem relay_asExports :
    relay.modules.get? "wire" = some relayWire ∧ relay.modules.get? "core" = some relayCore ∧
    coreExports.exports.Perm (relayWire.asExports [.labeled "via"]) ∧
    List.Forall₂ (Violation.AsExport "wire" "core" coreExports.exports)
      ((Rule.mirror ⟨"wire", "core", [.labeled "via"], []⟩).check relay)
      ((Rule.requiredExports coreExports).check relay) ∧
    .missingExport "core" "flush" 2 ∈ (Rule.requiredExports coreExports).check relay := by
  have hwire : relay.modules.get? "wire" = some relayWire := rfl
  have hcore : relay.modules.get? "core" = some relayCore := rfl
  have hexports : coreExports.exports.Perm (relayWire.asExports [.labeled "via"]) :=
    List.reverse_perm _
  have hcalls : (Rule.requiredExports coreExports).CallsFor relay
      (.missingExport "core" "flush" 2) :=
    .missingExport (r := coreExports) (e := ⟨"flush", 2, [.labeled "via", .labeled "now"]⟩) hcore
      (by decide) rfl
  exact ⟨hwire, hcore, hexports, Interface.forall₂_check_asExports hwire hcore hexports,
    Rule.mem_check_iff_callsFor.mpr hcalls⟩

end ApiConformance
