import ApiConformance.Proofs.Rule.Steady
import ApiConformance.Proofs.Validation.Codec
import ApiConformance.Rule.Build
import ApiConformance.Rule.Encode

/-!
Rules are read back as they are written. A rule can be written in several ways: each spec of a
parameter in its short or its long form, the names of shared types under either name of their
field, and entries in any order. All of them are read as the rule, and every rule can be built.
-/
namespace ApiConformance

open Validation

/-! ### Ways of writing -/

inductive ParamSpec.Writes : ParamSpec → Value → Prop where
  | long (spec : ParamSpec) : Writes spec spec.toValue
  | null : Writes .unlabeled .null
  | text (label : String) : Writes (.labeled label) (.text label)

inductive ExportSpec.Writes : ExportSpec → Value → Prop where
  | fields {e : ExportSpec} {labels : List Value}
      (written : List.Forall₂ ParamSpec.Writes e.labels labels) :
      Writes e (.object [("name", .text e.name), ("arity", .int e.arity), ("labels", .list labels)])

inductive Rule.Writes : Rule → Value → Prop where
  | mirror {r : MirrorRule} {lead : List Value}
      (written : List.Forall₂ ParamSpec.Writes r.lead lead) :
      Writes (.mirror r) (.object [
        ("kind", .text "mirror"), ("source", .text r.source), ("target", .text r.target),
        ("prefix_params", .list lead), ("exceptions", .list (r.exceptions.map .text))])
  | requiredExports {r : RequiredExports} {exports : List Value}
      (written : List.Forall₂ ExportSpec.Writes r.exports exports) :
      Writes (.requiredExports r) (.object [
        ("kind", .text "require_exports"), ("module", .text r.module),
        ("exports", .list exports)])
  | sharedTypes {r : SharedTypes} {field : String} (named : field ∈ ["types", "type_names"]) :
      Writes (.sharedTypes r) (.object [
        ("kind", .text "shared_types"), ("module_a", .text r.moduleA),
        ("module_b", .text r.moduleB), (field, .list (r.names.map .text))])

theorem ExportSpec.writes_toValue (e : ExportSpec) : e.Writes e.toValue :=
  .fields (List.forall₂_map_right_iff.mpr (List.forall₂_same.mpr fun spec _ => .long spec))

/-- The long forms, and the first name of each field. -/
theorem Rule.writes_toValue (r : Rule) : r.Writes r.toValue := by
  cases r with
  | mirror r =>
    exact .mirror (List.forall₂_map_right_iff.mpr (List.forall₂_same.mpr fun spec _ => .long spec))
  | requiredExports r =>
    exact .requiredExports
      (List.forall₂_map_right_iff.mpr (List.forall₂_same.mpr fun e _ => e.writes_toValue))
  | sharedTypes r => exact .sharedTypes (by simp)

theorem ParamSpec.ofValue_of_writes {spec : ParamSpec} {v : Value} (h : spec.Writes v) :
    ofValue v = .ok spec := by
  cases h with
  | long => cases spec <;> rfl
  | null | text => rfl

/-- Things of which each is read as it is written are read so in a list. -/
theorem items_of_written {α : Type} {decode : Value → Checked α} {R : α → Value → Prop}
    {as : List α} {vs : List Value} (h : List.Forall₂ R as vs)
    (hread : ∀ a v, R a v → decode v = .ok a) : items decode vs = .ok as :=
  items_eq_ok.mpr (h.imp hread).flip

theorem ParamSpec.listOfValue_of_writes {specs : List ParamSpec} {vs : List Value}
    (h : List.Forall₂ Writes specs vs) : listOfValue (.list vs) = .ok specs :=
  items_of_written h fun _ _ => ofValue_of_writes

theorem ExportSpec.ofValue_of_writes {e : ExportSpec} {v : Value} (h : e.Writes v) :
    ofValue v = .ok e := by
  cases h with
  | fields written =>
    refine record_eq_ok.mpr ⟨_, rfl,
      Checked.map₃_eq_ok.mpr ⟨e.name, e.arity, e.labels, ?_, ?_, ?_, rfl⟩⟩
    · exact Codec.text.required trivial rfl
    · exact requiredField_eq_ok.mpr ⟨"arity", _, rfl, rfl⟩
    · exact optionalField_eq_ok.mpr
        (.inr ⟨"labels", _, rfl, ParamSpec.listOfValue_of_writes written⟩)

theorem Rule.ofValue_of_writes {r : Rule} {v : Value} (h : r.Writes v) : ofValue v = .ok r := by
  cases h with
  | @mirror r lead written =>
    refine tagged_eq_ok.mpr ⟨_, "mirror", _, rfl, rfl, rfl, Checked.map_eq_ok.mpr ⟨r, ?_, rfl⟩⟩
    refine Checked.seq_eq_ok.mpr ⟨MirrorRule.mk r.source r.target r.lead, r.exceptions, ?_, ?_, rfl⟩
    · refine Checked.map₃_eq_ok.mpr ⟨r.source, r.target, r.lead, ?_, ?_, ?_, rfl⟩
      · exact Codec.text.required trivial rfl
      · exact Codec.text.required trivial rfl
      · exact optionalField_eq_ok.mpr
          (.inr ⟨"prefix_params", _, rfl, ParamSpec.listOfValue_of_writes written⟩)
    · exact Codec.text.tuple.optional (fun _ _ => trivial) rfl
  | @requiredExports r exports written =>
    have hexports : tuple ExportSpec.ofValue (.list exports) = .ok r.exports :=
      items_of_written written fun _ _ => ExportSpec.ofValue_of_writes
    refine tagged_eq_ok.mpr ⟨_, "require_exports", _, rfl, rfl, rfl,
      Checked.map_eq_ok.mpr ⟨r, Checked.map₂_eq_ok.mpr ⟨r.module, r.exports, ?_, ?_, rfl⟩, rfl⟩⟩
    · exact Codec.text.required trivial rfl
    · exact optionalField_eq_ok.mpr (.inr ⟨"exports", _, rfl, hexports⟩)
  | @sharedTypes r field named =>
    have hnames : (find ["types", "type_names"] [(.text "kind", .text "shared_types"),
        (.text "module_a", .text r.moduleA), (.text "module_b", .text r.moduleB),
        (.text field, .list (r.names.map .text))]).map Prod.snd =
        some (.list (r.names.map .text)) := by
      simp only [List.mem_cons, List.not_mem_nil, or_false] at named
      rcases named with rfl | rfl <;> rfl
    refine tagged_eq_ok.mpr ⟨_, "shared_types", _, rfl, rfl, rfl, Checked.map_eq_ok.mpr ⟨r,
      Checked.map₃_eq_ok.mpr ⟨r.moduleA, r.moduleB, r.names, ?_, ?_, ?_, rfl⟩, rfl⟩⟩
    · exact Codec.text.required trivial rfl
    · exact Codec.text.required trivial rfl
    · exact Codec.text.tuple.optional (fun _ _ => trivial) hnames

/-! ### Written rules are JSON data -/

theorem isJson_texts (names : List String) : (Value.list (names.map .text)).IsJson :=
  Codec.text.tuple.json fun _ _ => trivial

theorem ParamSpec.Writes.isJson {spec : ParamSpec} {v : Value} (h : spec.Writes v) : v.IsJson := by
  cases h with
  | long => cases spec <;> exact Value.isJson_object (by simp) (by simp)
  | null => exact .null
  | text label => exact .text label

theorem ExportSpec.Writes.isJson {e : ExportSpec} {v : Value} (h : e.Writes v) : v.IsJson := by
  cases h with
  | fields written =>
    have hlabels :=
      Value.IsJson.list (Codec.forall_mem_right written fun _ _ => ParamSpec.Writes.isJson)
    exact Value.isJson_object (by simp) (by simp [hlabels])

theorem Rule.Writes.isJson {r : Rule} {v : Value} (h : r.Writes v) : v.IsJson := by
  cases h with
  | @mirror r _ written =>
    have hlead :=
      Value.IsJson.list (Codec.forall_mem_right written fun _ _ => ParamSpec.Writes.isJson)
    exact Value.isJson_object (by simp) (by simp [hlead, isJson_texts])
  | requiredExports written =>
    have hexports :=
      Value.IsJson.list (Codec.forall_mem_right written fun _ _ => ExportSpec.Writes.isJson)
    exact Value.isJson_object (by simp) (by simp [hexports])
  | sharedTypes named =>
    simp only [List.mem_cons, List.not_mem_nil, or_false] at named
    rcases named with rfl | rfl <;>
      exact Value.isJson_object (by simp) (by simp [isJson_texts])

/-! ### Building -/

inductive ParamSpec.Built : ParamSpec → Prop where
  | labeled {label : Value} {spec : ParamSpec} (h : build label = .ok spec) : Built spec
  | unlabeled : Built .unlabeled

inductive ExportSpec.Built : ExportSpec → Prop where
  | export {name arity : Value} {labels : List ParamSpec} {e : ExportSpec}
      (parts : ∀ spec ∈ labels, spec.Built) (h : build name arity labels = .ok e) : Built e

/-- Rules that are built part by part. -/
inductive Rule.Built : Rule → Prop where
  | mirror {source target : Value} {lead : List ParamSpec} {r : MirrorRule}
      (parts : ∀ spec ∈ lead, spec.Built) (h : MirrorRule.build source target lead = .ok r) :
      Built (.mirror r)
  | requiredExports {module : Value} {exports : List ExportSpec} {r : RequiredExports}
      (parts : ∀ e ∈ exports, e.Built) (h : RequiredExports.build module exports = .ok r) :
      Built (.requiredExports r)
  | sharedTypes {moduleA moduleB : Value} {names : List Value} {r : SharedTypes}
      (h : SharedTypes.build moduleA moduleB names = .ok r) : Built (.sharedTypes r)
  | withExceptions {r : Rule} (h : Built r) (names : List String) : Built (r.withExceptions names)

theorem ParamSpec.built (spec : ParamSpec) : spec.Built := by
  cases spec with
  | labeled label =>
    have hlabel : build (.text label) = .ok (.labeled label) := rfl
    exact .labeled hlabel
  | unlabeled => exact .unlabeled

theorem ExportSpec.built (e : ExportSpec) : e.Built := by
  have hbuild : build (.text e.name) (.int e.arity) e.labels = .ok e := rfl
  exact .export (fun spec _ => spec.built) hbuild

theorem Rule.built (r : Rule) : r.Built := by
  cases r with
  | mirror r =>
    -- exceptions are only added to a rule that was built without any
    have hbuild : MirrorRule.build (.text r.source) (.text r.target) r.lead =
        .ok ⟨r.source, r.target, r.lead, []⟩ := rfl
    have hbare := Built.mirror (fun spec _ => spec.built) hbuild
    exact hbare.withExceptions r.exceptions
  | requiredExports r =>
    have hbuild : RequiredExports.build (.text r.module) r.exports = .ok r := rfl
    exact .requiredExports (fun e _ => e.built) hbuild
  | sharedTypes r =>
    have hnames : items text (r.names.map .text) = .ok r.names :=
      items_eq_ok.mpr (Codec.text.forall₂_write fun _ _ => trivial)
    have hbuild : SharedTypes.build (.text r.moduleA) (.text r.moduleB) (r.names.map .text) =
        .ok r := by
      rw [SharedTypes.build, hnames]
      rfl
    exact .sharedTypes hbuild

/-! ### Contracts -/

/-- Every rule can be built and can be read. However rules are written, this is JSON data, and the
list of it, in any order of entries and also where it stands in a map, is read as these rules. -/
theorem Contract.ofValue_written (source : String) :
    (∀ r : Rule, r.Built ∧ ∃ v, Rule.ofValue v = .ok r) ∧
    ∀ rules vs, List.Forall₂ Rule.Writes rules vs → (Value.list vs).IsJson ∧
      ofValue source (.list vs) = .ok rules ∧ ∀ v, Holds vs v → ofValue source v = .ok rules := by
  refine ⟨fun r => ⟨r.built, r.toValue, Rule.ofValue_of_writes r.writes_toValue⟩,
    fun rules vs h => ?_⟩
  have hread : Rule.ReadsAs vs rules := (h.imp fun _ _ => Rule.ofValue_of_writes).flip
  have hjson : (Value.list vs).IsJson :=
    .list (Codec.forall_mem_right h fun _ _ => Rule.Writes.isJson)
  exact ⟨hjson, ofEntries_eq_ok_iff.mpr hread, fun v hv => ofValue_of_holds hread hv source⟩

/-! ### A tariff -/

def tariffRules : List Rule := [
  .withExceptions (.mirror ⟨"core", "app", [.labeled "_", .unlabeled, .labeled "by"], []⟩) ["fee"],
  .requiredExports ⟨"app", [⟨"fee", 2, [.labeled "", .unlabeled]⟩, ⟨"fee", 0, []⟩]⟩,
  .sharedTypes ⟨"core", "app", ["Rate", "Rate"]⟩]

/-- Labels in all forms, an export listed twice, and types under the second name of their field. -/
def tariffData : List Value := [
  .object [("kind", .text "mirror"), ("source", .text "core"), ("target", .text "app"),
    ("prefix_params", .list [.text "_", .null, (ParamSpec.labeled "by").toValue]),
    ("exceptions", .list [.text "fee"])],
  .object [("kind", .text "require_exports"), ("module", .text "app"), ("exports", .list [
    .object [("name", .text "fee"), ("arity", .int 2),
      ("labels", .list [.text "", ParamSpec.unlabeled.toValue])],
    .object [("name", .text "fee"), ("arity", .int 0), ("labels", .list [])]])],
  .object [("kind", .text "shared_types"), ("module_a", .text "core"), ("module_b", .text "app"),
    ("type_names", .list [.text "Rate", .text "Rate"])]]

theorem tariff_writes : List.Forall₂ Rule.Writes tariffRules tariffData := by
  refine .cons (.mirror ?_) (.cons (.requiredExports ?_) (.cons (.sharedTypes ?_) .nil))
  · exact .cons (.text "_") (.cons .null (.cons (.long _) .nil))
  · exact .cons (.fields (.cons (.text "") (.cons (.long _) .nil))) (.cons (.fields .nil) .nil)
  · simp

theorem tariff_written :
    List.Forall₂ Rule.Writes tariffRules tariffData ∧
    Contract.ofValue "tariff" (.list tariffData) = .ok tariffRules ∧
    Contract.ofValue "tariff" (.object [("rules", .list tariffData)]) = .ok tariffRules := by
  obtain ⟨hjson, hlist, hholds⟩ := (Contract.ofValue_written "tariff").2 _ _ tariff_writes
  have hmap : (Value.object [("rules", .list tariffData)]).IsJson :=
    Value.isJson_object (by simp) (by simpa using hjson)
  exact ⟨tariff_writes, hlist, hholds _ (.rules hmap.alike_self)⟩

end ApiConformance
