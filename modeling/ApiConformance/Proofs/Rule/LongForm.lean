import ApiConformance.Proofs.Validation.Changes
import ApiConformance.Rule.Decode
import ApiConformance.Rule.Encode

/-!
Short forms of parameter specs mean their long forms. An entry in which the short forms are written
out is decoded into the same rule, or has the same problems in the same places; the reason is that
each spec by itself is decoded alike, and that a decoder meets a changed value in one field only.
-/
namespace ApiConformance

open Validation

/-! ### Short forms written out -/

def ParamSpec.longForm : Value → Value
  | .null => unlabeled.toValue
  | .text label => (labeled label).toValue
  | v => v

/-- The labels of an export with their short forms written out. -/
def ExportSpec.longForm (v : Value) : Value :=
  v.mapField "labels" (.mapItems ParamSpec.longForm)

/-- An entry for a rule with all short forms of parameter specs written out: in the lead of a mirror
rule, and in the labels of the exports that a rule requires. -/
def Rule.longForm : Value → Value
  | .map entries =>
    match Value.lookup "kind" entries with
    | some (.text "mirror") =>
      .mapField "prefix_params" (.mapItems ParamSpec.longForm) (.map entries)
    | some (.text "require_exports") =>
      .mapField "exports" (.mapItems ExportSpec.longForm) (.map entries)
    | _ => .map entries
  | v => v

theorem ParamSpec.ofValue_longForm (v : Value) : ofValue (longForm v) = ofValue v := by
  unfold longForm
  split <;> rfl

theorem ParamSpec.listOfValue_longForm (v : Value) :
    listOfValue (v.mapItems longForm) = listOfValue v := by
  cases v with
  | list vs => exact items_map ofValue_longForm vs
  | _ => rfl

theorem ExportSpec.ofValue_longForm (v : Value) : ofValue (longForm v) = ofValue v := by
  cases v with
  | map entries =>
    simp only [longForm, Value.mapField, ofValue, record, Value.untied]
    rw [requiredField_changeEntries (by simp), requiredField_changeEntries (by simp),
      optionalField_changeEntries fun _ => ParamSpec.listOfValue_longForm]
  | _ => rfl

theorem MirrorRule.ofEntries_longForm (entries : List (Atom × Value)) :
    ofEntries (Value.changeEntries "prefix_params" (.mapItems ParamSpec.longForm) entries) =
      ofEntries entries := by
  unfold ofEntries
  rw [requiredField_changeEntries (by simp), requiredField_changeEntries (by simp),
    optionalField_changeEntries fun _ => ParamSpec.listOfValue_longForm,
    optionalField_changeEntries (by simp)]

theorem RequiredExports.ofEntries_longForm (entries : List (Atom × Value)) :
    ofEntries (Value.changeEntries "exports" (.mapItems ExportSpec.longForm) entries) =
      ofEntries entries := by
  unfold ofEntries
  rw [requiredField_changeEntries (by simp),
    optionalField_changeEntries fun _ => tuple_mapItems ExportSpec.ofValue_longForm]

theorem Rule.ofValue_longForm (v : Value) : ofValue (longForm v) = ofValue v := by
  cases v with
  | map entries =>
    dsimp only [longForm]
    split
    · rename_i hkind
      refine tagged_changeEntries hkind rfl (by decide) ?_
      rw [MirrorRule.ofEntries_longForm]
    · rename_i hkind
      refine tagged_changeEntries hkind rfl (by decide) ?_
      rw [RequiredExports.ofEntries_longForm]
    · rfl
  | _ => rfl

/-! ### Labels -/

/-- The label that a short form stands for: the one for no label if it is null, or else the text. -/
def ParamSpec.ShortFor (v : Value) (label : String) : Prop :=
  (v = .null → label = "_") ∧ ∀ text, v = .text text → label = text

theorem ParamSpec.shortFor_labelText {v : Value} {spec : ParamSpec} (h : ofValue v = .ok spec) :
    ShortFor v spec.labelText := by
  constructor
  · rintro rfl
    cases h
    rfl
  · rintro text rfl
    cases h
    rfl

theorem ParamSpec.shortFor_labelTexts {vs : List Value} {specs : List ParamSpec}
    (h : listOfValue (.list vs) = .ok specs) : List.Forall₂ ShortFor vs (labelTexts specs) :=
  List.forall₂_map_right_iff.mpr ((items_eq_ok.mp h).imp fun _ _ => shortFor_labelText)

theorem Rule.ofEntries_of_ofValue {entries : List (Atom × Value)} {rule : Rule}
    (h : ofValue (.map entries) = .ok rule) :
    match rule with
    | .mirror r => MirrorRule.ofEntries entries = .ok r
    | .requiredExports r => RequiredExports.ofEntries entries = .ok r
    | .sharedTypes r => SharedTypes.ofEntries entries = .ok r := by
  obtain ⟨_, tag, fields, ⟨⟩, -, hfields, hrule⟩ := tagged_eq_ok.mp h
  have hdecoder := mem_of_lookup hfields
  simp only [List.mem_cons, List.not_mem_nil, or_false, Prod.mk.injEq] at hdecoder
  rcases hdecoder with ⟨-, rfl⟩ | ⟨-, rfl⟩ | ⟨-, rfl⟩
  all_goals
    obtain ⟨r, hr, rfl⟩ := Checked.map_eq_ok.mp hrule
    exact hr

theorem MirrorRule.shortFor_lead {entries : List (Atom × Value)} {r : MirrorRule} {vs : List Value}
    (h : ofEntries entries = .ok r) (hvs : Value.lookup "prefix_params" entries = some (.list vs)) :
    List.Forall₂ ParamSpec.ShortFor vs (labelTexts r.lead) := by
  obtain ⟨_, exceptions, hfields, -, rfl⟩ := Checked.seq_eq_ok.mp h
  obtain ⟨source, target, lead, -, -, hlead, rfl⟩ := Checked.map₃_eq_ok.mp hfields
  exact ParamSpec.shortFor_labelTexts (decode_of_optionalField hlead hvs)

theorem ExportSpec.shortFor_labels {fields : List (Atom × Value)} {e : ExportSpec}
    {vs : List Value} (h : ofValue (.map fields) = .ok e)
    (hvs : Value.lookup "labels" fields = some (.list vs)) :
    List.Forall₂ ParamSpec.ShortFor vs (labelTexts e.labels) := by
  obtain ⟨_, ⟨⟩, hfields⟩ := record_eq_ok.mp h
  obtain ⟨name, arity, labels, -, -, hlabels, rfl⟩ := Checked.map₃_eq_ok.mp hfields
  exact ParamSpec.shortFor_labelTexts (decode_of_optionalField hlabels hvs)

/-- The labels in the data of an export are those that are required, as far as they are listed. -/
def ExportSpec.LabeledAs (v : Value) (e : ExportSpec) : Prop :=
  ∀ fields vs, v = .map fields → Value.lookup "labels" fields = some (.list vs) →
    List.Forall₂ ParamSpec.ShortFor vs (labelTexts e.labels)

theorem RequiredExports.labeledAs_exports {entries : List (Atom × Value)} {r : RequiredExports}
    {es : List Value} (h : ofEntries entries = .ok r)
    (hes : Value.lookup "exports" entries = some (.list es)) :
    List.Forall₂ ExportSpec.LabeledAs es r.exports := by
  obtain ⟨path, exports, -, hexports, rfl⟩ := Checked.map₂_eq_ok.mp h
  obtain ⟨_, ⟨⟩, hlisted⟩ := tuple_eq_ok.mp (decode_of_optionalField hexports hes)
  refine hlisted.imp fun v e he fields vs hv hvs => ?_
  rw [hv] at he
  exact ExportSpec.shortFor_labels he hvs

/-- An entry and the same entry with the short forms of its specs written out are decoded into the
same rule, or have the same problems in the same places. The labels of a rule are the texts that
stand for them, and those of null the one for no label. -/
theorem Rule.ofValue_longForm_and_labels (v : Value) :
    ofValue (longForm v) = ofValue v ∧
    (∀ entries r vs, v = .map entries → ofValue v = .ok (.mirror r) →
      Value.lookup "prefix_params" entries = some (.list vs) →
      List.Forall₂ ParamSpec.ShortFor vs (labelTexts r.lead)) ∧
    ∀ entries r es, v = .map entries → ofValue v = .ok (.requiredExports r) →
      Value.lookup "exports" entries = some (.list es) →
      List.Forall₂ ExportSpec.LabeledAs es r.exports := by
  refine ⟨ofValue_longForm v, fun entries r vs hv hr hvs => ?_, fun entries r es hv hr hes => ?_⟩
  · rw [hv] at hr
    exact MirrorRule.shortFor_lead (ofEntries_of_ofValue hr) hvs
  · rw [hv] at hr
    exact RequiredExports.labeledAs_exports (ofEntries_of_ofValue hr) hes

/-! ### A dial -/

def dialSpecs : List Value :=
  [.null, .text "dial", .object [("label", .text "at"), ("kind", .text "labeled")], .text "_"]

def dialMirror : Value := .object [("kind", .text "mirror"), ("source", .text "core"),
  ("target", .text "face"), ("prefix_params", .list dialSpecs)]

def dialRule : MirrorRule :=
  ⟨"core", "face", [.unlabeled, .labeled "dial", .labeled "at", .labeled "_"], []⟩

/-- Two of the four specs are short forms, and the others are none. -/
def dialExports : Value := .object [("exports", .list [.object [("name", .text "turn"),
    ("labels", .list [.null, .int 5, .text "by", .object [("kind", .text "labeled")]])]]),
  ("kind", .text "require_exports")]

def dialProblems : List Problem :=
  let exported : Location := [.kind "require_exports", .key "exports", .index 0]
  [⟨[.kind "require_exports", .key "module"], .missing⟩, ⟨exported ++ [.key "arity"], .missing⟩,
    ⟨exported ++ [.key "labels", .index 1], .notFields⟩,
    ⟨exported ++ [.key "labels", .index 3, .kind "labeled", .key "label"], .missing⟩]

theorem dial_longForm :
    Rule.ofValue dialMirror = .ok (.mirror dialRule) ∧
    Rule.ofValue (Rule.longForm dialMirror) = .ok (.mirror dialRule) ∧
    labelTexts dialRule.lead = ["_", "dial", "at", "_"] ∧
    List.Forall₂ ParamSpec.ShortFor dialSpecs (labelTexts dialRule.lead) ∧
    Rule.ofValue dialExports = .failed dialProblems ∧
    Rule.ofValue (Rule.longForm dialExports) = .failed dialProblems := by
  have hmirror : Rule.ofValue dialMirror = .ok (.mirror dialRule) := by decide +kernel
  have hexports : Rule.ofValue dialExports = .failed dialProblems := by decide +kernel
  obtain ⟨hmirrorLong, hlead, -⟩ := Rule.ofValue_longForm_and_labels dialMirror
  obtain ⟨hexportsLong, -⟩ := Rule.ofValue_longForm_and_labels dialExports
  exact ⟨hmirror, hmirrorLong.trans hmirror, rfl, hlead _ _ _ rfl hmirror rfl, hexports,
    hexportsLong.trans hexports⟩

end ApiConformance
