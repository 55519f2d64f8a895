import ApiConformance.Proofs.Lookup
import ApiConformance.Proofs.Verify.Applies

/-!
What rules look at. Two interfaces agree for a rule when they have the same of its
modules and in these the same of what the rule speaks of: the labels of functions,
and the kinds and keys of types. A rule reports the same of interfaces that agree.
-/
namespace ApiConformance

/-- Both modules have a function of the name, with the same labels, or neither has one. -/
def Module.SameLabels (m m' : Module) (name : String) : Prop :=
  (m.functions.get? name).map Function.labels = (m'.functions.get? name).map Function.labels

/-- Two declarations of one kind with one key. -/
inductive Declaration.SameKey : Declaration → Declaration → Prop where
  | definition {d e : TypeDefinition} (same : d.key = e.key) :
      SameKey (.definition d) (.definition e)
  | typeAlias {a b : TypeAlias} (same : a.key = b.key) : SameKey (.typeAlias a) (.typeAlias b)

theorem Declaration.SameKey.key_eq {x y : Declaration} (h : x.SameKey y) : x.key = y.key := by
  cases h with
  | definition same => exact same
  | typeAlias same => exact same

/-- The reason for a mismatch tells only the kinds. -/
theorem Declaration.SameKey.mismatchReason_eq {x x' y y' : Declaration} (hx : x.SameKey x')
    (hy : y.SameKey y') : x.mismatchReason y = x'.mismatchReason y' := by
  cases hx <;> cases hy <;> rfl

/-- The name stands for declarations with the same key in both modules, or for none in either. -/
def Module.SameType (m m' : Module) (name : String) : Prop :=
  Option.Rel Declaration.SameKey (m.declaration? name) (m'.declaration? name)

/-! ### Within modules -/

/-- What a function of the source gives rise to, said of labels alone. -/
def MirrorRule.checkLabels (r : MirrorRule) (actual? : Option (List String)) (name : String)
    (labels : List String) : Option Violation :=
  match actual? with
  | none => some (.missingFunction r.source r.target name)
  | some actual =>
    if r.exceptions.contains name then none
    else if labelTexts r.lead ++ labels = actual then none
    else some (.parameterMismatch r.target name (labelTexts r.lead ++ labels) actual)

theorem MirrorRule.checkFunction_eq_checkLabels (r : MirrorRule) (target : Module) (name : String)
    (f : Function) :
    r.checkFunction target name f =
      r.checkLabels ((target.functions.get? name).map Function.labels) name f.labels := by
  unfold checkFunction checkLabels
  cases target.functions.get? name <;> rfl

theorem MirrorRule.checkModules_congr {r : MirrorRule} {source target source' target' : Module}
    (hsource : ∀ name, source.SameLabels source' name)
    (htarget : ∀ name f, source'.functions.get? name = some f → target.SameLabels target' name) :
    r.checkModules source target = r.checkModules source' target' := by
  have hlabels : source.functions.sorted.map (Prod.map id Function.labels) =
      source'.functions.sorted.map (Prod.map id Function.labels) := by
    rw [← Table.sorted_map, ← Table.sorted_map]
    apply Table.sorted_eq_of_get?_eq
    intro name
    rw [Table.get?_map, Table.get?_map]
    exact hsource name
  let seen (t : Module) (entry : String × List String) : Option Violation :=
    r.checkLabels ((t.functions.get? entry.1).map Function.labels) entry.1 entry.2
  have hseen (s t : Module) : r.checkModules s t =
      (s.functions.sorted.map (Prod.map id Function.labels)).filterMap (seen t) := by
    unfold checkModules
    rw [List.filterMap_map]
    exact List.filterMap_congr fun entry _ => r.checkFunction_eq_checkLabels t entry.1 entry.2
  rw [hseen, hseen, hlabels]
  apply List.filterMap_congr
  intro entry hentry
  obtain ⟨⟨name, f⟩, hf, rfl⟩ := List.mem_map.mp hentry
  have hname := htarget name f (Table.mem_sorted.mp hf)
  change r.checkLabels ((target.functions.get? name).map Function.labels) name f.labels =
    r.checkLabels ((target'.functions.get? name).map Function.labels) name f.labels
  rw [hname]

theorem ExportSpec.check_congr {e : ExportSpec} {path : String} {m m' : Module}
    (h : m.SameLabels m' e.name) : e.check path m = e.check path m' := by
  unfold Module.SameLabels at h
  unfold ExportSpec.check
  cases hm : m.functions.get? e.name <;> cases hm' : m'.functions.get? e.name <;>
    simp_all

theorem SharedTypes.checkName_congr {r : SharedTypes} {a b a' b' : Module} {name : String}
    (ha : a.SameType a' name) (hb : b.SameType b' name) :
    r.checkName a b name = r.checkName a' b' name := by
  unfold Module.SameType at ha hb
  unfold checkName
  generalize a.declaration? name = x, a'.declaration? name = x' at ha ⊢
  generalize b.declaration? name = y, b'.declaration? name = y' at hb ⊢
  cases ha with
  | none => cases hb <;> rfl
  | some hx =>
    cases hb with
    | none => rfl
    | some hy =>
      dsimp only
      rw [hx.key_eq, hy.key_eq, hx.mismatchReason_eq hy]

/-! ### Across interfaces -/

def MirrorRule.SeesAlike (r : MirrorRule) (i j : Interface) : Prop :=
  ∀ source ∈ i.modules.get? r.source, ∀ target ∈ i.modules.get? r.target,
  ∀ source' ∈ j.modules.get? r.source, ∀ target' ∈ j.modules.get? r.target,
    (∀ name, source.SameLabels source' name) ∧
      ∀ name f, source'.functions.get? name = some f → target.SameLabels target' name

def RequiredExports.SeesAlike (r : RequiredExports) (i j : Interface) : Prop :=
  ∀ m ∈ i.modules.get? r.module, ∀ m' ∈ j.modules.get? r.module,
  ∀ e ∈ r.exports, m.SameLabels m' e.name

def SharedTypes.SeesAlike (r : SharedTypes) (i j : Interface) : Prop :=
  ∀ a ∈ i.modules.get? r.moduleA, ∀ b ∈ i.modules.get? r.moduleB,
  ∀ a' ∈ j.modules.get? r.moduleA, ∀ b' ∈ j.modules.get? r.moduleB,
  ∀ name ∈ r.names, a.SameType a' name ∧ b.SameType b' name

/-- The interfaces have the same of a rule's modules, and these the same of what it looks at. -/
def Rule.SeesAlike (r : Rule) (i j : Interface) : Prop :=
  (∀ path ∈ r.modules, (i.modules.get? path).isSome = (j.modules.get? path).isSome) ∧
    match r with
    | .mirror r => r.SeesAlike i j
    | .requiredExports r => r.SeesAlike i j
    | .sharedTypes r => r.SeesAlike i j

theorem Rule.Applies.of_present {r : Rule} {i j : Interface} (h : r.Applies i)
    (hpresent : ∀ path ∈ r.modules,
      (i.modules.get? path).isSome = (j.modules.get? path).isSome) : r.Applies j := by
  intro path hpath
  obtain ⟨m, hm⟩ := h path hpath
  rw [← Option.isSome_iff_exists, ← hpresent path hpath, hm]
  rfl

/-- A rule reports the same of interfaces in which it sees the same. -/
theorem Rule.check_congr {r : Rule} {i j : Interface} (h : r.SeesAlike i j) :
    r.check i = r.check j := by
  obtain ⟨hpresent, hseen⟩ := h
  by_cases hi : r.Applies i
  · have hj := hi.of_present hpresent
    cases r with
    | mirror r =>
      obtain ⟨source, target, hs, ht⟩ := MirrorRule.applies_iff.mp hi
      obtain ⟨source', target', hs', ht'⟩ := MirrorRule.applies_iff.mp hj
      obtain ⟨hsource, htarget⟩ := hseen source hs target ht source' hs' target' ht'
      change r.check i = r.check j
      rw [MirrorRule.check_of_found hs ht, MirrorRule.check_of_found hs' ht']
      exact MirrorRule.checkModules_congr hsource htarget
    | requiredExports r =>
      obtain ⟨m, hm⟩ := RequiredExports.applies_iff.mp hi
      obtain ⟨m', hm'⟩ := RequiredExports.applies_iff.mp hj
      change r.check i = r.check j
      rw [RequiredExports.check_of_found hm, RequiredExports.check_of_found hm']
      exact List.filterMap_congr fun e he =>
        ExportSpec.check_congr (hseen m hm m' hm' e (List.mem_mergeSort.mp he))
    | sharedTypes r =>
      obtain ⟨a, b, ha, hb⟩ := SharedTypes.applies_iff.mp hi
      obtain ⟨a', b', ha', hb'⟩ := SharedTypes.applies_iff.mp hj
      change r.check i = r.check j
      rw [SharedTypes.check_of_found ha hb, SharedTypes.check_of_found ha' hb']
      refine List.flatMap_congr fun name hname => ?_
      obtain ⟨hx, hy⟩ := hseen a ha b hb a' ha' b' hb' name (mem_sortedNames.mp hname)
      exact SharedTypes.checkName_congr hx hy
  · have hj : ¬ r.Applies j := fun hj => hi (hj.of_present fun path hpath =>
      (hpresent path hpath).symm)
    rw [check_of_not_applies hi, check_of_not_applies hj]
    exact Interface.missingModules_congr hpresent

theorem Interface.verify_congr {i j : Interface} {rules : List Rule}
    (h : ∀ r ∈ rules, r.SeesAlike i j) : i.verify rules = j.verify rules :=
  List.flatMap_congr fun r hr => Rule.check_congr (h r hr)

end ApiConformance
