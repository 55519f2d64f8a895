import ApiConformance.Proofs.Lookup
import ApiConformance.Proofs.Verify.Applies

/-!
What rules call for, said without any order of visiting. A rule calls for a report
of each module that it names and the interface lacks; only when it has all of them
does it call for reports of functions, exports and types. Checking reports exactly
what is called for.
-/
namespace ApiConformance

/-- What a type name stands for in a module: a definition, or else an alias. -/
inductive Module.Resolves (m : Module) (name : String) : Declaration → Prop where
  | definition {d : TypeDefinition} (found : m.types.get? name = some d) :
      Resolves m name (.definition d)
  | typeAlias {a : TypeAlias} (hidden : m.types.get? name = none)
      (found : m.aliases.get? name = some a) : Resolves m name (.typeAlias a)

/-- The name stands for nothing in the module. -/
def Module.LacksType (m : Module) (name : String) : Prop :=
  m.types.get? name = none ∧ m.aliases.get? name = none

theorem Module.declaration?_eq_some {m : Module} {name : String} {x : Declaration} :
    m.declaration? name = some x ↔ m.Resolves name x := by
  unfold Module.declaration?
  cases htypes : m.types.get? name with
  | some d =>
    constructor
    · intro h
      cases Option.some.inj h
      exact .definition htypes
    · intro h
      cases h with
      | definition found => rw [htypes] at found; cases found; rfl
      | typeAlias hidden _ => rw [htypes] at hidden; cases hidden
  | none =>
    constructor
    · intro h
      obtain ⟨a, ha, rfl⟩ := Option.map_eq_some_iff.mp h
      exact .typeAlias htypes ha
    · intro h
      cases h with
      | definition found => rw [htypes] at found; cases found
      | typeAlias _ found => rw [found]; rfl

theorem Module.declaration?_eq_none {m : Module} {name : String} :
    m.declaration? name = none ↔ m.LacksType name := by
  unfold Module.declaration? Module.LacksType
  cases m.types.get? name <;> simp

/-- The reports that a rule calls for. -/
inductive Rule.CallsFor (i : Interface) : Rule → Violation → Prop where
  | moduleNotFound {r : Rule} {path : String} (named : path ∈ r.modules)
      (absent : i.modules.get? path = none) : CallsFor i r (.moduleNotFound path)
  | missingFunction {r : MirrorRule} {source target : Module} {name : String} {f : Function}
      (hsource : i.modules.get? r.source = some source)
      (htarget : i.modules.get? r.target = some target)
      (offered : source.functions.get? name = some f)
      (absent : target.functions.get? name = none) :
      CallsFor i (.mirror r) (.missingFunction r.source r.target name)
  /-- Labels matter only for functions that are in both modules and not excused. -/
  | mirrorMismatch {r : MirrorRule} {source target : Module} {name : String} {f g : Function}
      (hsource : i.modules.get? r.source = some source)
      (htarget : i.modules.get? r.target = some target)
      (offered : source.functions.get? name = some f)
      (present : target.functions.get? name = some g)
      (counted : name ∉ r.exceptions)
      (differ : labelTexts r.lead ++ f.labels ≠ g.labels) :
      CallsFor i (.mirror r)
        (.parameterMismatch r.target name (labelTexts r.lead ++ f.labels) g.labels)
  | missingExport {r : RequiredExports} {m : Module} {e : ExportSpec}
      (hmodule : i.modules.get? r.module = some m) (listed : e ∈ r.exports)
      (absent : m.functions.get? e.name = none) :
      CallsFor i (.requiredExports r) (.missingExport r.module e.name e.arity)
  | exportMismatch {r : RequiredExports} {m : Module} {e : ExportSpec} {f : Function}
      (hmodule : i.modules.get? r.module = some m) (listed : e ∈ r.exports)
      (present : m.functions.get? e.name = some f)
      (differ : e.arity ≠ f.labels.length ∨ labelTexts e.labels ≠ f.labels) :
      CallsFor i (.requiredExports r)
        (.parameterMismatch r.module e.name (labelTexts e.labels) f.labels)
  | missingTypeA {r : SharedTypes} {a b : Module} {name : String}
      (ha : i.modules.get? r.moduleA = some a) (hb : i.modules.get? r.moduleB = some b)
      (listed : name ∈ r.names) (absent : a.LacksType name) :
      CallsFor i (.sharedTypes r) (.missingType r.moduleA name)
  | missingTypeB {r : SharedTypes} {a b : Module} {name : String}
      (ha : i.modules.get? r.moduleA = some a) (hb : i.modules.get? r.moduleB = some b)
      (listed : name ∈ r.names) (absent : b.LacksType name) :
      CallsFor i (.sharedTypes r) (.missingType r.moduleB name)
  | typeMismatch {r : SharedTypes} {a b : Module} {name : String} {x y : Declaration}
      (ha : i.modules.get? r.moduleA = some a) (hb : i.modules.get? r.moduleB = some b)
      (listed : name ∈ r.names) (hx : a.Resolves name x) (hy : b.Resolves name y)
      (differ : x.key ≠ y.key) :
      CallsFor i (.sharedTypes r)
        (.typeMismatch r.moduleA r.moduleB name (x.mismatchReason y))

/-! ### Single rules -/

/-- Beyond absent modules, a rule calls for nothing unless it applies. -/
theorem Rule.CallsFor.applies {r : Rule} {i : Interface} {v : Violation} (h : r.CallsFor i v)
    (hv : ∀ path, v ≠ .moduleNotFound path) : r.Applies i := by
  cases h with
  | moduleNotFound => exact absurd rfl (hv _)
  | missingFunction hs ht | mirrorMismatch hs ht => exact MirrorRule.applies_iff.mpr ⟨_, _, hs, ht⟩
  | missingExport hm | exportMismatch hm => exact RequiredExports.applies_iff.mpr ⟨_, hm⟩
  | missingTypeA ha hb | missingTypeB ha hb | typeMismatch ha hb =>
    exact SharedTypes.applies_iff.mpr ⟨_, _, ha, hb⟩

theorem MirrorRule.checkFunction_eq_some {r : MirrorRule} {target : Module} {name : String}
    {f : Function} {v : Violation} :
    r.checkFunction target name f = some v ↔
      (target.functions.get? name = none ∧ v = .missingFunction r.source r.target name) ∨
      ∃ g, target.functions.get? name = some g ∧ name ∉ r.exceptions ∧
        labelTexts r.lead ++ f.labels ≠ g.labels ∧
        v = .parameterMismatch r.target name (labelTexts r.lead ++ f.labels) g.labels := by
  unfold MirrorRule.checkFunction
  cases htarget : target.functions.get? name with
  | none => simp [eq_comm]
  | some g =>
    by_cases hexcused : name ∈ r.exceptions
    · simp [hexcused]
    · by_cases hlabels : labelTexts r.lead ++ f.labels = g.labels <;>
        simp [hexcused, hlabels, eq_comm]

theorem MirrorRule.checkFunction_eq_none {r : MirrorRule} {target : Module} {name : String}
    {f : Function} :
    r.checkFunction target name f = none ↔ ∃ g, target.functions.get? name = some g ∧
      (name ∈ r.exceptions ∨ labelTexts r.lead ++ f.labels = g.labels) := by
  unfold checkFunction
  cases target.functions.get? name with
  | none => simp
  | some g => by_cases hcounted : name ∈ r.exceptions <;> simp [hcounted]

theorem MirrorRule.mem_check {r : MirrorRule} {i : Interface} {source target : Module}
    (hs : i.modules.get? r.source = some source) (ht : i.modules.get? r.target = some target)
    {v : Violation} :
    v ∈ r.check i ↔ ∃ name f, source.functions.get? name = some f ∧
      r.checkFunction target name f = some v := by
  rw [check_of_found hs ht]
  simp only [checkModules, List.mem_filterMap, Prod.exists, Table.mem_sorted]

theorem ExportSpec.check_eq_some {e : ExportSpec} {path : String} {m : Module} {v : Violation} :
    e.check path m = some v ↔
      (m.functions.get? e.name = none ∧ v = .missingExport path e.name e.arity) ∨
      ∃ f, m.functions.get? e.name = some f ∧
        (e.arity ≠ f.labels.length ∨ labelTexts e.labels ≠ f.labels) ∧
        v = .parameterMismatch path e.name (labelTexts e.labels) f.labels := by
  unfold ExportSpec.check
  cases hm : m.functions.get? e.name with
  | none => simp [eq_comm]
  | some f =>
    by_cases hfit : e.arity = f.labels.length ∧ labelTexts e.labels = f.labels
    · simp [hfit]
    · have hdiffer := Decidable.not_and_iff_or_not.mp hfit
      simp only [hfit, if_false, Option.some.injEq, reduceCtorEq, false_and, false_or]
      constructor
      · rintro rfl
        exact ⟨f, rfl, hdiffer, rfl⟩
      · rintro ⟨g, rfl, -, rfl⟩
        rfl

theorem RequiredExports.mem_check {r : RequiredExports} {i : Interface} {m : Module}
    (hm : i.modules.get? r.module = some m) {v : Violation} :
    v ∈ r.check i ↔ ∃ e ∈ r.exports, e.check r.module m = some v := by
  rw [check_of_found hm]
  simp only [checkModule, List.mem_filterMap, List.mem_mergeSort]

theorem SharedTypes.mem_checkName {r : SharedTypes} {a b : Module} {name : String}
    {v : Violation} :
    v ∈ r.checkName a b name ↔
      (a.LacksType name ∧ v = .missingType r.moduleA name) ∨
      (b.LacksType name ∧ v = .missingType r.moduleB name) ∨
      ∃ x y, a.Resolves name x ∧ b.Resolves name y ∧ x.key ≠ y.key ∧
        v = .typeMismatch r.moduleA r.moduleB name (x.mismatchReason y) := by
  simp only [← Module.declaration?_eq_none, ← Module.declaration?_eq_some]
  unfold SharedTypes.checkName
  cases a.declaration? name with
  | none => cases b.declaration? name <;> simp
  | some x =>
    cases b.declaration? name with
    | none => simp
    | some y => by_cases hkey : x.key = y.key <;> simp [hkey]

theorem SharedTypes.checkName_eq_nil {r : SharedTypes} {a b : Module} {name : String} :
    r.checkName a b name = [] ↔
      ∃ x ∈ a.declaration? name, ∃ y ∈ b.declaration? name, x.key = y.key := by
  unfold checkName
  cases a.declaration? name with
  | none => simp
  | some x => cases b.declaration? name <;> simp

theorem SharedTypes.mem_check {r : SharedTypes} {i : Interface} {a b : Module}
    (ha : i.modules.get? r.moduleA = some a) (hb : i.modules.get? r.moduleB = some b)
    {v : Violation} : v ∈ r.check i ↔ ∃ name ∈ r.names, v ∈ r.checkName a b name := by
  rw [check_of_found ha hb]
  simp only [checkModules, List.mem_flatMap, mem_sortedNames]

/-! ### Checking reports what is called for -/

theorem MirrorRule.mem_check_iff_callsFor {r : MirrorRule} {i : Interface} {source target : Module}
    (hs : i.modules.get? r.source = some source) (ht : i.modules.get? r.target = some target)
    {v : Violation} : v ∈ r.check i ↔ (Rule.mirror r).CallsFor i v := by
  rw [mem_check hs ht]
  constructor
  · rintro ⟨name, f, hf, hv⟩
    rcases checkFunction_eq_some.mp hv with ⟨habsent, rfl⟩ | ⟨g, hg, hcounted, hdiffer, rfl⟩
    · exact .missingFunction hs ht hf habsent
    · exact .mirrorMismatch hs ht hf hg hcounted hdiffer
  · intro h
    cases h with
    | moduleNotFound named absent => simp [Rule.modules] at named; grind
    | missingFunction hs' ht' offered absent =>
      cases Option.some.inj (hs.symm.trans hs')
      cases Option.some.inj (ht.symm.trans ht')
      exact ⟨_, _, offered, checkFunction_eq_some.mpr (.inl ⟨absent, rfl⟩)⟩
    | mirrorMismatch hs' ht' offered present counted differ =>
      cases Option.some.inj (hs.symm.trans hs')
      cases Option.some.inj (ht.symm.trans ht')
      exact ⟨_, _, offered,
        checkFunction_eq_some.mpr (.inr ⟨_, present, counted, differ, rfl⟩)⟩

theorem RequiredExports.mem_check_iff_callsFor {r : RequiredExports} {i : Interface} {m : Module}
    (hm : i.modules.get? r.module = some m) {v : Violation} :
    v ∈ r.check i ↔ (Rule.requiredExports r).CallsFor i v := by
  rw [mem_check hm]
  constructor
  · rintro ⟨e, he, hv⟩
    rcases ExportSpec.check_eq_some.mp hv with ⟨habsent, rfl⟩ | ⟨f, hf, hdiffer, rfl⟩
    · exact .missingExport hm he habsent
    · exact .exportMismatch hm he hf hdiffer
  · intro h
    cases h with
    | moduleNotFound named absent => simp [Rule.modules] at named; grind
    | missingExport hm' listed absent =>
      cases Option.some.inj (hm.symm.trans hm')
      exact ⟨_, listed, ExportSpec.check_eq_some.mpr (.inl ⟨absent, rfl⟩)⟩
    | exportMismatch hm' listed present differ =>
      cases Option.some.inj (hm.symm.trans hm')
      exact ⟨_, listed, ExportSpec.check_eq_some.mpr (.inr ⟨_, present, differ, rfl⟩)⟩

theorem SharedTypes.mem_check_iff_callsFor {r : SharedTypes} {i : Interface} {a b : Module}
    (ha : i.modules.get? r.moduleA = some a) (hb : i.modules.get? r.moduleB = some b)
    {v : Violation} : v ∈ r.check i ↔ (Rule.sharedTypes r).CallsFor i v := by
  rw [mem_check ha hb]
  constructor
  · rintro ⟨name, hname, hv⟩
    rcases mem_checkName.mp hv with ⟨hlacks, rfl⟩ | ⟨hlacks, rfl⟩ | ⟨x, y, hx, hy, hkey, rfl⟩
    · exact .missingTypeA ha hb hname hlacks
    · exact .missingTypeB ha hb hname hlacks
    · exact .typeMismatch ha hb hname hx hy hkey
  · intro h
    cases h with
    | moduleNotFound named absent => simp [Rule.modules] at named; grind
    | missingTypeA ha' hb' listed absent =>
      cases Option.some.inj (ha.symm.trans ha')
      exact ⟨_, listed, mem_checkName.mpr (.inl ⟨absent, rfl⟩)⟩
    | missingTypeB ha' hb' listed absent =>
      cases Option.some.inj (hb.symm.trans hb')
      exact ⟨_, listed, mem_checkName.mpr (.inr (.inl ⟨absent, rfl⟩))⟩
    | typeMismatch ha' hb' listed hx hy differ =>
      cases Option.some.inj (ha.symm.trans ha')
      cases Option.some.inj (hb.symm.trans hb')
      exact ⟨_, listed, mem_checkName.mpr (.inr (.inr ⟨_, _, hx, hy, differ, rfl⟩))⟩

/-- One rule reports exactly what it calls for, whether it applies or not. -/
theorem Rule.mem_check_iff_callsFor {r : Rule} {i : Interface} {v : Violation} :
    v ∈ r.check i ↔ r.CallsFor i v := by
  by_cases happlies : r.Applies i
  · cases r with
    | mirror r =>
      obtain ⟨source, target, hs, ht⟩ := MirrorRule.applies_iff.mp happlies
      exact r.mem_check_iff_callsFor hs ht
    | requiredExports r =>
      obtain ⟨m, hm⟩ := RequiredExports.applies_iff.mp happlies
      exact r.mem_check_iff_callsFor hm
    | sharedTypes r =>
      obtain ⟨a, b, ha, hb⟩ := SharedTypes.applies_iff.mp happlies
      exact r.mem_check_iff_callsFor ha hb
  · rw [check_of_not_applies happlies, Interface.mem_missingModules]
    constructor
    · rintro ⟨path, hpath, habsent, rfl⟩
      exact .moduleNotFound hpath habsent
    · intro h
      by_cases hv : ∃ path, v = .moduleNotFound path
      · obtain ⟨path, rfl⟩ := hv
        cases h with
        | moduleNotFound named absent => exact ⟨path, named, absent, rfl⟩
      · exact absurd (h.applies (not_exists.mp hv)) happlies

theorem Rule.applies_of_check_eq_nil {r : Rule} {i : Interface} (h : r.check i = []) :
    r.Applies i := by
  intro path hpath
  cases hm : i.modules.get? path with
  | some m => exact ⟨m, rfl⟩
  | none =>
    have hreported := mem_check_iff_callsFor.mpr (.moduleNotFound hpath hm)
    rw [h] at hreported
    cases hreported

/-- A run reports exactly what its rules call for: nothing is reported without cause, and
nothing that any rule calls for is left out. -/
theorem Interface.mem_verify_iff_callsFor {i : Interface} {rules : List Rule} {v : Violation} :
    v ∈ i.verify rules ↔ ∃ r ∈ rules, r.CallsFor i v := by
  unfold Interface.verify
  rw [List.mem_flatMap]
  simp only [Rule.mem_check_iff_callsFor]

end ApiConformance
