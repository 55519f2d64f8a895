import ApiConformance.Verify

/-! A rule applies to an interface that has every module which it names. One that does not
apply reports the modules that it misses and nothing else. -/
namespace ApiConformance

theorem Interface.mem_missingModules {i : Interface} {paths : List String} {v : Violation} :
    v ∈ i.missingModules paths ↔
      ∃ path ∈ paths, i.modules.get? path = none ∧ v = .moduleNotFound path := by
  unfold Interface.missingModules
  rw [List.mem_map]
  constructor
  · rintro ⟨path, hpath, rfl⟩
    rw [List.mem_filter, Option.isNone_iff_eq_none] at hpath
    exact ⟨path, hpath.1, hpath.2, rfl⟩
  · rintro ⟨path, hpath, habsent, rfl⟩
    exact ⟨path, List.mem_filter.mpr ⟨hpath, by simp [habsent]⟩, rfl⟩

/-- The interface has every module that the rule names. -/
def Rule.Applies (r : Rule) (i : Interface) : Prop :=
  ∀ path ∈ r.modules, ∃ m, i.modules.get? path = some m

theorem MirrorRule.applies_iff {r : MirrorRule} {i : Interface} :
    (Rule.mirror r).Applies i ↔ ∃ source target,
      i.modules.get? r.source = some source ∧ i.modules.get? r.target = some target := by
  simp [Rule.Applies, Rule.modules]

theorem RequiredExports.applies_iff {r : RequiredExports} {i : Interface} :
    (Rule.requiredExports r).Applies i ↔ ∃ m, i.modules.get? r.module = some m := by
  simp [Rule.Applies, Rule.modules]

theorem SharedTypes.applies_iff {r : SharedTypes} {i : Interface} :
    (Rule.sharedTypes r).Applies i ↔ ∃ a b,
      i.modules.get? r.moduleA = some a ∧ i.modules.get? r.moduleB = some b := by
  simp [Rule.Applies, Rule.modules]

/-- A rule that does not apply reports the modules that it misses and nothing else. -/
theorem Rule.check_of_not_applies {r : Rule} {i : Interface} (h : ¬ r.Applies i) :
    r.check i = i.missingModules r.modules := by
  cases r with
  | mirror r =>
    change r.check i = _
    unfold MirrorRule.check
    split
    · rename_i hs ht
      exact absurd (MirrorRule.applies_iff.mpr ⟨_, _, hs, ht⟩) h
    · rfl
  | requiredExports r =>
    change r.check i = _
    unfold RequiredExports.check
    split
    · rename_i hm
      exact absurd (RequiredExports.applies_iff.mpr ⟨_, hm⟩) h
    · rfl
  | sharedTypes r =>
    change r.check i = _
    unfold SharedTypes.check
    split
    · rename_i ha hb
      exact absurd (SharedTypes.applies_iff.mpr ⟨_, _, ha, hb⟩) h
    · rfl

theorem Interface.missingModules_congr {i j : Interface} {paths : List String}
    (h : ∀ path ∈ paths, (i.modules.get? path).isSome = (j.modules.get? path).isSome) :
    i.missingModules paths = j.missingModules paths := by
  have hfilter : paths.filter (fun path => (i.modules.get? path).isNone) =
      paths.filter fun path => (j.modules.get? path).isNone :=
    List.filter_congr fun path hpath => by
      rw [← Option.not_isSome, ← Option.not_isSome, h path hpath]
  rw [missingModules, missingModules, hfilter]

/-! ### Rules that apply -/

theorem MirrorRule.check_of_found {r : MirrorRule} {i : Interface} {source target : Module}
    (hs : i.modules.get? r.source = some source) (ht : i.modules.get? r.target = some target) :
    r.check i = r.checkModules source target := by
  rw [check, hs, ht]

theorem RequiredExports.check_of_found {r : RequiredExports} {i : Interface} {m : Module}
    (hm : i.modules.get? r.module = some m) : r.check i = r.checkModule m := by
  rw [check, hm]

theorem SharedTypes.check_of_found {r : SharedTypes} {i : Interface} {a b : Module}
    (ha : i.modules.get? r.moduleA = some a) (hb : i.modules.get? r.moduleB = some b) :
    r.check i = r.checkModules a b := by
  rw [check, ha, hb]

theorem mem_sortedNames {name : String} {names : List String} :
    name ∈ sortedNames names ↔ name ∈ names := by
  rw [sortedNames, List.mem_mergeSort, List.mem_eraseDups]

end ApiConformance
