import Mathlib.Data.List.Count
import ApiConformance.Proofs.Verify.Acceptance
import ApiConformance.Proofs.Verify.Order

/-!
Reports that say a thing twice. Functions and type names are visited once each, so a rule on two
modules repeats itself only where the two are one: it takes an absent module for two absent
ones, and a type that the module lacks for two.
-/
namespace ApiConformance

/-! ### Absent modules -/

theorem Interface.nodup_missingModules_pair {i : Interface} {a b : String} :
    (i.missingModules [a, b]).Nodup ↔ (a = b → ∃ m, i.modules.get? a = some m) := by
  unfold missingModules
  rw [List.nodup_map_iff fun _ _ => Violation.moduleNotFound.inj]
  by_cases hab : a = b
  · subst hab
    cases ha : i.modules.get? a with
    | none => simp [ha]
    | some m => simp [ha]
  · have hpair : [a, b].Nodup := by simpa using hab
    exact iff_of_true (hpair.filter _) fun heq => absurd heq hab

/-- An absent module is reported as often as the rule names it. -/
theorem Rule.count_moduleNotFound (r : Rule) {i : Interface} {path : String}
    (habsent : i.modules.get? path = none) :
    (r.check i).count (.moduleNotFound path) = r.modules.count path := by
  by_cases hnamed : path ∈ r.modules
  · have hfails : ¬ r.Applies i := fun happlies => by
      obtain ⟨m, hm⟩ := happlies path hnamed
      rw [habsent] at hm
      cases hm
    rw [check_of_not_applies hfails, Interface.missingModules,
      List.count_map_of_injective _ _ fun _ _ => Violation.moduleNotFound.inj]
    exact List.count_filter (by rw [habsent]; rfl)
  · rw [List.count_eq_zero_of_not_mem hnamed, List.count_eq_zero, mem_check_iff_callsFor]
    intro hcalled
    cases hcalled with
    | moduleNotFound named _ => exact hnamed named

/-! ### Mirror rules -/

theorem MirrorRule.nodup_check_iff {r : MirrorRule} {i : Interface} :
    (r.check i).Nodup ↔ (r.source = r.target → ∃ m, i.modules.get? r.source = some m) := by
  by_cases happlies : (Rule.mirror r).Applies i
  · obtain ⟨source, target, hs, ht⟩ := MirrorRule.applies_iff.mp happlies
    rw [check_of_found hs ht]
    exact iff_of_true (r.inOrder_checkModules source target).nodup.of_map fun _ => ⟨source, hs⟩
  · have hreport : r.check i = i.missingModules [r.source, r.target] :=
      Rule.check_of_not_applies happlies
    rw [hreport, Interface.nodup_missingModules_pair]

/-! ### Shared types -/

namespace SharedTypes

theorem nodup_checkName_iff {r : SharedTypes} {a b : Module} {name : String} :
    (r.checkName a b name).Nodup ↔
      ¬ (r.moduleA = r.moduleB ∧ a.LacksType name ∧ b.LacksType name) := by
  have hadds := r.adds_checkName a b name
  have hresolves {m : Module} {x : Declaration} (hx : m.Resolves name x) : ¬ m.LacksType name := by
    rw [← Module.declaration?_eq_none, Module.declaration?_eq_some.mpr hx]
    exact Option.some_ne_none x
  generalize r.checkName a b name = report at hadds
  cases hadds with
  | nothing hx _ _ => simp [hresolves hx]
  | mismatch hx _ _ => simp [hresolves hx]
  | missingA _ hy => simp [hresolves hy]
  | missingB hx _ => simp [hresolves hx]
  | missingBoth absentA absentB => simp [absentA, absentB]

/-- Reports on two names are never the same. -/
theorem nodup_checkModules_iff {r : SharedTypes} {a b : Module} :
    (r.checkModules a b).Nodup ↔ ∀ name ∈ r.names, (r.checkName a b name).Nodup := by
  have hapart : (sortedNames r.names).Pairwise
      (Function.onFun List.Disjoint (r.checkName a b)) := by
    refine (pairwise_sortedNames r.names).imp fun {name other} hlt => ?_
    refine List.disjoint_left.mpr fun v hv hv' => hlt.ne ?_
    have hname := typeName?_of_mem_checkName hv
    rw [typeName?_of_mem_checkName hv'] at hname
    exact (Option.some.inj hname).symm
  rw [checkModules, List.nodup_flatMap, and_iff_left hapart]
  simp only [mem_sortedNames]

theorem nodup_check_iff {r : SharedTypes} {i : Interface} :
    (r.check i).Nodup ↔ (r.moduleA = r.moduleB → ∃ m, i.modules.get? r.moduleA = some m ∧
      ∀ name ∈ r.names, ¬ m.LacksType name) := by
  by_cases happlies : (Rule.sharedTypes r).Applies i
  · obtain ⟨a, b, ha, hb⟩ := SharedTypes.applies_iff.mp happlies
    rw [check_of_found ha hb, nodup_checkModules_iff]
    simp only [nodup_checkName_iff]
    constructor
    · intro hnames hsame
      rw [← hsame, ha] at hb
      obtain rfl := Option.some.inj hb
      exact ⟨a, ha, fun name hname hlacks => hnames name hname ⟨hsame, hlacks, hlacks⟩⟩
    · rintro hone name hname ⟨hsame, hlacks, -⟩
      obtain ⟨m, hm, htypes⟩ := hone hsame
      rw [ha] at hm
      obtain rfl := Option.some.inj hm
      exact htypes name hname hlacks
  · have hreport : r.check i = i.missingModules [r.moduleA, r.moduleB] :=
      Rule.check_of_not_applies happlies
    rw [hreport, Interface.nodup_missingModules_pair]
    refine forall_congr' fun hsame => ⟨fun ⟨m, hm⟩ => ?_, fun ⟨m, hm, _⟩ => ⟨m, hm⟩⟩
    exact absurd (applies_iff.mpr ⟨m, m, hm, hsame ▸ hm⟩) happlies

end SharedTypes

/-! ### Both kinds of rule -/

/-- A rule on two modules repeats itself just when they are one module and something is missing
there: the module, or a type that is listed. Whatever the rule, an absent module is reported as
often as the rule names it. -/
theorem Interface.repeatsNothing_iff (i : Interface) :
    (∀ r : MirrorRule, ((Rule.mirror r).check i).Nodup ↔
      (r.source = r.target → ∃ m, i.modules.get? r.source = some m)) ∧
    (∀ r : SharedTypes, ((Rule.sharedTypes r).check i).Nodup ↔
      (r.moduleA = r.moduleB → ∃ m, i.modules.get? r.moduleA = some m ∧
        ∀ name ∈ r.names, ¬ m.LacksType name)) ∧
    ∀ (r : Rule) (path : String), i.modules.get? path = none →
      (r.check i).count (.moduleNotFound path) = r.modules.count path :=
  ⟨fun _ => MirrorRule.nodup_check_iff, fun _ => SharedTypes.nodup_check_iff,
    fun r _ => r.count_moduleNotFound⟩

theorem stall_reported_once :
    ((Rule.mirror stallMirror).check stall).Nodup ∧
    ((Rule.sharedTypes stallTypes).check stall).Nodup ∧
    stall.modules.get? "cellar" = none ∧
    ((Rule.mirror cellarMirror).check stall).count (.moduleNotFound "cellar") = 1 := by
  obtain ⟨hmirror, htypes, habsent⟩ := Interface.repeatsNothing_iff stall
  have hcellar : stall.modules.get? "cellar" = none := by decide +kernel
  refine ⟨(hmirror stallMirror).mpr fun hsame => absurd hsame (by decide),
    (htypes stallTypes).mpr fun hsame => absurd hsame (by decide), hcellar, ?_⟩
  rw [habsent (.mirror cellarMirror) "cellar" hcellar]
  decide

/-- A rule on one module twice, which is absent. -/
def echoMirror : MirrorRule := ⟨"gone", "gone", [], []⟩

/-- The one absent module is reported two times. -/
theorem absent_module_repeated :
    (Rule.mirror echoMirror).check ⟨"bare", none, .empty⟩ =
      [.moduleNotFound "gone", .moduleNotFound "gone"] ∧
    ¬ ((Rule.mirror echoMirror).check ⟨"bare", none, .empty⟩).Nodup := by
  decide

end ApiConformance
