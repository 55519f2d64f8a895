import ApiConformance.Proofs.Verify.Calls

/-!
What mirror rules want. More exceptions take mismatches of labels out of a report and leave
all else in its place. A rule that reports nothing says that its target offers the functions of its
source under a lead; offers compose, each lead going before the one that was there already.
-/
namespace ApiConformance

/-! ### Exceptions -/

/-- Whether the report is a mismatch in the labels of one of these functions. -/
def Violation.isMismatchOf (names : List String) : Violation → Bool
  | .parameterMismatch _ function _ _ => names.contains function
  | _ => false

/-- The reports other than mismatches in the labels of these functions. -/
def withoutMismatchesOf (names : List String) (report : List Violation) : List Violation :=
  report.filter fun v => !v.isMismatchOf names

theorem withoutMismatchesOf_comm (names names' : List String) (report : List Violation) :
    withoutMismatchesOf names (withoutMismatchesOf names' report) =
      withoutMismatchesOf names' (withoutMismatchesOf names report) :=
  List.filter_comm ..

theorem withoutMismatchesOf_missingModules (names : List String) (i : Interface)
    (paths : List String) :
    withoutMismatchesOf names (i.missingModules paths) = i.missingModules paths := by
  refine List.filter_eq_self.mpr fun v hv => ?_
  obtain ⟨path, -, -, rfl⟩ := Interface.mem_missingModules.mp hv
  rfl

namespace MirrorRule

/-- A function that is missing is reported whether excused or not; only its labels are excused. -/
theorem checkFunction_withExceptions (r : MirrorRule) (names : List String) (target : Module)
    (name : String) (f : Function) :
    (r.withExceptions names).checkFunction target name f =
      (r.checkFunction target name f).filter fun v => !v.isMismatchOf names := by
  unfold checkFunction withExceptions
  cases target.functions.get? name with
  | none => rfl
  | some g =>
    by_cases hcounted : name ∈ r.exceptions
    · simp [hcounted]
    · by_cases hlabels : labelTexts r.lead ++ f.labels = g.labels
      · simp [hlabels]
      · by_cases hname : name ∈ names <;>
          simp [hcounted, hlabels, hname, Violation.isMismatchOf, Option.filter_some]

theorem checkModules_withExceptions (r : MirrorRule) (names : List String)
    (source target : Module) :
    (r.withExceptions names).checkModules source target =
      withoutMismatchesOf names (r.checkModules source target) := by
  unfold checkModules withoutMismatchesOf
  rw [List.filter_filterMap]
  exact List.filterMap_congr fun entry _ =>
    r.checkFunction_withExceptions names target entry.1 entry.2

theorem withoutMismatchesOf_check (r : MirrorRule) (names : List String) (i : Interface) :
    withoutMismatchesOf names (r.check i) = (r.withExceptions names).check i := by
  by_cases happlies : (Rule.mirror r).Applies i
  · obtain ⟨source, target, hs, ht⟩ := applies_iff.mp happlies
    have hreport : (r.withExceptions names).check i =
        (r.withExceptions names).checkModules source target := check_of_found hs ht
    rw [check_of_found hs ht, hreport, checkModules_withExceptions]
  · have hreport : (r.withExceptions names).check i = i.missingModules [r.source, r.target] :=
      Rule.check_of_not_applies (r := .mirror (r.withExceptions names)) happlies
    have hreport' : r.check i = i.missingModules [r.source, r.target] :=
      Rule.check_of_not_applies happlies
    rw [hreport, hreport', withoutMismatchesOf_missingModules]

end MirrorRule

/-- Exceptions that are added to a mirror rule take just the mismatches in the labels of these
functions out of its report. It does not matter in which order they are added, or whether at
once; and other rules report what they did. -/
theorem Rule.check_withExceptions (i : Interface) :
    (∀ (r : MirrorRule) (names : List String),
      ((Rule.mirror r).withExceptions names).check i =
        withoutMismatchesOf names ((Rule.mirror r).check i)) ∧
    (∀ (r : Rule) (names names' : List String),
      ((r.withExceptions names).withExceptions names').check i =
        ((r.withExceptions names').withExceptions names).check i ∧
      ((r.withExceptions names).withExceptions names').check i =
        (r.withExceptions (names ++ names')).check i) ∧
    (∀ (r : RequiredExports) (names : List String),
      ((Rule.requiredExports r).withExceptions names).check i = (Rule.requiredExports r).check i) ∧
    ∀ (r : SharedTypes) (names : List String),
      ((Rule.sharedTypes r).withExceptions names).check i = (Rule.sharedTypes r).check i := by
  have hmirror (r : MirrorRule) (names : List String) :
      ((Rule.mirror r).withExceptions names).check i =
        withoutMismatchesOf names ((Rule.mirror r).check i) :=
    (r.withoutMismatchesOf_check names i).symm
  refine ⟨hmirror, fun r names names' => ?_, fun _ _ => rfl, fun _ _ => rfl⟩
  cases r with
  | mirror r =>
    have htwice (names names' : List String) :
        (((Rule.mirror r).withExceptions names).withExceptions names').check i =
          withoutMismatchesOf names' (withoutMismatchesOf names ((Rule.mirror r).check i)) := by
      rw [← hmirror r names]
      exact hmirror (r.withExceptions names) names'
    have happend : (r.withExceptions names).withExceptions names' =
        r.withExceptions (names ++ names') := by
      simp [MirrorRule.withExceptions]
    refine ⟨?_, ?_⟩
    · rw [htwice, htwice, withoutMismatchesOf_comm]
    · exact congrArg (fun rule => (Rule.mirror rule).check i) happend
  | requiredExports r => exact ⟨rfl, rfl⟩
  | sharedTypes r => exact ⟨rfl, rfl⟩

/-! ### Mirrors of mirrors -/

/-- The target has every function of the source, with the labels of the lead before those of the
source unless the function is excused. -/
def Module.Mirrors (target source : Module) (lead : List ParamSpec) (exceptions : List String) :
    Prop :=
  ∀ name f, source.functions.get? name = some f →
    ∃ g, target.functions.get? name = some g ∧
      (name ∈ exceptions ∨ labelTexts lead ++ f.labels = g.labels)

instance (target source : Module) (lead : List ParamSpec) (exceptions : List String) :
    Decidable (target.Mirrors source lead exceptions) :=
  decidable_of_iff
    (∀ entry ∈ source.functions.entries, ∃ g ∈ target.functions.get? entry.1,
      entry.1 ∈ exceptions ∨ labelTexts lead ++ entry.2.labels = g.labels)
    (by simp only [Prod.forall, Table.mem_entries]; rfl)

theorem Module.Mirrors.trans {a b c : Module} {lead lead' : List ParamSpec}
    {exceptions exceptions' : List String} (hab : b.Mirrors a lead exceptions)
    (hbc : c.Mirrors b lead' exceptions') :
    c.Mirrors a (lead' ++ lead) (exceptions ++ exceptions') := by
  intro name f hf
  obtain ⟨g, hg, hfg⟩ := hab name f hf
  obtain ⟨h, hh, hgh⟩ := hbc name g hg
  refine ⟨h, hh, ?_⟩
  rw [List.mem_append]
  -- a name excused in one of the two is excused in the whole
  rcases hfg with hexcused | hfg
  · exact .inl (.inl hexcused)
  rcases hgh with hexcused | hgh
  · exact .inl (.inr hexcused)
  right
  calc labelTexts (lead' ++ lead) ++ f.labels
    _ = labelTexts lead' ++ (labelTexts lead ++ f.labels) := by
        rw [labelTexts, List.map_append, List.append_assoc]
        rfl
    _ = h.labels := by rw [hfg, hgh]

theorem MirrorRule.check_eq_nil {r : MirrorRule} {i : Interface} :
    (Rule.mirror r).check i = [] ↔
      ∃ source target, i.modules.get? r.source = some source ∧
        i.modules.get? r.target = some target ∧ target.Mirrors source r.lead r.exceptions := by
  have hreport {source target : Module} (hs : i.modules.get? r.source = some source)
      (ht : i.modules.get? r.target = some target) :
      (Rule.mirror r).check i = [] ↔ target.Mirrors source r.lead r.exceptions := by
    have hcheck : (Rule.mirror r).check i = r.checkModules source target := check_of_found hs ht
    rw [hcheck, checkModules, List.filterMap_eq_nil_iff]
    simp only [Prod.forall, Table.mem_sorted, checkFunction_eq_none]
    rfl
  constructor
  · intro h
    obtain ⟨source, target, hs, ht⟩ := applies_iff.mp (Rule.applies_of_check_eq_nil h)
    exact ⟨source, target, hs, ht, (hreport hs ht).mp h⟩
  · rintro ⟨source, target, hs, ht, hmirrors⟩
    exact (hreport hs ht).mpr hmirrors

/-- If nothing is wrong with a mirror of a module and with a mirror of that mirror, nothing is wrong
with the second as a mirror of the module, under both leads and with all exceptions. -/
theorem Rule.check_mirror_of_mirror {i : Interface} {a b c : String}
    {lead lead' : List ParamSpec} {exceptions exceptions' : List String}
    (hab : (Rule.mirror ⟨a, b, lead, exceptions⟩).check i = [])
    (hbc : (Rule.mirror ⟨b, c, lead', exceptions'⟩).check i = []) :
    (Rule.mirror ⟨a, c, lead' ++ lead, exceptions ++ exceptions'⟩).check i = [] := by
  obtain ⟨ma, mb, ha, hb, hmirrors⟩ := MirrorRule.check_eq_nil.mp hab
  obtain ⟨mb', mc, hb', hc, hmirrors'⟩ := MirrorRule.check_eq_nil.mp hbc
  obtain rfl : mb = mb' := Option.some.inj (hb.symm.trans hb')
  exact MirrorRule.check_eq_nil.mpr ⟨ma, mc, ha, hc, hmirrors.trans hmirrors'⟩

/-! ### A relay -/

/-- A module with nothing but functions, of which only the labels are given. -/
def offering (functions : List (String × List (Option String))) : Module where
  functions := .ofList (functions.map fun (name, labels) =>
    (name, ⟨labels.map fun label => ⟨label, .tuple []⟩, none⟩))
  types := .empty
  aliases := .empty

def relayCore : Module :=
  offering [("send", [none]), ("peek", [some "at"]), ("close", [])]

def relayQueue : Module :=
  offering [("close", []), ("peek", [some "to", some "at"]), ("send", [some "to", none])]

def relayWire : Module :=
  offering [("send", [none, some "to", none]), ("flush", [some "now"]), ("peek", []),
    ("close", [none])]

def relay : Interface :=
  ⟨"relay", none, .ofList [("core", relayCore), ("queue", relayQueue), ("wire", relayWire)]⟩

/-- `close` is excused in the first link only and `peek` in the second, and the leads could not
stand the other way round. -/
theorem relay_mirrored :
    (Rule.mirror ⟨"core", "queue", [.labeled "to"], ["close"]⟩).check relay = [] ∧
    (Rule.mirror ⟨"queue", "wire", [.unlabeled], ["peek"]⟩).check relay = [] ∧
    (Rule.mirror ⟨"core", "wire", [.unlabeled, .labeled "to"], ["close", "peek"]⟩).check relay =
      [] ∧
    ¬ relayWire.Mirrors relayCore [.labeled "to", .unlabeled] ["close", "peek"] := by
  have hqueue : (Rule.mirror ⟨"core", "queue", [.labeled "to"], ["close"]⟩).check relay = [] :=
    MirrorRule.check_eq_nil.mpr ⟨relayCore, relayQueue, rfl, rfl, by decide⟩
  have hwire : (Rule.mirror ⟨"queue", "wire", [.unlabeled], ["peek"]⟩).check relay = [] :=
    MirrorRule.check_eq_nil.mpr ⟨relayQueue, relayWire, rfl, rfl, by decide⟩
  exact ⟨hqueue, hwire, Rule.check_mirror_of_mirror hqueue hwire, by decide⟩

end ApiConformance
