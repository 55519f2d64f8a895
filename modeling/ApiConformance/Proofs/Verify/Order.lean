import Mathlib.Data.List.Forall2
import ApiConformance.Proofs.Sorting
import ApiConformance.Proofs.Verify.Calls

/-!
The order of a report. Rules report in turn, and a rule reports on its functions, exports
or types in the order of their names, whatever the order in which they are listed: on a
function or an export once at most, on a type name as often as modules miss it.
-/
namespace ApiConformance

/-! ### Mirror rules -/

/-- The function that a report is about. -/
def Violation.functionName? : Violation → Option String
  | .missingFunction _ _ name => some name
  | .parameterMismatch _ function _ _ => some function
  | _ => none

/-- The reports are about different functions of the source, in ascending order of their names. -/
def MirrorRule.InOrder (source : Module) (report : List Violation) : Prop :=
  ∃ names : List String, names.Pairwise (· < ·) ∧
    (∀ name ∈ names, (source.functions.get? name).isSome) ∧
    report.map Violation.functionName? = names.map some

theorem MirrorRule.functionName?_of_checkFunction {r : MirrorRule} {target : Module}
    {name : String} {f : Function} {v : Violation} (h : r.checkFunction target name f = some v) :
    v.functionName? = some name := by
  rcases checkFunction_eq_some.mp h with ⟨-, rfl⟩ | ⟨g, -, -, -, rfl⟩ <;> rfl

/-- What a list gives rise to, told by what it came from. -/
theorem map_filterMap_eq {α β γ : Type} {f : α → Option β} {g : β → γ} {h : α → γ}
    (hg : ∀ a b, f a = some b → g b = h a) (l : List α) :
    (l.filterMap f).map g = (l.filter fun a => (f a).isSome).map h := by
  induction l with
  | nil => rfl
  | cons a l ih =>
    cases hfa : f a with
    | none => simp [hfa, ih]
    | some b => simp [hfa, ih, hg a b hfa]

theorem MirrorRule.inOrder_checkModules (r : MirrorRule) (source target : Module) :
    MirrorRule.InOrder source (r.checkModules source target) := by
  let reported (entry : String × Function) : Bool :=
    (r.checkFunction target entry.1 entry.2).isSome
  refine ⟨(source.functions.sorted.filter reported).map Prod.fst, ?_, ?_, ?_⟩
  · rw [List.pairwise_map]
    exact source.functions.pairwise_lt_sorted.filter reported
  · intro name hname
    obtain ⟨⟨name, f⟩, hentry, rfl⟩ := List.mem_map.mp hname
    have hf := Table.mem_sorted.mp (List.mem_of_mem_filter hentry)
    rw [hf]
    rfl
  · rw [List.map_map]
    exact map_filterMap_eq (fun _ _ => functionName?_of_checkFunction) source.functions.sorted

/-! ### Required exports -/

/-- What one export adds to the report on a module. -/
inductive RequiredExports.Adds (r : RequiredExports) (m : Module) (e : ExportSpec) :
    Option Violation → Prop where
  | nothing {f : Function} (present : m.functions.get? e.name = some f)
      (arity : e.arity = f.labels.length) (labels : labelTexts e.labels = f.labels) :
      Adds r m e none
  | missing (absent : m.functions.get? e.name = none) :
      Adds r m e (some (.missingExport r.module e.name e.arity))
  | mismatch {f : Function} (present : m.functions.get? e.name = some f)
      (differ : e.arity ≠ f.labels.length ∨ labelTexts e.labels ≠ f.labels) :
      Adds r m e (some (.parameterMismatch r.module e.name (labelTexts e.labels) f.labels))

/-- The exports of a rule in ascending order of names and then of arities; those of one name and
arity come in the order in which they are listed. -/
structure RequiredExports.Arranged (r : RequiredExports) (exports : List ExportSpec) : Prop where
  perm : exports.Perm r.exports
  ascending : exports.Pairwise fun a b => a.name < b.name ∨ a.name = b.name ∧ a.arity ≤ b.arity
  listed : ∀ name arity, exports.filter (fun e => e.name = name ∧ e.arity = arity) =
    r.exports.filter fun e => e.name = name ∧ e.arity = arity

/-- The report is what the arranged exports add in turn. -/
def RequiredExports.InOrder (r : RequiredExports) (m : Module) (report : List Violation) : Prop :=
  ∃ exports added, r.Arranged exports ∧ List.Forall₂ (r.Adds m) exports added ∧
    report = added.reduceOption

theorem forall₂_map_self {α β : Type} {R : α → β → Prop} {f : α → β} {l : List α}
    (h : ∀ a ∈ l, R a (f a)) : List.Forall₂ R l (l.map f) :=
  List.forall₂_map_right_iff.mpr (List.forall₂_same.mpr h)

theorem RequiredExports.adds_check (r : RequiredExports) (m : Module) (e : ExportSpec) :
    r.Adds m e (e.check r.module m) := by
  unfold ExportSpec.check
  cases hf : m.functions.get? e.name with
  | none => exact .missing hf
  | some f =>
    by_cases hfit : e.arity = f.labels.length ∧ labelTexts e.labels = f.labels
    · simp only [hfit, and_self, if_true]
      exact .nothing hf hfit.1 hfit.2
    · simp only [hfit, if_false]
      exact .mismatch hf (Decidable.not_and_iff_or_not.mp hfit)

theorem ExportSpec.precedes_trans (a b c : ExportSpec) (hab : a.precedes b = true)
    (hbc : b.precedes c = true) : a.precedes c = true := by
  unfold precedes at hab hbc ⊢
  rw [decide_eq_true_eq] at hab hbc ⊢
  rcases hab with hab | ⟨hab, hle⟩ <;> rcases hbc with hbc | ⟨hbc, hle'⟩
  · exact .inl (hab.trans hbc)
  · exact .inl (hbc ▸ hab)
  · exact .inl (hab ▸ hbc)
  · exact .inr ⟨hab.trans hbc, hle.trans hle'⟩

theorem ExportSpec.precedes_total (a b : ExportSpec) :
    (a.precedes b || b.precedes a) = true := by
  unfold precedes
  rw [Bool.or_eq_true, decide_eq_true_eq, decide_eq_true_eq]
  rcases lt_trichotomy a.name b.name with h | h | h
  · exact .inl (.inl h)
  · rcases Nat.le_total a.arity b.arity with hle | hle
    · exact .inl (.inr ⟨h, hle⟩)
    · exact .inr (.inr ⟨h.symm, hle⟩)
  · exact .inr (.inl h)

theorem RequiredExports.arranged_mergeSort (r : RequiredExports) :
    r.Arranged (r.exports.mergeSort ExportSpec.precedes) where
  perm := List.mergeSort_perm r.exports _
  ascending :=
    (List.pairwise_mergeSort ExportSpec.precedes_trans ExportSpec.precedes_total r.exports).imp
      of_decide_eq_true
  listed name arity := by
    refine Sorting.filter_mergeSort ExportSpec.precedes_trans ExportSpec.precedes_total
      (fun a b ha hb => ?_) r.exports
    rw [decide_eq_true_eq] at ha hb
    exact decide_eq_true (.inr ⟨ha.1.trans hb.1.symm, (ha.2.trans hb.2.symm).le⟩)

theorem RequiredExports.inOrder_checkModule (r : RequiredExports) (m : Module) :
    r.InOrder m (r.checkModule m) := by
  refine ⟨_, _, r.arranged_mergeSort, forall₂_map_self fun e _ => r.adds_check m e, ?_⟩
  have hreduce (added : List (Option Violation)) : added.reduceOption = added.filterMap id := rfl
  rw [checkModule, hreduce, List.filterMap_map]
  rfl

/-! ### Shared types -/

/-- What one type name adds to the report on two modules. -/
inductive SharedTypes.Adds (r : SharedTypes) (a b : Module) (name : String) :
    List Violation → Prop where
  | nothing {x y : Declaration} (hx : a.Resolves name x) (hy : b.Resolves name y)
      (same : x.key = y.key) : Adds r a b name []
  | mismatch {x y : Declaration} (hx : a.Resolves name x) (hy : b.Resolves name y)
      (differ : x.key ≠ y.key) :
      Adds r a b name [.typeMismatch r.moduleA r.moduleB name (x.mismatchReason y)]
  | missingA {y : Declaration} (absent : a.LacksType name) (hy : b.Resolves name y) :
      Adds r a b name [.missingType r.moduleA name]
  | missingB {x : Declaration} (hx : a.Resolves name x) (absent : b.LacksType name) :
      Adds r a b name [.missingType r.moduleB name]
  | missingBoth (absentA : a.LacksType name) (absentB : b.LacksType name) :
      Adds r a b name [.missingType r.moduleA name, .missingType r.moduleB name]

/-- The report is what the listed names add in turn, each once, in ascending order. -/
def SharedTypes.InOrder (r : SharedTypes) (a b : Module) (report : List Violation) : Prop :=
  ∃ (names : List String) (added : List (List Violation)),
    names.Pairwise (· < ·) ∧ (∀ name, name ∈ names ↔ name ∈ r.names) ∧
    List.Forall₂ (r.Adds a b) names added ∧ report = added.flatten

theorem SharedTypes.adds_checkName (r : SharedTypes) (a b : Module) (name : String) :
    r.Adds a b name (r.checkName a b name) := by
  unfold checkName
  cases hx : a.declaration? name with
  | none =>
    cases hy : b.declaration? name with
    | none =>
      exact .missingBoth (Module.declaration?_eq_none.mp hx) (Module.declaration?_eq_none.mp hy)
    | some y =>
      exact .missingA (Module.declaration?_eq_none.mp hx) (Module.declaration?_eq_some.mp hy)
  | some x =>
    cases hy : b.declaration? name with
    | none =>
      exact .missingB (Module.declaration?_eq_some.mp hx) (Module.declaration?_eq_none.mp hy)
    | some y =>
      have hx' := Module.declaration?_eq_some.mp hx
      have hy' := Module.declaration?_eq_some.mp hy
      by_cases hkey : x.key = y.key
      · simp only [hkey, if_true]
        exact .nothing hx' hy' hkey
      · simp only [hkey, if_false]
        exact .mismatch hx' hy' hkey

theorem nodup_eraseDups (names : List String) : names.eraseDups.Nodup := by
  induction hn : names.length using Nat.strong_induction_on generalizing names with
  | _ n ih =>
    cases names with
    | nil => simp
    | cons name names =>
      rw [List.eraseDups_cons, List.nodup_cons, List.mem_eraseDups]
      have hlength := List.length_filter_le (fun other => !other == name) names
      rw [List.length_cons] at hn
      exact ⟨by simp, ih _ (by omega) _ rfl⟩

theorem pairwise_sortedNames (names : List String) : (sortedNames names).Pairwise (· < ·) := by
  have hnodup : ((sortedNames names).map id).Nodup := by
    rw [List.map_id]
    exact (List.mergeSort_perm _ _).nodup_iff.mpr (nodup_eraseDups names)
  exact Sorting.pairwise_lt_of_names (Sorting.pairwise_mergeSort_names id _) hnodup

theorem SharedTypes.inOrder_checkModules (r : SharedTypes) (a b : Module) :
    r.InOrder a b (r.checkModules a b) := by
  refine ⟨_, _, pairwise_sortedNames r.names, fun name => mem_sortedNames,
    forall₂_map_self fun name _ => r.adds_checkName a b name, ?_⟩
  rw [checkModules, List.flatMap_def]

/-! ### All rules -/

theorem MirrorRule.InOrder.nodup {source : Module} {report : List Violation}
    (h : MirrorRule.InOrder source report) : (report.map Violation.functionName?).Nodup := by
  obtain ⟨names, hnames, -, hreport⟩ := h
  rw [hreport]
  exact List.Nodup.map (Option.some_injective String) (hnames.imp fun hlt => hlt.ne)

/-- Rules report one after the other. A mirror rule reports in ascending order of functions, and so
at most once on each; required exports are visited by name and arity, those alike in both as they
are listed, and each adds one report at most; type names are visited in ascending order, however
often they are listed. Where a module is absent, absent modules are all that is reported, in the
order in which the rule names them. -/
theorem Interface.verify_inOrder (i : Interface) :
    (∀ rules, i.verify rules = (rules.map fun r => r.check i).flatten) ∧
    (∀ r : MirrorRule, ∀ source ∈ i.modules.get? r.source, ∀ target ∈ i.modules.get? r.target,
      MirrorRule.InOrder source ((Rule.mirror r).check i) ∧
      (((Rule.mirror r).check i).map Violation.functionName?).Nodup) ∧
    (∀ r : RequiredExports, ∀ m ∈ i.modules.get? r.module,
      r.InOrder m ((Rule.requiredExports r).check i)) ∧
    (∀ r : SharedTypes, ∀ a ∈ i.modules.get? r.moduleA, ∀ b ∈ i.modules.get? r.moduleB,
      r.InOrder a b ((Rule.sharedTypes r).check i)) ∧
    ∀ r : Rule, ¬ r.Applies i → r.check i ≠ [] ∧
      r.check i = (r.modules.filter fun path => (i.modules.get? path).isNone).map .moduleNotFound := by
  refine ⟨fun rules => List.flatMap_def .., fun r source hs target ht => ?_, fun r m hm => ?_,
    fun r a ha b hb => ?_, fun r hr => ?_⟩
  · have hreport : (Rule.mirror r).check i = r.checkModules source target :=
      MirrorRule.check_of_found hs ht
    rw [hreport]
    exact ⟨r.inOrder_checkModules source target, (r.inOrder_checkModules source target).nodup⟩
  · have hreport : (Rule.requiredExports r).check i = r.checkModule m :=
      RequiredExports.check_of_found hm
    rw [hreport]
    exact r.inOrder_checkModule m
  · have hreport : (Rule.sharedTypes r).check i = r.checkModules a b :=
      SharedTypes.check_of_found ha hb
    rw [hreport]
    exact r.inOrder_checkModules a b
  · refine ⟨fun hnothing => ?_, Rule.check_of_not_applies hr⟩
    rw [Rule.check_of_not_applies hr] at hnothing
    refine hr fun path hpath => Option.ne_none_iff_exists'.mp fun habsent => ?_
    have hmem := Interface.mem_missingModules.mpr ⟨path, hpath, habsent, rfl⟩
    rw [hnothing] at hmem
    cases hmem

/-! ### A stall -/

def stallModule (types : List String) (functions : List (String × List String)) : Module where
  functions := .ofList (functions.map fun (name, labels) =>
    (name, ⟨labels.map fun label => ⟨some label, .tuple []⟩, none⟩))
  types := .ofList (types.map fun name => (name, ⟨0, [], false⟩))
  aliases := .empty

def stallFront : Module := stallModule ["Coin"] [("sell", ["item"]), ("buy", [])]

def stallBack : Module := stallModule [] [("buy", ["item"])]

def stall : Interface := ⟨"stall", none, .ofList [("front", stallFront), ("back", stallBack)]⟩

/-- Of the four rules the first three apply; the last names a module that the stall lacks. -/
def stallMirror : MirrorRule := ⟨"front", "back", [], []⟩

def stallExports : RequiredExports := ⟨"back", [⟨"sell", 1, []⟩, ⟨"buy", 2, []⟩, ⟨"buy", 0, []⟩]⟩

def stallTypes : SharedTypes := ⟨"front", "back", ["Coin", "Box", "Coin"]⟩

def cellarMirror : MirrorRule := ⟨"cellar", "back", [], []⟩

theorem stall_inOrder :
    stallFront ∈ stall.modules.get? "front" ∧ stallBack ∈ stall.modules.get? "back" ∧
    MirrorRule.InOrder stallFront ((Rule.mirror stallMirror).check stall) ∧
    stallExports.InOrder stallBack ((Rule.requiredExports stallExports).check stall) ∧
    stallTypes.InOrder stallFront stallBack ((Rule.sharedTypes stallTypes).check stall) ∧
    (Rule.mirror cellarMirror).check stall = [.moduleNotFound "cellar"] := by
  have hfront : stallFront ∈ stall.modules.get? "front" := rfl
  have hback : stallBack ∈ stall.modules.get? "back" := rfl
  have hcellar : ¬ (Rule.mirror cellarMirror).Applies stall := fun happlies => by
    obtain ⟨m, hm⟩ := happlies "cellar" (.head _)
    have hnone : stall.modules.get? "cellar" = none := by decide +kernel
    rw [hnone] at hm
    cases hm
  obtain ⟨-, hmirror, hexports, htypes, habsent⟩ := Interface.verify_inOrder stall
  refine ⟨hfront, hback, (hmirror stallMirror _ hfront _ hback).1, hexports stallExports _ hback,
    htypes stallTypes _ hfront _ hback, ?_⟩
  rw [(habsent (.mirror cellarMirror) hcellar).2]
  decide +kernel

end ApiConformance
