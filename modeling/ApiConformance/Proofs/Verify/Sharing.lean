import Mathlib.Data.List.SplitBy
import ApiConformance.Proofs.Verify.Acceptance
import ApiConformance.Proofs.Verify.Order

/-!
Shared types do not depend on which module is named first. With the modules exchanged a rule
reports the same, told from the other side; and modules that share types with a third share
them with one another.
-/
namespace ApiConformance

/-! ### Reports from the other side -/

def definitionAgainstAlias : String :=
  "kind mismatch: custom type in the first module, type alias in the second"

def aliasAgainstDefinition : String :=
  "kind mismatch: type alias in the first module, custom type in the second"

/-- The reason for a mismatch with the two modules exchanged. -/
def turnedReason (reason : String) : String :=
  if reason = definitionAgainstAlias then aliasAgainstDefinition
  else if reason = aliasAgainstDefinition then definitionAgainstAlias
  else reason

def Violation.turned : Violation → Violation
  | .typeMismatch a b name reason => .typeMismatch b a name (turnedReason reason)
  | v => v

/-- A report told from the other side. What it says of one type name stands together, and so does
what it says of absent modules, which is of no type; each comes in the opposite order, with
mismatches turned. -/
def turnedReport (report : List Violation) : List Violation :=
  ((report.splitBy fun v w => decide (v.typeName? = w.typeName?)).flatMap List.reverse).map
    Violation.turned

theorem turnedReport_append {report rest : List Violation}
    (h : ∀ v ∈ report, ∀ w ∈ rest, v.typeName? ≠ w.typeName?) :
    turnedReport (report ++ rest) = turnedReport report ++ turnedReport rest := by
  unfold turnedReport
  rw [List.splitBy_append, List.flatMap_append, List.map_append]
  intro v hv w hw
  exact decide_eq_false (h v (List.mem_of_mem_getLast? hv) w (List.mem_of_mem_head? hw))

theorem turnedReport_of_alike {report : List Violation} {name? : Option String}
    (h : ∀ v ∈ report, v.typeName? = name?) :
    turnedReport report = report.reverse.map Violation.turned := by
  cases report with
  | nil => rfl
  | cons v rest =>
    have hchain : (v :: rest).IsChain fun v w => decide (v.typeName? = w.typeName?) = true := by
      refine (List.pairwise_of_forall_mem_list fun a ha b hb => ?_).isChain
      exact decide_eq_true ((h a ha).trans (h b hb).symm)
    rw [turnedReport, List.splitBy_of_isChain (List.cons_ne_nil v rest) hchain,
      List.flatMap_singleton]

/-- A report in which each name has a part of its own is turned part by part. -/
theorem turnedReport_flatMap {names : List String} {part : String → List Violation}
    (hnodup : names.Nodup) (hpart : ∀ name, ∀ v ∈ part name, v.typeName? = some name) :
    turnedReport (names.flatMap part) =
      names.flatMap fun name => (part name).reverse.map Violation.turned := by
  induction names with
  | nil => rfl
  | cons name names ih =>
    obtain ⟨hname, hnames⟩ := List.nodup_cons.mp hnodup
    rw [List.flatMap_cons, List.flatMap_cons, turnedReport_append, ih hnames,
      turnedReport_of_alike (hpart name)]
    -- nothing else is said of the first name, so its part is not taken for longer than it is
    intro v hv w hw
    obtain ⟨other, hother, hw⟩ := List.mem_flatMap.mp hw
    rw [hpart name v hv, hpart other w hw]
    intro heq
    exact hname (Option.some.inj heq ▸ hother)

example :
    turnedReport [.missingType "front" "Coin", .missingType "back" "Coin",
      .typeMismatch "front" "back" "Purse" definitionAgainstAlias, .missingType "back" "Seal"] =
    [.missingType "back" "Coin", .missingType "front" "Coin",
      .typeMismatch "back" "front" "Purse" aliasAgainstDefinition, .missingType "back" "Seal"] := by
  decide

theorem turnedReport_missingModules (i : Interface) (paths : List String) :
    turnedReport (i.missingModules paths) = i.missingModules paths.reverse := by
  have hnone : ∀ v ∈ i.missingModules paths, v.typeName? = none ∧ v.turned = v := by
    intro v hv
    obtain ⟨path, -, -, rfl⟩ := Interface.mem_missingModules.mp hv
    exact ⟨rfl, rfl⟩
  rw [turnedReport_of_alike fun v hv => (hnone v hv).1,
    List.map_congr_left fun v hv => (hnone v (List.mem_reverse.mp hv)).2, List.map_id',
    Interface.missingModules, Interface.missingModules, List.filter_reverse, List.map_reverse]

/-! ### Modules exchanged -/

def SharedTypes.turned (r : SharedTypes) : SharedTypes := ⟨r.moduleB, r.moduleA, r.names⟩

theorem Declaration.mismatchReason_turned (x y : Declaration) :
    y.mismatchReason x = turnedReason (x.mismatchReason y) := by
  cases x <;> cases y <;> rfl

namespace SharedTypes

theorem checkName_turned (r : SharedTypes) (a b : Module) (name : String) :
    r.turned.checkName b a name = (r.checkName a b name).reverse.map Violation.turned := by
  unfold checkName
  cases a.declaration? name with
  | none => cases b.declaration? name <;> rfl
  | some x =>
    cases b.declaration? name with
    | none => rfl
    | some y =>
      by_cases hkey : x.key = y.key
      · simp [hkey]
      · simp [hkey, Ne.symm hkey, turned, Violation.turned, x.mismatchReason_turned y]

theorem checkModules_turned (r : SharedTypes) (a b : Module) :
    r.turned.checkModules b a = turnedReport (r.checkModules a b) := by
  have hnodup : (sortedNames r.names).Nodup := (pairwise_sortedNames r.names).imp fun hlt => hlt.ne
  rw [checkModules, checkModules,
    turnedReport_flatMap hnodup fun _ _ => typeName?_of_mem_checkName]
  exact List.flatMap_congr fun name _ => r.checkName_turned a b name

theorem check_turned (r : SharedTypes) (i : Interface) :
    (Rule.sharedTypes r.turned).check i = turnedReport ((Rule.sharedTypes r).check i) := by
  have hmodules : (Rule.sharedTypes r.turned).modules = (Rule.sharedTypes r).modules.reverse := rfl
  by_cases happlies : (Rule.sharedTypes r).Applies i
  · obtain ⟨a, b, ha, hb⟩ := applies_iff.mp happlies
    have hreport : (Rule.sharedTypes r).check i = r.checkModules a b := check_of_found ha hb
    have hturned : (Rule.sharedTypes r.turned).check i = r.turned.checkModules b a :=
      check_of_found (r := r.turned) hb ha
    rw [hreport, hturned, checkModules_turned]
  · have hturned : ¬ (Rule.sharedTypes r.turned).Applies i := fun h => happlies fun path hpath =>
      h path (by rwa [hmodules, List.mem_reverse])
    rw [Rule.check_of_not_applies happlies, Rule.check_of_not_applies hturned, hmodules,
      turnedReport_missingModules]

theorem check_turned_eq_nil {r : SharedTypes} {i : Interface}
    (h : (Rule.sharedTypes r).check i = []) : (Rule.sharedTypes r.turned).check i = [] := by
  rw [check_turned, h]
  rfl

end SharedTypes

/-! ### Chains of modules -/

/-- Each of the names stands for something in both modules, under one key. -/
def Module.Shares (a b : Module) (names : List String) : Prop :=
  ∀ name ∈ names, ∃ x ∈ a.declaration? name, ∃ y ∈ b.declaration? name, x.key = y.key

theorem Module.Shares.trans {a b c : Module} {names : List String} (hab : a.Shares b names)
    (hbc : b.Shares c names) : a.Shares c names := by
  intro name hname
  obtain ⟨x, hx, y, hy, hxy⟩ := hab name hname
  obtain ⟨y', hy', z, hz, hyz⟩ := hbc name hname
  obtain rfl : y = y' := Option.mem_unique hy hy'
  exact ⟨x, hx, z, hz, hxy.trans hyz⟩

theorem SharedTypes.check_eq_nil {r : SharedTypes} {i : Interface} :
    (Rule.sharedTypes r).check i = [] ↔
      ∃ a b, i.modules.get? r.moduleA = some a ∧ i.modules.get? r.moduleB = some b ∧
        a.Shares b r.names := by
  have hreport {a b : Module} (ha : i.modules.get? r.moduleA = some a)
      (hb : i.modules.get? r.moduleB = some b) :
      (Rule.sharedTypes r).check i = [] ↔ a.Shares b r.names := by
    have hcheck : (Rule.sharedTypes r).check i = r.checkModules a b := check_of_found ha hb
    rw [hcheck, checkModules, List.flatMap_eq_nil_iff]
    simp only [mem_sortedNames, checkName_eq_nil]
    rfl
  constructor
  · intro h
    obtain ⟨a, b, ha, hb⟩ := applies_iff.mp (Rule.applies_of_check_eq_nil h)
    exact ⟨a, b, ha, hb, (hreport ha hb).mp h⟩
  · rintro ⟨a, b, ha, hb, hshares⟩
    exact (hreport ha hb).mpr hshares

/-- With its modules exchanged a rule reports the same from the other side, so nothing if it
reports nothing; and of two modules that share types with a third it reports nothing. -/
theorem SharedTypes.check_turned_and_chained (i : Interface) :
    (∀ r : SharedTypes,
      (Rule.sharedTypes r.turned).check i = turnedReport ((Rule.sharedTypes r).check i) ∧
      ((Rule.sharedTypes r.turned).check i = [] ↔ (Rule.sharedTypes r).check i = [])) ∧
    ∀ (a b c : String) (names : List String), (Rule.sharedTypes ⟨a, b, names⟩).check i = [] →
      (Rule.sharedTypes ⟨b, c, names⟩).check i = [] →
      (Rule.sharedTypes ⟨a, c, names⟩).check i = [] := by
  refine ⟨fun r => ⟨r.check_turned i, fun h => ?_, check_turned_eq_nil⟩,
    fun a b c names hab hbc => ?_⟩
  · exact check_turned_eq_nil (r := r.turned) h
  · obtain ⟨ma, mb, ha, hb, hshares⟩ := check_eq_nil.mp hab
    obtain ⟨mb', mc, hb', hc, hshares'⟩ := check_eq_nil.mp hbc
    obtain rfl : mb = mb' := Option.some.inj (hb.symm.trans hb')
    exact check_eq_nil.mpr ⟨ma, mc, ha, hc, hshares.trans hshares'⟩

/-! ### A mint -/

/-- Purses differ in the variables that they start from, which their keys do not show. -/
def purse (id : Int) : TypeAlias :=
  ⟨2, .tuple [.variable id, .variable (id + 1), .variable id]⟩

def mintModule (isOpaque : Bool) (id : Int) : Module where
  functions := .empty
  types := .ofList [("Coin", ⟨1, [⟨"Silver", [⟨none, .variable 0⟩]⟩, ⟨"Gold", []⟩], isOpaque⟩)]
  aliases := .ofList [("Purse", purse id)]

def mint : Interface :=
  ⟨"mint", none, .ofList [
    ("press", mintModule true 0), ("vault", mintModule false 3), ("office", mintModule true 7)]⟩

theorem shares_mintModule (isOpaque isOpaque' : Bool) {id id' : Int}
    (h : (purse id).key = (purse id').key) :
    (mintModule isOpaque id).Shares (mintModule isOpaque' id') ["Purse", "Coin"] := by
  intro name hname
  simp only [List.mem_cons, List.not_mem_nil, or_false] at hname
  rcases hname with rfl | rfl
  · exact ⟨_, rfl, _, rfl, h⟩
  · exact ⟨_, rfl, _, rfl, rfl⟩

/-- Press and office share what both share with the vault. -/
theorem mint_chained :
    (Rule.sharedTypes ⟨"press", "vault", ["Purse", "Coin"]⟩).check mint = [] ∧
    (Rule.sharedTypes ⟨"vault", "office", ["Purse", "Coin"]⟩).check mint = [] ∧
    (Rule.sharedTypes ⟨"press", "office", ["Purse", "Coin"]⟩).check mint = [] ∧
    (Rule.sharedTypes ⟨"office", "press", ["Purse", "Coin"]⟩).check mint = [] := by
  have hvault : (Rule.sharedTypes ⟨"press", "vault", ["Purse", "Coin"]⟩).check mint = [] :=
    SharedTypes.check_eq_nil.mpr ⟨mintModule true 0, mintModule false 3, rfl, rfl,
      shares_mintModule true false (by decide)⟩
  have hoffice : (Rule.sharedTypes ⟨"vault", "office", ["Purse", "Coin"]⟩).check mint = [] :=
    SharedTypes.check_eq_nil.mpr ⟨mintModule false 3, mintModule true 7, rfl, rfl,
      shares_mintModule false true (by decide)⟩
  obtain ⟨hturned, hchained⟩ := SharedTypes.check_turned_and_chained mint
  have hpress := hchained "press" "vault" "office" _ hvault hoffice
  exact ⟨hvault, hoffice, hpress, (hturned ⟨"press", "office", _⟩).2.mpr hpress⟩

end ApiConformance
