import ApiConformance.Proofs.Verify.Agreement
import ApiConformance.Proofs.Verify.Calls
import ApiConformance.Violation.Report

/-!
The order in which an interface lists its modules, and these their functions, types and
aliases, does not matter: checking visits names in their own order and looks entries up.
-/
namespace ApiConformance

/-- The same names, listed in any order, and under each of them related values. -/
def Table.Reorders {α : Type} (R : α → α → Prop) (t u : Table α) : Prop :=
  ∃ entries, t.entries.Perm entries ∧
    List.Forall₂ (fun x y => x.1 = y.1 ∧ R x.2 y.2) entries u.entries

structure Module.Reorders (m m' : Module) : Prop where
  functions : m.functions.Reorders Eq m'.functions
  types : m.types.Reorders Eq m'.types
  aliases : m.aliases.Reorders Eq m'.aliases

/-- The same modules up to the order of entries at every level. -/
def Interface.Reorders (i j : Interface) : Prop := i.modules.Reorders Module.Reorders j.modules

/-! ### Look-ups -/

theorem Table.Reorders.rel_get? {α : Type} {R : α → α → Prop} {t u : Table α}
    (h : t.Reorders R u) (name : String) : Option.Rel R (t.get? name) (u.get? name) := by
  obtain ⟨entries, hperm, hrel⟩ := h
  have hget : t.get? name = entries.lookup name := lookup_eq_of_perm hperm t.nodup name
  rw [hget]
  exact rel_lookup hrel name

theorem Table.Reorders.get?_eq {α : Type} {t u : Table α} (h : t.Reorders Eq u) (name : String) :
    t.get? name = u.get? name := by
  have hrel := h.rel_get? name
  generalize t.get? name = x, u.get? name = y at hrel ⊢
  cases hrel with
  | none => rfl
  | some hvw => rw [hvw]

theorem Module.Reorders.sameLabels {m m' : Module} (h : m.Reorders m') (name : String) :
    m.SameLabels m' name := by
  unfold Module.SameLabels
  rw [h.functions.get?_eq]

theorem Module.Reorders.declaration?_eq {m m' : Module} (h : m.Reorders m') (name : String) :
    m.declaration? name = m'.declaration? name := by
  unfold Module.declaration?
  rw [h.types.get?_eq, h.aliases.get?_eq]

theorem Module.Reorders.sameType {m m' : Module} (h : m.Reorders m') (name : String) :
    m.SameType m' name := by
  unfold Module.SameType
  rw [h.declaration?_eq]
  cases m'.declaration? name with
  | none => exact .none
  | some x => cases x with
    | definition d => exact .some (.definition rfl)
    | typeAlias a => exact .some (.typeAlias rfl)

theorem Table.Reorders.of_perm {α : Type} {t u : Table α} (h : t.entries.Perm u.entries) :
    t.Reorders Eq u :=
  ⟨u.entries, h, List.forall₂_same.mpr fun _ _ => ⟨rfl, rfl⟩⟩

/-! ### Reports -/

theorem Interface.Reorders.isSome_eq {i j : Interface} (h : i.Reorders j) (path : String) :
    (i.modules.get? path).isSome = (j.modules.get? path).isSome := by
  have hrel := Table.Reorders.rel_get? h path
  generalize i.modules.get? path = x, j.modules.get? path = y at hrel ⊢
  cases hrel <;> rfl

theorem Interface.Reorders.module {i j : Interface} (h : i.Reorders j) {path : String}
    {m m' : Module} (hm : m ∈ i.modules.get? path) (hm' : m' ∈ j.modules.get? path) :
    m.Reorders m' := by
  have hrel := Table.Reorders.rel_get? h path
  rw [Option.mem_def.mp hm, Option.mem_def.mp hm'] at hrel
  cases hrel with
  | some hmm' => exact hmm'

theorem Interface.Reorders.seesAlike {i j : Interface} (h : i.Reorders j) (r : Rule) :
    r.SeesAlike i j := by
  refine ⟨fun path _ => h.isSome_eq path, ?_⟩
  cases r with
  | mirror r =>
    intro source hs target ht source' hs' target' ht'
    exact ⟨(h.module hs hs').sameLabels, fun name _ _ => (h.module ht ht').sameLabels name⟩
  | requiredExports r =>
    intro m hm m' hm' e _
    exact (h.module hm hm').sameLabels e.name
  | sharedTypes r =>
    intro a ha b hb a' ha' b' hb' name _
    exact ⟨(h.module ha ha').sameType name, (h.module hb hb').sameType name⟩

/-- Interfaces that list the same in different orders have the same violations, in the same
order, and the same report. -/
theorem Interface.verify_eq_of_reorders {i j : Interface} (h : i.Reorders j) (rules : List Rule) :
    i.verify rules = j.verify rules ∧
      Report.ofViolations (i.verify rules) = Report.ofViolations (j.verify rules) := by
  have hverify : i.verify rules = j.verify rules :=
    Interface.verify_congr fun r _ => h.seesAlike r
  exact ⟨hverify, by rw [hverify]⟩

/-! ### Everything the other way round -/

def Table.reversed {α : Type} (t : Table α) : Table α :=
  ⟨t.entries.reverse, by simpa [List.map_reverse] using t.nodup⟩

def Module.reversed (m : Module) : Module :=
  ⟨m.functions.reversed, m.types.reversed, m.aliases.reversed⟩

def Interface.reversed (i : Interface) : Interface :=
  { i with modules := i.modules.reversed.map Module.reversed }

theorem Table.perm_reversed {α : Type} (t : Table α) : t.entries.Perm t.reversed.entries :=
  t.entries.reverse_perm.symm

theorem Module.reorders_reversed (m : Module) : m.Reorders m.reversed :=
  ⟨.of_perm m.functions.perm_reversed, .of_perm m.types.perm_reversed,
    .of_perm m.aliases.perm_reversed⟩

theorem Interface.reorders_reversed (i : Interface) : i.Reorders i.reversed :=
  ⟨i.modules.reversed.entries, i.modules.perm_reversed, List.forall₂_map_right_iff.mpr
    (List.forall₂_same.mpr fun entry _ => ⟨rfl, entry.2.reorders_reversed⟩)⟩

/-- A module in which the labels, the variables and one arity can be chosen. -/
def shapes (label : Option String) (id : Int) : Module where
  functions := .ofList [("draw", ⟨[⟨label, .variable id⟩], none⟩), ("area", ⟨[], none⟩)]
  types := .ofList [
    ("Side", ⟨1, [⟨"Left", [⟨none, .variable id⟩]⟩, ⟨"Right", []⟩], false⟩), ("Pen", ⟨0, [], true⟩)]
  aliases := .ofList [("Point", ⟨id, .variable id⟩), ("Origin", ⟨0, .tuple []⟩)]

def gallery : Interface :=
  ⟨"gallery", none, .ofList [("plain", shapes none 1), ("fancy", shapes (some "size") 2)]⟩

def fancyExports : RequiredExports := ⟨"fancy", [⟨"erase", 1, [.unlabeled]⟩, ⟨"area", 0, []⟩]⟩

def galleryRules : List Rule := [
  .mirror ⟨"plain", "fancy", [], []⟩, .requiredExports fancyExports,
  .sharedTypes ⟨"plain", "fancy", ["Side", "Point", "Origin", "Pen"]⟩]

theorem gallery_reversed :
    gallery.reversed ≠ gallery ∧ gallery.Reorders gallery.reversed ∧
    (gallery.verify galleryRules = gallery.reversed.verify galleryRules ∧
      Report.ofViolations (gallery.verify galleryRules) =
        Report.ofViolations (gallery.reversed.verify galleryRules)) ∧
    .missingExport "fancy" "erase" 1 ∈ gallery.verify galleryRules := by
  refine ⟨by decide, gallery.reorders_reversed,
    Interface.verify_eq_of_reorders gallery.reorders_reversed galleryRules, ?_⟩
  have hcalls : (Rule.requiredExports fancyExports).CallsFor gallery
      (.missingExport "fancy" "erase" 1) :=
    .missingExport (r := fancyExports) (e := ⟨"erase", 1, [.unlabeled]⟩)
      (m := shapes (some "size") 2) rfl (.head _) rfl
  exact List.mem_flatMap.mpr
    ⟨.requiredExports fancyExports, .tail _ (.head _), Rule.mem_check_iff_callsFor.mpr hcalls⟩

end ApiConformance
