import ApiConformance.Proofs.Canonical.TwoPass
import ApiConformance.Proofs.Verify.Agreement

/-!
Variables mean something only inside the declaration that they occur in, and keys
respect that: renaming the variables of a declaration, different ones to different
ones, leaves its key as it is. So rules see no difference between an interface and
one in which every declaration has its variables renamed in a way of its own.
-/
namespace ApiConformance

/-! ### Keys -/

theorem Parameter.render_rename (ρ : Int → Int) (number : Int → Nat) (p : Parameter) :
    (p.rename ρ).render number = p.render (number ∘ ρ) := by
  rw [render, render, rename, TypeExpr.render_rename]
  rfl

theorem Constructor.render_rename (ρ : Int → Int) (number : Int → Nat) (c : Constructor) :
    (c.rename ρ).render number = c.render (number ∘ ρ) := by
  simp only [render, rename, List.map_map, Function.comp_def, Parameter.render_rename]

theorem Declaration.render_rename (ρ : Int → Int) (number : Int → Nat) (x : Declaration) :
    (x.rename ρ).render number = x.render (number ∘ ρ) := by
  cases x with
  | definition d =>
    simp only [rename, TypeDefinition.rename, render, List.map_map, Function.comp_def,
      Constructor.render_rename]
  | typeAlias a => simp only [rename, TypeAlias.rename, render, TypeExpr.render_rename]

theorem Declaration.render_congr {f g : Int → Nat} {x : Declaration}
    (h : ∀ id ∈ x.ids, f id = g id) : x.render f = x.render g := by
  cases x with
  | definition d =>
    have hconstructors : d.constructors.map (Constructor.render f) =
        d.constructors.map (Constructor.render g) :=
      List.map_congr_left fun c hc => Constructor.render_congr fun id hid =>
        h id (List.mem_flatMap.mpr ⟨c, hc, hid⟩)
    rw [render, render, hconstructors]
  | typeAlias a => rw [render, render, TypeExpr.render_congr h]

/-- The key of a declaration depends only on what it shows, up to the names of variables. -/
theorem Declaration.key_eq_of_shown_eq {x y : Declaration} {ρ : Int → Int}
    (hρ : Set.InjOn ρ {id | id ∈ x.ids}) (h : y.shown = x.shown.rename ρ) : y.key = x.key := by
  have hshown : Set.InjOn ρ {id | id ∈ x.shown.ids} :=
    hρ.mono fun id hid => mem_ids_shown.mp hid
  have hids : y.shown.ids = x.shown.ids.map ρ := by rw [h, ids_rename]
  calc y.key
    _ = (x.shown.rename ρ).render y.number := by rw [key_eq_render, h]
    _ = x.shown.render (y.number ∘ ρ) := render_rename ρ y.number x.shown
    _ = x.shown.render x.number := render_congr fun id hid => by
        unfold number
        rw [Function.comp_apply, hids, Numbering.number_meet_map hshown hid]
    _ = x.key := x.key_eq_render.symm

theorem Declaration.key_rename {x : Declaration} {ρ : Int → Int}
    (hρ : Set.InjOn ρ {id | id ∈ x.ids}) : (x.rename ρ).key = x.key :=
  key_eq_of_shown_eq hρ (x.shown_rename ρ)

/-! ### Interfaces -/

/-- A renaming of the variables of every declaration, by the module and the name that it has. -/
structure Renumbering where
  definitions : String → String → Int → Int
  aliases : String → String → Int → Int

/-- A module, at a path, with the variables of its declarations renamed. -/
def Module.renumber (ρ : Renumbering) (path : String) (m : Module) : Module :=
  { m with
    types := m.types.mapNamed fun name => TypeDefinition.rename (ρ.definitions path name)
    aliases := m.aliases.mapNamed fun name => TypeAlias.rename (ρ.aliases path name) }

def Interface.renumber (ρ : Renumbering) (i : Interface) : Interface :=
  { i with modules := i.modules.mapNamed (Module.renumber ρ) }

/-- In no declaration of a module are two variables renamed to one. -/
structure Renumbering.FaithfulAt (ρ : Renumbering) (path : String) (m : Module) : Prop where
  definitions : ∀ name d, m.types.get? name = some d →
    Set.InjOn (ρ.definitions path name) {id | id ∈ d.ids}
  aliases : ∀ name a, m.aliases.get? name = some a →
    Set.InjOn (ρ.aliases path name) {id | id ∈ a.ids}

def Renumbering.Faithful (ρ : Renumbering) (i : Interface) : Prop :=
  ∀ path m, i.modules.get? path = some m → ρ.FaithfulAt path m

theorem Interface.get?_renumber (ρ : Renumbering) (i : Interface) (path : String) :
    (i.renumber ρ).modules.get? path = (i.modules.get? path).map (Module.renumber ρ path) :=
  Table.get?_mapNamed (Module.renumber ρ) i.modules path

theorem Module.sameType_renumber {ρ : Renumbering} {path : String} {m : Module}
    (h : ρ.FaithfulAt path m) (name : String) : (m.renumber ρ path).SameType m name := by
  unfold SameType declaration? renumber
  dsimp only
  rw [Table.get?_mapNamed, Table.get?_mapNamed]
  cases htypes : m.types.get? name with
  | some d =>
    have hkey := Declaration.key_rename (x := .definition d) (h.definitions name d htypes)
    exact .some (.definition hkey)
  | none =>
    cases haliases : m.aliases.get? name with
    | some a =>
      have hkey := Declaration.key_rename (x := .typeAlias a) (h.aliases name a haliases)
      exact .some (.typeAlias hkey)
    | none => exact .none

theorem Rule.seesAlike_renumber {ρ : Renumbering} {i : Interface} (h : ρ.Faithful i) (r : Rule) :
    r.SeesAlike (i.renumber ρ) i := by
  have found {path : String} {m m' : Module} (hm' : (i.renumber ρ).modules.get? path = some m')
      (hm : i.modules.get? path = some m) : m' = m.renumber ρ path := by
    rw [Interface.get?_renumber, hm] at hm'
    exact (Option.some.inj hm').symm
  constructor
  · intro path _
    rw [Interface.get?_renumber, Option.isSome_map]
  · cases r with
    | mirror r =>
      intro source' hs' target' ht' source hs target ht
      rw [found hs' hs, found ht' ht]
      exact ⟨fun _ => rfl, fun _ _ _ => rfl⟩
    | requiredExports r =>
      intro m' hm' m hm e _
      rw [found hm' hm]
      rfl
    | sharedTypes r =>
      intro a' ha' b' hb' a ha b hb name _
      rw [found ha' ha, found hb' hb]
      exact ⟨Module.sameType_renumber (h _ a ha) name, Module.sameType_renumber (h _ b hb) name⟩

/-- Keys do not depend on how variables are named, and so neither does what rules report of an
interface, even if each declaration has its variables renamed in a way of its own. -/
theorem key_rename_and_verify_renumber :
    (∀ (x : Declaration) (ρ : Int → Int), Set.InjOn ρ {id | id ∈ x.ids} →
      (x.rename ρ).key = x.key) ∧
    ∀ (i : Interface) (ρ : Renumbering), ρ.Faithful i →
      ∀ rules, (i.renumber ρ).verify rules = i.verify rules := by
  constructor
  · intro x ρ hρ
    exact Declaration.key_rename hρ
  · intro i ρ hρ rules
    exact Interface.verify_congr fun r _ => Rule.seesAlike_renumber hρ r

/-- Chains of values, each with a way to make one more. -/
def chainType (element : Int) : TypeDefinition :=
  ⟨1, [⟨"Stop", []⟩, ⟨"Step", [⟨some "value", .variable element⟩,
    ⟨none, .fn [.variable element] (.tuple [.variable element, .variable (element + 1)])⟩]⟩], false⟩

def chains : Interface :=
  ⟨"chains", none, .ofList [("left", ⟨.empty, .ofList [("Chain", chainType 1)], .empty⟩),
    ("right", ⟨.empty, .ofList [("Chain", chainType 5)], .empty⟩)]⟩

def shift : Renumbering := ⟨fun path _ id => id + path.length, fun _ _ id => id⟩

theorem chains_renumbered :
    Set.InjOn (· + 7) {id | id ∈ (Declaration.definition (chainType 1)).ids} ∧
    ((Declaration.definition (chainType 1)).rename (· + 7)).key =
      (Declaration.definition (chainType 1)).key ∧
    shift.Faithful chains ∧
    (chains.renumber shift).verify [.sharedTypes ⟨"left", "right", ["Chain"]⟩] =
      chains.verify [.sharedTypes ⟨"left", "right", ["Chain"]⟩] := by
  have hshift (n : Int) (ids : Set Int) : Set.InjOn (· + n) ids := fun _ _ _ _ h =>
    (Int.add_left_inj n).mp h
  have hfaithful : shift.Faithful chains := fun path _ _ =>
    ⟨fun _ _ _ => hshift path.length _, fun _ _ _ => Set.injOn_id _⟩
  exact ⟨hshift 7 _, key_rename_and_verify_renumber.1 _ _ (hshift 7 _), hfaithful,
    key_rename_and_verify_renumber.2 _ _ hfaithful _⟩

end ApiConformance
