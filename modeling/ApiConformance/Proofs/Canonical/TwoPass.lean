import ApiConformance.Proofs.Canonical.Numbering
import ApiConformance.Proofs.Canonical.Variables

/-!
Keys in two passes. The first numbers the variables in the order in which they are
met; the second writes the key down, looking every variable up. Keys are made in one
pass, under numberings that still grow, and yet are the same texts, because a
number once given stays.
-/
namespace ApiConformance

/-! ### Writing down -/

namespace TypeExpr

mutual

/-- The text of a type whose variables have given numbers. -/
def render (number : Int → Nat) : TypeExpr → String
  | .variable id => "v" ++ Text.natural (number id)
  | .tuple elements => "tuple(" ++ joined "," (renderAll number elements) ++ ")"
  | .named package module name parameters =>
    "named(" ++ package ++ "|" ++ module ++ "|" ++ name ++ ")<"
      ++ joined "," (renderAll number parameters) ++ ">"
  | .fn parameters result =>
    "fn(" ++ joined "," (renderAll number parameters) ++ ")->" ++ result.render number

def renderAll (number : Int → Nat) : List TypeExpr → List String
  | [] => []
  | t :: ts => t.render number :: renderAll number ts

end

@[simp] theorem renderAll_eq_map (number : Int → Nat) (ts : List TypeExpr) :
    renderAll number ts = ts.map (render number) := by
  induction ts with
  | nil => rfl
  | cons t ts ih => rw [renderAll, ih, List.map_cons]

/-- A text tells numbers and no variables. -/
theorem render_rename (ρ : Int → Int) (number : Int → Nat) (t : TypeExpr) :
    (t.rename ρ).render number = t.render (number ∘ ρ) := by
  have all (ts : List TypeExpr) (h : ∀ t ∈ ts, (t.rename ρ).render number = t.render (number ∘ ρ)) :
      (ts.map (rename ρ)).map (render number) = ts.map (render (number ∘ ρ)) := by
    rw [List.map_map]
    exact List.map_congr_left h
  induction t using TypeExpr.induction with
  | var id => rfl
  | tuple elements ih =>
    simp only [rename, render, renameAll_eq_map, renderAll_eq_map, all elements ih]
  | named package module name parameters ih =>
    simp only [rename, render, renameAll_eq_map, renderAll_eq_map, all parameters ih]
  | fn parameters result ih ihresult =>
    simp only [rename, render, renameAll_eq_map, renderAll_eq_map, all parameters ih, ihresult]

theorem render_congr {f g : Int → Nat} {t : TypeExpr} (h : ∀ id ∈ t.ids, f id = g id) :
    t.render f = t.render g := by
  have all (ts : List TypeExpr)
      (ih : ∀ t ∈ ts, (∀ id ∈ t.ids, f id = g id) → t.render f = t.render g)
      (h : ∀ id ∈ ts.flatMap ids, f id = g id) : ts.map (render f) = ts.map (render g) :=
    List.map_congr_left fun t ht => ih t ht fun id hid =>
      h id (List.mem_flatMap.mpr ⟨t, ht, hid⟩)
  induction t using TypeExpr.induction with
  | var id => rw [render, render, h id (List.mem_singleton_self id)]
  | tuple elements ih =>
    rw [ids, idsOf_eq_flatMap] at h
    rw [render, render, renderAll_eq_map, renderAll_eq_map, all elements ih h]
  | named package module name parameters ih =>
    rw [ids, idsOf_eq_flatMap] at h
    rw [render, render, renderAll_eq_map, renderAll_eq_map, all parameters ih h]
  | fn parameters result ih ihresult =>
    rw [ids, idsOf_eq_flatMap, List.forall_mem_append] at h
    rw [render, render, renderAll_eq_map, renderAll_eq_map, all parameters ih h.1, ihresult h.2]

end TypeExpr

def Parameter.render (number : Int → Nat) (p : Parameter) : String :=
  p.labelText ++ ":" ++ p.type.render number

theorem Parameter.render_congr {f g : Int → Nat} {p : Parameter} (h : ∀ id ∈ p.ids, f id = g id) :
    p.render f = p.render g := by
  rw [render, render, TypeExpr.render_congr h]

def Constructor.render (number : Int → Nat) (c : Constructor) : String :=
  c.name ++ "(" ++ joined "," (c.parameters.map (Parameter.render number)) ++ ")"

theorem Constructor.render_congr {f g : Int → Nat} {c : Constructor}
    (h : ∀ id ∈ c.ids, f id = g id) : c.render f = c.render g := by
  have hparameters : c.parameters.map (Parameter.render f) =
      c.parameters.map (Parameter.render g) :=
    List.map_congr_left fun p hp => Parameter.render_congr fun id hid =>
      h id (List.mem_flatMap.mpr ⟨p, hp, hid⟩)
  rw [render, render, hparameters]

/-- The text of a declaration, its constructors in the order that they have. -/
def Declaration.render (number : Int → Nat) : Declaration → String
  | .definition d => "type(" ++ Text.integer d.arity ++ "):"
      ++ joined "|" (d.constructors.map (Constructor.render number))
  | .typeAlias a => "alias(" ++ Text.integer a.arity ++ "):" ++ a.aliased.render number

/-! ### One pass and two -/

/-- If one pass over a thing is two, so is one pass over several such things. -/
theorem keysWith_eq_map_render {α : Type} {key : α → Numbering → String × Numbering}
    {render : (Int → Nat) → α → String} {ids : α → List Int} {as : List α}
    (hkey : ∀ a ∈ as, ∀ s, key a s = (render (s.meet (ids a)).number a, s.meet (ids a)))
    (htext : ∀ a ∈ as, ∀ f g, (∀ id ∈ ids a, f id = g id) → render f a = render g a)
    (s : Numbering) :
    keysWith key as s =
      (as.map (render (s.meet (as.flatMap ids)).number), s.meet (as.flatMap ids)) := by
  induction as generalizing s with
  | nil => rfl
  | cons a as ih =>
    rw [List.forall_mem_cons] at hkey htext
    have hfinal : render (s.meet (ids a)).number a =
        render (s.meet (ids a ++ as.flatMap ids)).number a :=
      htext.1 _ _ fun id hid => (Numbering.number_meet_append hid _).symm
    rw [keysWith, hkey.1]
    dsimp only
    rw [ih hkey.2 htext.2, ← Numbering.meet_append, hfinal]
    rfl

theorem TypeExpr.keys_eq_keysWith (ts : List TypeExpr) (s : Numbering) :
    keys ts s = keysWith key ts s := by
  induction ts generalizing s with
  | nil => rfl
  | cons t ts ih => simp only [keys_cons, keysWith, ih]

theorem TypeExpr.keys_eq_map_render {ts : List TypeExpr}
    (h : ∀ t ∈ ts, ∀ s, t.key s = (t.render (s.meet t.ids).number, s.meet t.ids))
    (s : Numbering) :
    keys ts s = (ts.map (render (s.meet (ts.flatMap ids)).number), s.meet (ts.flatMap ids)) := by
  rw [keys_eq_keysWith]
  exact keysWith_eq_map_render h (fun _ _ _ _ => render_congr) s

theorem TypeExpr.key_eq_render (t : TypeExpr) (s : Numbering) :
    t.key s = (t.render (s.meet t.ids).number, s.meet t.ids) := by
  induction t using TypeExpr.induction generalizing s with
  | var id =>
    have hnumber : (s.resolve id).2.number id = (s.resolve id).1 :=
      Numbering.number_of_get? (Numbering.get?_resolve s id)
    simp [key_var, render, ids, hnumber]
  | tuple elements ih => simp [key_tuple, render, ids, keys_eq_map_render ih]
  | named package module name parameters ih => simp [key_named, render, ids, keys_eq_map_render ih]
  | fn parameters result ih ihresult =>
    have hparameters : parameters.map (render (s.meet (parameters.flatMap ids)).number) =
        parameters.map (render (s.meet (parameters.flatMap ids ++ result.ids)).number) :=
      List.map_congr_left fun t ht => render_congr fun id hid =>
        (Numbering.number_meet_append (List.mem_flatMap.mpr ⟨t, ht, hid⟩) _).symm
    simp [key_fn, render, ids, keys_eq_map_render ih, ihresult, hparameters, Numbering.meet_append]

theorem Parameter.key_eq_render (p : Parameter) (s : Numbering) :
    p.key s = (p.render (s.meet p.ids).number, s.meet p.ids) := by
  rw [key, TypeExpr.key_eq_render]
  rfl

theorem Constructor.key_eq_render (c : Constructor) (s : Numbering) :
    c.key s = (c.render (s.meet c.ids).number, s.meet c.ids) := by
  rw [key, keysWith_eq_map_render (fun p _ => p.key_eq_render)
    fun _ _ _ _ => Parameter.render_congr]
  rfl

theorem Constructor.keysWith_eq_map_render (cs : List Constructor) (s : Numbering) :
    keysWith key cs s = (cs.map (render (s.meet (cs.flatMap ids)).number), s.meet (cs.flatMap ids)) :=
  ApiConformance.keysWith_eq_map_render (fun c _ => c.key_eq_render)
    (fun _ _ _ _ => render_congr) s

/-! ### Declarations -/

theorem TypeDefinition.key_eq_render (d : TypeDefinition) :
    d.key = "type(" ++ Text.integer d.arity ++ "):" ++ joined "|"
      (d.sortedConstructors.map (Constructor.render
        (Numbering.empty.meet (d.sortedConstructors.flatMap Constructor.ids)).number)) := by
  rw [key, Constructor.keysWith_eq_map_render]

theorem TypeAlias.key_eq_render (a : TypeAlias) :
    a.key = "alias(" ++ Text.integer a.arity ++ "):"
      ++ a.aliased.render (Numbering.empty.meet a.aliased.ids).number := by
  rw [key, TypeExpr.key_eq_render]

/-- A parameter with its label written out. -/
def Parameter.spelled (p : Parameter) : Parameter := { p with label := some p.labelText }

def Constructor.spelled (c : Constructor) : Constructor :=
  { c with parameters := c.parameters.map Parameter.spelled }

/-- What a key shows of a declaration: constructors in the order of their names, every label
written out. Whether a type is opaque does not show. -/
def Declaration.shown : Declaration → Declaration
  | .definition d => .definition ⟨d.arity, d.sortedConstructors.map Constructor.spelled, false⟩
  | .typeAlias a => .typeAlias a

theorem Constructor.render_spelled (number : Int → Nat) (c : Constructor) :
    c.spelled.render number = c.render number := by
  rw [render, render, spelled, List.map_map]
  rfl

theorem Constructor.ids_spelled (c : Constructor) : c.spelled.ids = c.ids := by
  rw [ids, ids, spelled, List.flatMap_map]
  rfl

theorem Constructor.spelled_rename (ρ : Int → Int) (c : Constructor) :
    (c.rename ρ).spelled = c.spelled.rename ρ := by
  simp [spelled, rename, Parameter.spelled, Parameter.rename, Parameter.labelText]

theorem Declaration.shown_rename (ρ : Int → Int) (x : Declaration) :
    (x.rename ρ).shown = x.shown.rename ρ := by
  cases x with
  | definition d =>
    simp only [rename, shown, TypeDefinition.sortedConstructors_rename, List.map_map]
    simp [TypeDefinition.rename, Function.comp_def, Constructor.spelled_rename]
  | typeAlias a => rfl

theorem Declaration.mem_ids_shown {x : Declaration} {id : Int} :
    id ∈ x.shown.ids ↔ id ∈ x.ids := by
  cases x with
  | definition d =>
    simp [shown, ids, TypeDefinition.ids, List.flatMap_map, Constructor.ids_spelled,
      TypeDefinition.sortedConstructors]
  | typeAlias a => rfl

/-- The numbers that variables have in the key of a declaration. -/
def Declaration.number (x : Declaration) : Int → Nat :=
  (Numbering.empty.meet x.shown.ids).number

theorem Declaration.number_injOn (x : Declaration) : Set.InjOn x.number {id | id ∈ x.shown.ids} :=
  Numbering.dense_empty.number_meet_injOn x.shown.ids

/-- The key of a declaration is what it shows, written down under its own numbers. -/
theorem Declaration.key_eq_render (x : Declaration) : x.key = x.shown.render x.number := by
  cases x with
  | definition d =>
    rw [key, TypeDefinition.key_eq_render]
    simp [shown, render, number, ids, TypeDefinition.ids, List.flatMap_map, Function.comp_def,
      Constructor.render_spelled, Constructor.ids_spelled]
  | typeAlias a =>
    rw [key, TypeAlias.key_eq_render]
    rfl

/-! ### All that has keys -/

/-- One pass does what two do: the first meets the variables of a thing in their order, and the
second writes it down under the last numbering, in which every variable has a number. -/
def TwoPass {α β : Type} (key : α → Numbering → β × Numbering) (render : (Int → Nat) → α → β)
    (ids : α → List Int) : Prop :=
  ∀ a s, key a s = (render (s.meet (ids a)).number a, s.meet (ids a)) ∧
    ∀ id ∈ ids a, (s.meet (ids a)).get? id = some ((s.meet (ids a)).number id)

theorem twoPass_of_key_eq {α β : Type} {key : α → Numbering → β × Numbering}
    {render : (Int → Nat) → α → β} {ids : α → List Int}
    (h : ∀ a s, key a s = (render (s.meet (ids a)).number a, s.meet (ids a))) :
    TwoPass key render ids :=
  fun a s => ⟨h a s, fun _ => Numbering.get?_meet_number⟩

/-- Keys are made in one pass as in two, under whatever numbering the pass begins. The key of a
declaration begins under the empty one; that of a definition takes its constructors by name. -/
theorem keys_twoPass :
    TwoPass TypeExpr.key TypeExpr.render TypeExpr.ids ∧
    TwoPass TypeExpr.keys (fun number => List.map (TypeExpr.render number))
      (List.flatMap TypeExpr.ids) ∧
    TwoPass Parameter.key Parameter.render Parameter.ids ∧
    TwoPass Constructor.key Constructor.render Constructor.ids ∧
    (∀ d : TypeDefinition, d.key = "type(" ++ Text.integer d.arity ++ "):" ++ joined "|"
      (d.sortedConstructors.map (Constructor.render
        (Numbering.empty.meet (d.sortedConstructors.flatMap Constructor.ids)).number))) ∧
    ∀ a : TypeAlias, a.key = "alias(" ++ Text.integer a.arity ++ "):"
      ++ a.aliased.render (Numbering.empty.meet a.aliased.ids).number := by
  refine ⟨twoPass_of_key_eq TypeExpr.key_eq_render, twoPass_of_key_eq fun _ s => ?_,
    twoPass_of_key_eq Parameter.key_eq_render, twoPass_of_key_eq Constructor.key_eq_render,
    TypeDefinition.key_eq_render, TypeAlias.key_eq_render⟩
  exact TypeExpr.keys_eq_map_render (fun t _ => t.key_eq_render) s

end ApiConformance
