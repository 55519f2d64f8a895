import Mathlib.Data.List.Basic
import ApiConformance.Canonical.Key

/-!
The variables of types and declarations in the order in which keys meet them, and
what becomes of a declaration whose variables are renamed.
-/
namespace ApiConformance

/-! ### Types -/

namespace TypeExpr

/-- Induction in which a claim about a type may use it for each of the types right inside. -/
@[elab_as_elim]
theorem induction {motive : TypeExpr → Prop} (var : ∀ id, motive (.variable id))
    (tuple : ∀ elements, (∀ t ∈ elements, motive t) → motive (.tuple elements))
    (named : ∀ package module name parameters, (∀ t ∈ parameters, motive t) →
      motive (.named package module name parameters))
    (fn : ∀ parameters result, (∀ t ∈ parameters, motive t) → motive result →
      motive (.fn parameters result)) (t : TypeExpr) : motive t :=
  @TypeExpr.rec motive (fun ts => ∀ t ∈ ts, motive t) var tuple named fn (fun _ h => nomatch h)
    (fun _ _ ht hts => List.forall_mem_cons.mpr ⟨ht, hts⟩) t

mutual

/-- The variables of a type from left to right, those of a result last. -/
def ids : TypeExpr → List Int
  | .variable id => [id]
  | .tuple elements => idsOf elements
  | .named _ _ _ parameters => idsOf parameters
  | .fn parameters result => idsOf parameters ++ result.ids

def idsOf : List TypeExpr → List Int
  | [] => []
  | t :: ts => t.ids ++ idsOf ts

end

@[simp] theorem idsOf_eq_flatMap (ts : List TypeExpr) : idsOf ts = ts.flatMap ids := by
  induction ts with
  | nil => rfl
  | cons t ts ih => rw [idsOf, ih, List.flatMap_cons]

mutual

def rename (ρ : Int → Int) : TypeExpr → TypeExpr
  | .variable id => .variable (ρ id)
  | .tuple elements => .tuple (renameAll ρ elements)
  | .named package module name parameters => .named package module name (renameAll ρ parameters)
  | .fn parameters result => .fn (renameAll ρ parameters) (result.rename ρ)

def renameAll (ρ : Int → Int) : List TypeExpr → List TypeExpr
  | [] => []
  | t :: ts => t.rename ρ :: renameAll ρ ts

end

@[simp] theorem renameAll_eq_map (ρ : Int → Int) (ts : List TypeExpr) :
    renameAll ρ ts = ts.map (rename ρ) := by
  induction ts with
  | nil => rfl
  | cons t ts ih => rw [renameAll, ih, List.map_cons]

theorem ids_rename (ρ : Int → Int) (t : TypeExpr) : (t.rename ρ).ids = t.ids.map ρ := by
  have all (ts : List TypeExpr) (h : ∀ t ∈ ts, (t.rename ρ).ids = t.ids.map ρ) :
      (ts.map (rename ρ)).flatMap ids = (ts.flatMap ids).map ρ := by
    rw [List.flatMap_map, List.map_flatMap]
    exact List.flatMap_congr h
  induction t using TypeExpr.induction with
  | var id => rfl
  | tuple elements ih => simpa [rename, ids] using all elements ih
  | named package module name parameters ih => simpa [rename, ids] using all parameters ih
  | fn parameters result ih ihresult => simp [rename, ids, all parameters ih, ihresult]

theorem rename_congr {ρ σ : Int → Int} {t : TypeExpr} (h : ∀ id ∈ t.ids, ρ id = σ id) :
    t.rename ρ = t.rename σ := by
  induction t using TypeExpr.induction with
  | var id => simpa [rename, ids] using h
  | tuple elements ih =>
    simp only [ids, idsOf_eq_flatMap, List.mem_flatMap] at h
    simp only [rename, renameAll_eq_map]
    rw [List.map_congr_left fun t ht => ih t ht fun id hid => h id ⟨t, ht, hid⟩]
  | named package module name parameters ih =>
    simp only [ids, idsOf_eq_flatMap, List.mem_flatMap] at h
    simp only [rename, renameAll_eq_map]
    rw [List.map_congr_left fun t ht => ih t ht fun id hid => h id ⟨t, ht, hid⟩]
  | fn parameters result ih ihresult =>
    simp only [ids, idsOf_eq_flatMap, List.mem_append, List.mem_flatMap] at h
    simp only [rename, renameAll_eq_map]
    rw [List.map_congr_left fun t ht => ih t ht fun id hid => h id (.inl ⟨t, ht, hid⟩),
      ihresult fun id hid => h id (.inr hid)]

theorem rename_rename (ρ σ : Int → Int) (t : TypeExpr) :
    (t.rename ρ).rename σ = t.rename (σ ∘ ρ) := by
  induction t using TypeExpr.induction with
  | var id => rfl
  | tuple elements ih => simpa [rename] using ih
  | named package module name parameters ih => simpa [rename] using ih
  | fn parameters result ih ihresult => simpa [rename, ihresult] using ih

theorem rename_of_fixed {ρ : Int → Int} {t : TypeExpr} (h : ∀ id ∈ t.ids, ρ id = id) :
    t.rename ρ = t := by
  have all (ts : List TypeExpr) (hts : ∀ t ∈ ts, t.rename id = t) :
      ts.map (rename id) = ts :=
    (List.map_congr_left hts).trans (List.map_id ts)
  rw [rename_congr (σ := id) h]
  clear h
  induction t using TypeExpr.induction with
  | var id => rfl
  | tuple elements ih => simp [rename, all elements ih]
  | named package module name parameters ih => simp [rename, all parameters ih]
  | fn parameters result ih ihresult => simp [rename, all parameters ih, ihresult]

end TypeExpr

/-! ### Parameters and constructors -/

namespace Parameter

def ids (p : Parameter) : List Int := p.type.ids

def rename (ρ : Int → Int) (p : Parameter) : Parameter := { p with type := p.type.rename ρ }

@[simp] theorem ids_rename (ρ : Int → Int) (p : Parameter) : (p.rename ρ).ids = p.ids.map ρ :=
  p.type.ids_rename ρ

theorem rename_rename (ρ σ : Int → Int) (p : Parameter) :
    (p.rename ρ).rename σ = p.rename (σ ∘ ρ) := by
  simp [rename, TypeExpr.rename_rename]

theorem rename_of_fixed {ρ : Int → Int} {p : Parameter} (h : ∀ id ∈ p.ids, ρ id = id) :
    p.rename ρ = p := by
  rw [rename, TypeExpr.rename_of_fixed h]

end Parameter

namespace Constructor

def ids (c : Constructor) : List Int := c.parameters.flatMap Parameter.ids

def rename (ρ : Int → Int) (c : Constructor) : Constructor :=
  { c with parameters := c.parameters.map (Parameter.rename ρ) }

@[simp] theorem ids_rename (ρ : Int → Int) (c : Constructor) :
    (c.rename ρ).ids = c.ids.map ρ := by
  simp [ids, rename, List.flatMap_map, List.map_flatMap]

theorem rename_rename (ρ σ : Int → Int) (c : Constructor) :
    (c.rename ρ).rename σ = c.rename (σ ∘ ρ) := by
  simp [rename, Parameter.rename_rename]

theorem rename_of_fixed {ρ : Int → Int} {c : Constructor} (h : ∀ id ∈ c.ids, ρ id = id) :
    c.rename ρ = c := by
  have hparameters : c.parameters.map (Parameter.rename ρ) = c.parameters :=
    (List.map_congr_left fun p hp => Parameter.rename_of_fixed fun id hid =>
      h id (List.mem_flatMap.mpr ⟨p, hp, hid⟩)).trans (List.map_id c.parameters)
  rw [rename, hparameters]

end Constructor

/-! ### Declarations -/

namespace TypeDefinition

def ids (d : TypeDefinition) : List Int := d.constructors.flatMap Constructor.ids

def rename (ρ : Int → Int) (d : TypeDefinition) : TypeDefinition :=
  { d with constructors := d.constructors.map (Constructor.rename ρ) }

/-- Renaming variables leaves names alone, and so the order of the constructors. -/
theorem sortedConstructors_rename (ρ : Int → Int) (d : TypeDefinition) :
    (d.rename ρ).sortedConstructors = d.sortedConstructors.map (Constructor.rename ρ) := by
  unfold sortedConstructors
  rw [List.map_mergeSort]
  · rfl
  · intro c _ c' _
    rfl

end TypeDefinition

def TypeAlias.ids (a : TypeAlias) : List Int := a.aliased.ids

def TypeAlias.rename (ρ : Int → Int) (a : TypeAlias) : TypeAlias :=
  { a with aliased := a.aliased.rename ρ }

namespace Declaration

def ids : Declaration → List Int
  | .definition d => d.ids
  | .typeAlias a => a.ids

def rename (ρ : Int → Int) : Declaration → Declaration
  | .definition d => .definition (d.rename ρ)
  | .typeAlias a => .typeAlias (a.rename ρ)

theorem ids_rename (ρ : Int → Int) (x : Declaration) : (x.rename ρ).ids = x.ids.map ρ := by
  cases x with
  | definition d =>
    simp [ids, rename, TypeDefinition.ids, TypeDefinition.rename, List.flatMap_map,
      List.map_flatMap]
  | typeAlias a => exact a.aliased.ids_rename ρ

theorem rename_rename (ρ σ : Int → Int) (x : Declaration) :
    (x.rename ρ).rename σ = x.rename (σ ∘ ρ) := by
  cases x with
  | definition d => simp [rename, TypeDefinition.rename, Constructor.rename_rename]
  | typeAlias a => simp [rename, TypeAlias.rename, TypeExpr.rename_rename]

theorem rename_of_fixed {ρ : Int → Int} {x : Declaration} (h : ∀ id ∈ x.ids, ρ id = id) :
    x.rename ρ = x := by
  cases x with
  | definition d =>
    have hconstructors : d.constructors.map (Constructor.rename ρ) = d.constructors :=
      (List.map_congr_left fun c hc => Constructor.rename_of_fixed fun id hid =>
        h id (List.mem_flatMap.mpr ⟨c, hc, hid⟩)).trans (List.map_id d.constructors)
    rw [rename, TypeDefinition.rename, hconstructors]
  | typeAlias a => rw [rename, TypeAlias.rename, TypeExpr.rename_of_fixed h]

end Declaration

end ApiConformance
