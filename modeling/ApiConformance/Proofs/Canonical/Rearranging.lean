import ApiConformance.Proofs.Canonical.Renaming
import ApiConformance.Proofs.Sorting

/-!
The order in which a type declares its constructors does not show in its key. They are
sorted before any variable is numbered, and stably, so only constructors of one name have
an order that matters.
-/
namespace ApiConformance

namespace TypeDefinition

/-- The same type with its constructors at rearranged places. -/
def arranged (d : TypeDefinition) (σ : Equiv.Perm (Fin d.constructors.length)) : TypeDefinition :=
  { d with constructors := Sorting.rearranged d.constructors σ }

/-- Constructors of one name come in the order in which they are declared. -/
def KeepsNamesakes (d : TypeDefinition) (σ : Equiv.Perm (Fin d.constructors.length)) : Prop :=
  ∀ i j, i < j → (d.constructors.get (σ i)).name = (d.constructors.get (σ j)).name → σ i < σ j

instance (d : TypeDefinition) (σ : Equiv.Perm (Fin d.constructors.length)) :
    Decidable (d.KeepsNamesakes σ) :=
  inferInstanceAs (Decidable (∀ i j, i < j →
    (d.constructors.get (σ i)).name = (d.constructors.get (σ j)).name → σ i < σ j))

theorem keepsNamesakes_of_nodup {d : TypeDefinition}
    (h : (d.constructors.map Constructor.name).Nodup)
    (σ : Equiv.Perm (Fin d.constructors.length)) : d.KeepsNamesakes σ := by
  intro i j hij hname
  have hplaces : σ i = σ j := by
    apply Fin.ext
    apply (List.Nodup.getElem_inj_iff h).mp
    · simpa using hname
    · simp
    · simp
  exact absurd (σ.injective hplaces) hij.ne

theorem sortedConstructors_arranged {d : TypeDefinition}
    {σ : Equiv.Perm (Fin d.constructors.length)} (h : d.KeepsNamesakes σ) :
    (d.arranged σ).sortedConstructors = d.sortedConstructors := by
  refine Sorting.mergeSort_eq_of_filter_eq (Sorting.trans_of_names Constructor.name)
    (Sorting.total_of_names Constructor.name) fun c => ?_
  refine Sorting.filter_rearranged fun i j hij hi hj => h i j hij ?_
  simp only [Sorting.alike, Bool.and_eq_true, decide_eq_true_eq] at hi hj
  exact le_antisymm (hi.2.trans hj.1) (hj.2.trans hi.1)

theorem mem_ids_arranged {d : TypeDefinition} {σ : Equiv.Perm (Fin d.constructors.length)}
    {id : Int} : id ∈ (d.arranged σ).ids ↔ id ∈ d.ids :=
  ((Sorting.rearranged_perm d.constructors σ).flatMap_right Constructor.ids).mem_iff

/-! ### The numbers of variables -/

/-- The numbering that is left when all constructors have their keys. -/
def numbering (d : TypeDefinition) : Numbering :=
  (keysWith Constructor.key d.sortedConstructors .empty).2

theorem numbering_eq_meet (d : TypeDefinition) :
    d.numbering = Numbering.empty.meet (d.sortedConstructors.flatMap Constructor.ids) := by
  rw [numbering, Constructor.keysWith_eq_map_render]

theorem numbering_rename {d : TypeDefinition} {ρ : Int → Int}
    (hρ : Set.InjOn ρ {id | id ∈ d.ids}) : (d.rename ρ).numbering = d.numbering.rename ρ := by
  have hids : (d.rename ρ).sortedConstructors.flatMap Constructor.ids =
      (d.sortedConstructors.flatMap Constructor.ids).map ρ := by
    simp [sortedConstructors_rename, List.flatMap_map, List.map_flatMap]
  have hempty : Numbering.empty.Within {id | id ∈ d.ids} := fun entry h => nomatch h
  rw [numbering_eq_meet, numbering_eq_meet, hids]
  refine Numbering.meet_rename hρ hempty fun id hid => ?_
  simpa [sortedConstructors, ids] using hid

/-- A type keeps its key, and its variables keep their numbers, when its constructors are declared
in another order that keeps those of one name in theirs, also when its variables are renamed; and
constructors of different names may come in any order. -/
theorem key_arranged (d : TypeDefinition) :
    (∀ σ, d.KeepsNamesakes σ →
      (d.arranged σ).key = d.key ∧ (d.arranged σ).numbering = d.numbering ∧
      ∀ ρ, Set.InjOn ρ {id | id ∈ d.ids} →
        ((d.arranged σ).rename ρ).key = d.key ∧
        ((d.arranged σ).rename ρ).numbering = d.numbering.rename ρ) ∧
    ((d.constructors.map Constructor.name).Nodup → ∀ σ, d.KeepsNamesakes σ) := by
  refine ⟨fun σ hσ => ?_, keepsNamesakes_of_nodup⟩
  have hsorted := sortedConstructors_arranged hσ
  have hkey : (d.arranged σ).key = d.key := by
    rw [key, key, hsorted]
    rfl
  have hnumbering : (d.arranged σ).numbering = d.numbering := by
    rw [numbering, numbering, hsorted]
  refine ⟨hkey, hnumbering, fun ρ hρ => ?_⟩
  have hρ' : Set.InjOn ρ {id | id ∈ (d.arranged σ).ids} := hρ.mono fun _ => mem_ids_arranged.mp
  constructor
  · exact (Declaration.key_rename (x := .definition (d.arranged σ)) hρ').trans hkey
  · rw [numbering_rename hρ', hnumbering]

end TypeDefinition

/-- Readings of an instrument, alone or summed up; the constructor for those alone is declared
twice. -/
def reading : TypeDefinition :=
  ⟨2, [⟨"Sole", [⟨some "at", .variable 4⟩]⟩,
    ⟨"Mean", [⟨some "of", .variable 2⟩, ⟨none, .variable 4⟩]⟩,
    ⟨"Sole", [⟨none, .variable 2⟩]⟩], false⟩

def meanFirst : Equiv.Perm (Fin reading.constructors.length) :=
  (Equiv.swap 0 1 : Equiv.Perm (Fin 3))

def stepFirst : Equiv.Perm (Fin (chainType 1).constructors.length) :=
  (Equiv.swap 0 1 : Equiv.Perm (Fin 2))

/-- A constructor goes to the front, past one of two namesakes, and the key and the numbers stay. -/
theorem reading_meanFirst :
    reading.KeepsNamesakes meanFirst ∧ reading.arranged meanFirst ≠ reading ∧
    (reading.arranged meanFirst).key = reading.key ∧
    (reading.arranged meanFirst).numbering = reading.numbering ∧
    Set.InjOn (· + 7) {id | id ∈ reading.ids} ∧
    ((reading.arranged meanFirst).rename (· + 7)).key = reading.key ∧
    ((chainType 1).constructors.map Constructor.name).Nodup ∧
    (chainType 1).KeepsNamesakes stepFirst := by
  have hkeeps : reading.KeepsNamesakes meanFirst := by decide
  have hshift : Set.InjOn (· + 7) {id | id ∈ reading.ids} := fun _ _ _ _ h =>
    (Int.add_left_inj 7).mp h
  obtain ⟨hkey, hnumbering, hrenamed⟩ := reading.key_arranged.1 meanFirst hkeeps
  have hnames : ((chainType 1).constructors.map Constructor.name).Nodup := by decide
  exact ⟨hkeeps, by decide, hkey, hnumbering, hshift, (hrenamed _ hshift).1, hnames,
    (chainType 1).key_arranged.2 hnames stepFirst⟩

end ApiConformance
