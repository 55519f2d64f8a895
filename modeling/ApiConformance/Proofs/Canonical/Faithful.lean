import Mathlib.Data.Set.Function
import ApiConformance.Proofs.Canonical.Reading
import ApiConformance.Proofs.Canonical.Renaming

/-!
What a key tells. As long as names leave the marks of keys readable, a key tells
everything that it shows of a declaration but how the variables are called: two
declarations have one key only if some renaming carries the one to the other.
-/
namespace ApiConformance

variable {S : Set Char} {f g : Int → Nat}

/-! ### Parameters and constructors -/

def Parameter.chars (number : Int → Nat) (p : Parameter) : List Char := (p.render number).toList

theorem Parameter.chars_eq (p : Parameter) :
    p.chars f = p.labelText.toList ++ ':' :: p.type.chars f := by
  simp [chars, render, TypeExpr.chars]

def Constructor.chars (number : Int → Nat) (c : Constructor) : List Char :=
  (c.render number).toList

theorem Constructor.chars_eq (c : Constructor) :
    c.chars f = c.name.toList ++ '(' ::
      ([','].intercalate (c.parameters.map (Parameter.chars f)) ++ [')']) := by
  simp [chars, render, joined, Function.comp_def]
  rfl

/-- What may come after a parameter: no other label can be made out in it. -/
structure ClosesParameter (r : List Char) : Prop extends Closes r where
  label : Blocks ':' [] r

/-- What may come after a constructor: nothing, or another one. -/
def Ends (r : List Char) : Prop := ∀ c ∈ r.head?, c = '|'

theorem ClosesParameter.comma (r : List Char) : ClosesParameter (',' :: r) :=
  ⟨Closes.comma r, .cons_stop (by simp) (by decide)⟩

theorem ClosesParameter.paren {r : List Char} (hr : Ends r) : ClosesParameter (')' :: r) := by
  cases r with
  | nil => exact ⟨Closes.nil.paren, .cons (fun h => absurd h (by decide)) .nil⟩
  | cons c r =>
    obtain rfl : c = '|' := hr c rfl
    exact ⟨(Closes.bar r).paren,
      .cons (fun h => absurd h (by decide)) (.cons_stop (by simp) (by decide))⟩

theorem Parameter.rename_eq_of_chars_eq (hS : Legible S) {p q : Parameter}
    (hp : NamesIn S p.names) (hq : NamesIn S q.names) {r s : List Char}
    (hr : ClosesParameter r) (hs : ClosesParameter s) (h : p.chars f ++ r = q.chars g ++ s) :
    (p.rename (f ·)).spelled = (q.rename (g ·)).spelled ∧ r = s := by
  simp only [names, namesIn_cons] at hp hq
  have hlabel {number : Int → Nat} {r : List Char} (hr : ClosesParameter r) (t : TypeExpr)
      (w z : List Char) (hw : ∀ c ∈ ':' :: [] ++ w, c ∈ S) :
      t.chars number ++ r ≠ w ++ ':' :: ([] ++ z) := by
    rw [List.cons_append, List.nil_append, List.forall_mem_cons] at hw
    have hcomma : ',' ∉ S := hS.label.resolve_right (not_not_intro hw.1)
    exact hr.label.chars_append (by simp) t w z (hS.disjoint hcomma hw.2)
  rw [chars_eq, chars_eq, List.append_assoc, List.append_assoc] at h
  obtain ⟨hlabels, h⟩ := eq_of_append_mark_eq (by simp) hp.1 hq.1 (hlabel hr p.type)
    (hlabel hs q.type) h
  obtain ⟨htypes, hrest⟩ :=
    TypeExpr.rename_eq_of_chars_eq hS hp.2 hq.2 hr.toCloses hs.toCloses h
  rw [String.toList_inj] at hlabels
  refine ⟨?_, hrest⟩
  unfold spelled rename
  rw [htypes]
  exact congrArg (fun label => Parameter.mk (some label) _) hlabels

theorem Parameter.chars_ne_paren (hS : Legible S) {p : Parameter} (hp : NamesIn S p.names)
    {r : List Char} (hr : Ends r) (z : List Char) : ')' :: r ≠ p.chars f ++ z := by
  intro h
  rw [chars_eq, List.append_assoc] at h
  cases r with
  | nil =>
    obtain ⟨w, -, hw⟩ := eq_append_of_notMem (a := [')']) (r := []) (by decide) h
    simp at hw
  | cons c r =>
    obtain rfl : c = '|' := hr c rfl
    obtain ⟨w, hw, -⟩ := eq_append_of_notMem (a := [')', '|']) (by decide) h
    exact hS.bar ((namesIn_cons.mp hp).1 '|' (by simp [hw]))

theorem Constructor.rename_eq_of_chars_eq (hS : Legible S) {c d : Constructor}
    (hc : NamesIn S c.names) (hd : NamesIn S d.names) {r s : List Char}
    (hr : Ends r) (hs : Ends s) (h : c.chars f ++ r = d.chars g ++ s) :
    (c.rename (f ·)).spelled = (d.rename (g ·)).spelled ∧ r = s := by
  simp only [names, namesIn_cons, namesIn_flatMap] at hc hd
  rw [chars_eq, chars_eq] at h
  simp only [List.append_assoc, List.cons_append, List.nil_append] at h
  obtain ⟨hnames, h⟩ := eq_of_append_cons_eq hS.paren hc.1 hd.1 h
  obtain ⟨hmap, hrest⟩ := map_eq_of_intercalate_eq
    (fun p hp q hq r s => Parameter.rename_eq_of_chars_eq hS (hc.2 p hp) (hd.2 q hq))
    ClosesParameter.comma (.paren hr) (.paren hs) (by simp) (by simp)
    (fun q hq => Parameter.chars_ne_paren hS (hd.2 q hq) hr)
    (fun p hp => Parameter.chars_ne_paren hS (hc.2 p hp) hs) h
  rw [String.toList_inj] at hnames
  refine ⟨?_, (List.cons.inj hrest).2⟩
  unfold spelled rename
  rw [List.map_map, List.map_map, hnames]
  exact congrArg (Constructor.mk _) hmap

theorem Constructor.map_rename_eq_of_chars_eq (hS : Legible S) {cs ds : List Constructor}
    (hcs : ∀ c ∈ cs, NamesIn S c.names) (hds : ∀ d ∈ ds, NamesIn S d.names)
    (h : ['|'].intercalate (cs.map (chars f)) = ['|'].intercalate (ds.map (chars g))) :
    cs.map (fun c => (c.rename (f ·)).spelled) = ds.map (fun d => (d.rename (g ·)).spelled) := by
  have hread (c : Constructor) (hc : c ∈ cs) (d : Constructor) (hd : d ∈ ds)
      (r s : List Char) (hr : Ends r) (hs : Ends s) (h : c.chars f ++ r = d.chars g ++ s) :=
    rename_eq_of_chars_eq hS (hcs c hc) (hds d hd) hr hs h
  have hbar (r : List Char) : Ends ('|' :: r) := by simp [Ends]
  have hends : Ends [] := by simp [Ends]
  have hnonempty {number : Int → Nat} (c : Constructor) (z : List Char) :
      [] ≠ c.chars number ++ z := by
    simp [chars_eq]
  have hmap := map_eq_of_intercalate_eq hread hbar hends hends (by simp) (by simp)
    (fun d _ => hnonempty d) (fun c _ => hnonempty c) (by rw [h])
  exact hmap.1

/-! ### Declarations -/

theorem Text.integer_eq_of_append {m n : Int} {r s : List Char}
    (h : (integer m).toList ++ ')' :: r = (integer n).toList ++ ')' :: s) : m = n ∧ r = s := by
  obtain ⟨hintegers, hrest⟩ := eq_of_append_eq_of_all (fun _ hc => mem_integer hc)
    (fun _ hc => mem_integer hc) (by simp) (by simp) h
  exact ⟨integer_inj (String.toList_inj.mp hintegers), (List.cons.inj hrest).2⟩

theorem TypeDefinition.mem_sortedConstructors (d : TypeDefinition) {c : Constructor} :
    c ∈ d.sortedConstructors ↔ c ∈ d.constructors :=
  List.mem_mergeSort

theorem TypeDefinition.toList_render_shown (d : TypeDefinition) :
    ((Declaration.definition d).shown.render f).toList = "type(".toList ++
      ((Text.integer d.arity).toList ++
        ')' :: ':' :: ['|'].intercalate (d.sortedConstructors.map (Constructor.chars f))) := by
  simp [Declaration.shown, Declaration.render, joined, Function.comp_def,
    Constructor.render_spelled]
  rfl

theorem TypeAlias.toList_render_shown (a : TypeAlias) :
    ((Declaration.typeAlias a).shown.render f).toList = "alias(".toList ++
      ((Text.integer a.arity).toList ++ ')' :: ':' :: a.aliased.chars f) := by
  simp [Declaration.shown, Declaration.render, TypeExpr.chars]

/-- A declaration is read back from its text, up to the numbers of its variables. -/
theorem Declaration.rename_shown_eq_of_render_eq (hS : Legible S) {x y : Declaration}
    (hx : NamesIn S x.names) (hy : NamesIn S y.names) (h : x.shown.render f = y.shown.render g) :
    x.shown.rename (f ·) = y.shown.rename (g ·) := by
  rw [← String.toList_inj] at h
  rw [← shown_rename, ← shown_rename]
  cases x with
  | definition d =>
    cases y with
    | definition e =>
      simp only [names, namesIn_flatMap] at hx hy
      rw [TypeDefinition.toList_render_shown, TypeDefinition.toList_render_shown] at h
      obtain ⟨harity, h⟩ := Text.integer_eq_of_append (List.append_cancel_left h)
      have hconstructors := Constructor.map_rename_eq_of_chars_eq hS
        (fun c hc => hx c (d.mem_sortedConstructors.mp hc))
        (fun c hc => hy c (e.mem_sortedConstructors.mp hc)) (List.cons.inj h).2
      simp only [rename, shown, TypeDefinition.sortedConstructors_rename, List.map_map,
        Function.comp_def, hconstructors]
      simp only [TypeDefinition.rename, harity]
    | typeAlias b =>
      rw [TypeDefinition.toList_render_shown, TypeAlias.toList_render_shown] at h
      simp at h
  | typeAlias a =>
    cases y with
    | definition e =>
      rw [TypeDefinition.toList_render_shown, TypeAlias.toList_render_shown] at h
      simp at h
    | typeAlias b =>
      rw [TypeAlias.toList_render_shown, TypeAlias.toList_render_shown] at h
      obtain ⟨harity, h⟩ := Text.integer_eq_of_append (List.append_cancel_left h)
      obtain ⟨haliased, -⟩ := TypeExpr.rename_eq_of_chars_eq (r := []) (s := []) hS hx hy .nil .nil
        (by simpa using h)
      simp only [rename, shown, TypeAlias.rename, harity, haliased]

/-! ### Renamings between declarations -/

/-- A renaming carries one declaration to another: they are of one kind and arity, and it turns
the aliased type of one into that of the other, or the constructors of one, in the order of
their names and with labels written out, into those of the other, one by one. -/
inductive Declaration.Carries (ρ : Int → Int) : Declaration → Declaration → Prop where
  | definition {d e : TypeDefinition} (arity : d.arity = e.arity)
      (constructors : d.sortedConstructors.map (fun c => (c.rename ρ).spelled) =
        e.sortedConstructors.map Constructor.spelled) : Carries ρ (.definition d) (.definition e)
  | typeAlias {a b : TypeAlias} (arity : a.arity = b.arity)
      (aliased : a.aliased.rename ρ = b.aliased) : Carries ρ (.typeAlias a) (.typeAlias b)

namespace Declaration

theorem carries_iff {ρ : Int → Int} {x y : Declaration} :
    x.Carries ρ y ↔ y.shown = x.shown.rename ρ := by
  have hconstructors (d : TypeDefinition) :
      (d.sortedConstructors.map Constructor.spelled).map (Constructor.rename ρ) =
        d.sortedConstructors.map fun c => (c.rename ρ).spelled := by
    rw [List.map_map]
    exact List.map_congr_left fun c _ => (c.spelled_rename ρ).symm
  constructor
  · intro h
    cases h with
    | definition arity constructors =>
      simp only [shown, rename, TypeDefinition.rename, hconstructors, arity, constructors]
    | typeAlias arity aliased => simp only [shown, rename, TypeAlias.rename, arity, aliased]
  · intro h
    cases x with
    | definition d =>
      cases y with
      | definition e =>
        simp only [shown, rename, TypeDefinition.rename, hconstructors, definition.injEq,
          TypeDefinition.mk.injEq] at h
        exact .definition h.1.symm h.2.1.symm
      | typeAlias b => simp [shown, rename] at h
    | typeAlias a =>
      cases y with
      | definition e => simp [shown, rename] at h
      | typeAlias b =>
        simp only [shown, rename, typeAlias.injEq] at h
        exact .typeAlias (congrArg TypeAlias.arity h).symm (congrArg TypeAlias.aliased h).symm

/-- If variables can be renamed in two declarations so that these become one, each time
different variables to different ones, then they can be renamed from one into the other. -/
theorem exists_bijOn_of_rename_eq {x y : Declaration} {ρ σ : Int → Int}
    (hρ : Set.InjOn ρ {id | id ∈ x.ids}) (hσ : Set.InjOn σ {id | id ∈ y.ids})
    (h : x.rename ρ = y.rename σ) :
    ∃ τ, Set.BijOn τ {id | id ∈ x.ids} {id | id ∈ y.ids} ∧ y = x.rename τ := by
  let back := Function.invFunOn σ {id | id ∈ y.ids}
  have hback : ∀ id ∈ y.ids, back (σ id) = id := fun id hid => hσ.leftInvOn_invFunOn hid
  have hids : x.ids.map ρ = y.ids.map σ := by rw [← ids_rename, ← ids_rename, h]
  have hrename : y = x.rename (back ∘ ρ) := by
    have hfixed : y.rename (back ∘ σ) = y := rename_of_fixed hback
    rw [← rename_rename, h, rename_rename, hfixed]
  refine ⟨back ∘ ρ, ⟨?_, ?_, ?_⟩, hrename⟩
  · intro id hid
    change back (ρ id) ∈ y.ids
    rw [hrename, ids_rename]
    exact List.mem_map_of_mem hid
  · intro id hid id' hid' heq
    have hforth (id : Int) (hid : id ∈ x.ids) : σ (back (ρ id)) = ρ id := by
      have hmem : ρ id ∈ y.ids.map σ := hids ▸ List.mem_map_of_mem hid
      obtain ⟨id', hid', hσ'⟩ := List.mem_map.mp hmem
      rw [← hσ', hback id' hid']
    apply hρ hid hid'
    rw [← hforth id hid, ← hforth id' hid']
    exact congrArg σ heq
  · intro id hid
    change id ∈ y.ids at hid
    rw [hrename, ids_rename] at hid
    exact List.mem_map.mp hid

theorem number_cast_injOn (x : Declaration) :
    Set.InjOn (fun id => (x.number id : Int)) {id | id ∈ x.shown.ids} := by
  intro id hid id' hid' h
  exact x.number_injOn hid hid' (Int.ofNat.inj h)

/-- Declarations with legible names have one key only if a renaming carries one to the other. -/
theorem exists_carries_of_key_eq (hS : Legible S) {x y : Declaration}
    (hx : NamesIn S x.names) (hy : NamesIn S y.names) (h : x.key = y.key) :
    ∃ ρ, Set.BijOn ρ {id | id ∈ x.ids} {id | id ∈ y.ids} ∧ x.Carries ρ y := by
  rw [key_eq_render, key_eq_render] at h
  have hrename := rename_shown_eq_of_render_eq hS hx hy h
  obtain ⟨ρ, hρ, hshown⟩ :=
    exists_bijOn_of_rename_eq x.number_cast_injOn y.number_cast_injOn hrename
  simp only [mem_ids_shown] at hρ
  exact ⟨ρ, hρ, carries_iff.mpr hshown⟩

end Declaration

/-- The marks that keys put between names. -/
def marks : List Char := ['|', ',', '(', ')', '<', '>', ':']

theorem legible_of_marks_notMem : Legible {c | c ∉ marks} := by
  constructor <;> simp [marks]

/-- Of declarations in whose names no mark occurs, those have one key that a renaming of the
variables carries to each other; so the key tells which places share a variable. -/
theorem Declaration.key_eq_iff_carries {x y : Declaration}
    (hx : NamesIn {c | c ∉ marks} x.names) (hy : NamesIn {c | c ∉ marks} y.names) :
    (x.key = y.key ↔
      ∃ ρ, Set.BijOn ρ {id | id ∈ x.ids} {id | id ∈ y.ids} ∧ x.Carries ρ y) ∧
    ∀ i j : Nat, ¬(x.shown.ids[i]? = x.shown.ids[j]? ↔ y.shown.ids[i]? = y.shown.ids[j]?) →
      x.key ≠ y.key := by
  have hcarries : x.key = y.key ↔
      ∃ ρ, Set.BijOn ρ {id | id ∈ x.ids} {id | id ∈ y.ids} ∧ x.Carries ρ y := by
    constructor
    · exact exists_carries_of_key_eq legible_of_marks_notMem hx hy
    · rintro ⟨ρ, hρ, hxy⟩
      exact (key_eq_of_shown_eq hρ.injOn (carries_iff.mp hxy)).symm
  refine ⟨hcarries, fun i j hshare hkey => hshare ?_⟩
  obtain ⟨ρ, hρ, hxy⟩ := hcarries.mp hkey
  have hinj : Set.InjOn ρ {id | id ∈ x.shown.ids} := by
    simpa only [mem_ids_shown] using hρ.injOn
  rw [carries_iff.mp hxy, ids_rename, List.getElem?_map, List.getElem?_map]
  constructor
  · exact congrArg (Option.map ρ)
  · cases hi : x.shown.ids[i]? <;> cases hj : x.shown.ids[j]?
    case some.some a b =>
      intro hab
      rw [hinj (List.mem_of_getElem? hi) (List.mem_of_getElem? hj) (Option.some.inj hab)]
    all_goals simp

/-- What an attempt comes to: where it stopped, or else a value. -/
def attempt (place value : Int) : TypeDefinition :=
  ⟨2, [⟨"Failed", [⟨some "at", .named "core" "core/option" "Option" [.variable place]⟩]⟩,
    ⟨"Reached", [⟨none, .variable value⟩]⟩], false⟩

theorem sortedConstructors_attempt (place value : Int) :
    (attempt place value).sortedConstructors = (attempt place value).constructors :=
  List.mergeSort_of_pairwise (by simp [attempt])

theorem namesIn_attempt (place value : Int) :
    NamesIn {c | c ∉ marks} (Declaration.definition (attempt place value)).names := by
  simp [NamesIn, attempt, Declaration.names, Constructor.names, Parameter.names, TypeExpr.names,
    Parameter.labelText, unlabeled, marks]

theorem attempt_key_eq_and_ne :
    NamesIn {c | c ∉ marks} (Declaration.definition (attempt 8 3)).names ∧
    NamesIn {c | c ∉ marks} (Declaration.definition (attempt 5 0)).names ∧
    NamesIn {c | c ∉ marks} (Declaration.definition (attempt 5 5)).names ∧
    (Declaration.definition (attempt 8 3)).key = (Declaration.definition (attempt 5 0)).key ∧
    (Declaration.definition (attempt 8 3)).key ≠ (Declaration.definition (attempt 5 5)).key := by
  have hids (place value : Int) :
      {id | id ∈ (Declaration.definition (attempt place value)).ids} = {place, value} := by
    ext id
    change id ∈ [place, value] ↔ id = place ∨ id = value
    simp
  refine ⟨namesIn_attempt 8 3, namesIn_attempt 5 0, namesIn_attempt 5 5, ?_, ?_⟩
  · refine (Declaration.key_eq_iff_carries (namesIn_attempt 8 3) (namesIn_attempt 5 0)).1.mpr
      ⟨(· - 3), ?_, ?_⟩
    · rw [hids, hids]
      refine ⟨?_, ?_, ?_⟩
      · rintro id (rfl | rfl) <;> simp
      · intro a _ b _ h
        exact (Int.sub_left_inj 3).mp h
      · rintro id (rfl | rfl) <;> simp
    · refine .definition rfl ?_
      rw [sortedConstructors_attempt, sortedConstructors_attempt]
      rfl
  · apply (Declaration.key_eq_iff_carries (namesIn_attempt 8 3) (namesIn_attempt 5 5)).2 0 1
    rw [Declaration.shown, Declaration.shown, sortedConstructors_attempt,
      sortedConstructors_attempt]
    decide

end ApiConformance
