import ApiConformance.Proofs.Canonical.Faithful
import ApiConformance.Proofs.Verify.Calls

/-!
What it means that a shared type is accepted. A rule compares keys, so it accepts only
types of equal structure exactly if names are written in characters that leave the marks
of keys readable; with other characters, types of different structure can have one key.
-/
namespace ApiConformance

/-! ### Equal structure -/

/-- Up to a renaming of variables, the same kind and arity and the same aliased type, or the
same constructors in any order; an absent label is the same as the one that stands for it. -/
inductive Declaration.Matches (ρ : Int → Int) : Declaration → Declaration → Prop where
  | definition {d e : TypeDefinition} (arity : d.arity = e.arity)
      (constructors : (d.constructors.map fun c => (c.rename ρ).spelled).Perm
        (e.constructors.map Constructor.spelled)) : Matches ρ (.definition d) (.definition e)
  | typeAlias {a b : TypeAlias} (arity : a.arity = b.arity)
      (aliased : a.aliased.rename ρ = b.aliased) : Matches ρ (.typeAlias a) (.typeAlias b)

def Declaration.StructurallyEqual (x y : Declaration) : Prop :=
  ∃ ρ, Set.BijOn ρ {id | id ∈ x.ids} {id | id ∈ y.ids} ∧ x.Matches ρ y

theorem TypeDefinition.sortedConstructors_perm (d : TypeDefinition) :
    d.sortedConstructors.Perm d.constructors :=
  List.mergeSort_perm d.constructors _

theorem Declaration.Carries.matches {ρ : Int → Int} {x y : Declaration} (h : x.Carries ρ y) :
    x.Matches ρ y := by
  cases h with
  | @definition d e arity constructors =>
    refine .definition arity (.trans (d.sortedConstructors_perm.symm.map _) ?_)
    rw [constructors]
    exact e.sortedConstructors_perm.map _
  | typeAlias arity aliased => exact .typeAlias arity aliased

/-! ### Accepted names -/

/-- The type name that a report is about. -/
def Violation.typeName? : Violation → Option String
  | .missingType _ name => some name
  | .typeMismatch _ _ name _ => some name
  | _ => none

theorem SharedTypes.typeName?_of_mem_checkName {r : SharedTypes} {a b : Module} {name : String}
    {v : Violation} (h : v ∈ r.checkName a b name) : v.typeName? = some name := by
  rcases mem_checkName.mp h with ⟨-, rfl⟩ | ⟨-, rfl⟩ | ⟨x, y, -, -, -, rfl⟩ <;> rfl

/-- The rule finds nothing wrong with a name. -/
def SharedTypes.Accepts (r : SharedTypes) (i : Interface) (name : String) : Prop :=
  ∀ v ∈ r.check i, v.typeName? ≠ some name

theorem SharedTypes.accepts_iff_key_eq {r : SharedTypes} {i : Interface} {a b : Module}
    {name : String} {x y : Declaration} (ha : i.modules.get? r.moduleA = some a)
    (hb : i.modules.get? r.moduleB = some b) (hname : name ∈ r.names)
    (hx : a.Resolves name x) (hy : b.Resolves name y) : r.Accepts i name ↔ x.key = y.key := by
  unfold Accepts
  constructor
  · intro haccepts
    by_contra hkey
    have hreported : .typeMismatch r.moduleA r.moduleB name (x.mismatchReason y) ∈ r.check i :=
      (mem_check ha hb).mpr
        ⟨name, hname, mem_checkName.mpr (.inr (.inr ⟨x, y, hx, hy, hkey, rfl⟩))⟩
    exact haccepts _ hreported rfl
  · intro hkey v hv htype
    obtain ⟨other, -, hv⟩ := (mem_check ha hb).mp hv
    obtain rfl : other = name :=
      Option.some.inj ((typeName?_of_mem_checkName hv).symm.trans htype)
    rw [← Module.declaration?_eq_some] at hx hy
    rw [checkName_eq_nil.mpr ⟨x, hx, y, hy, hkey⟩] at hv
    cases hv

/-! ### Keys that mislead -/

/-- A module with nothing but one declaration, under the name `T`. -/
def Declaration.alone : Declaration → Module
  | .definition d => ⟨.empty, .ofList [("T", d)], .empty⟩
  | .typeAlias a => ⟨.empty, .empty, .ofList [("T", a)]⟩

theorem Declaration.resolves_alone (x : Declaration) : x.alone.Resolves "T" x := by
  cases x with
  | definition d => exact .definition rfl
  | typeAlias a => exact .typeAlias rfl rfl

def sideBySide (x y : Declaration) : Interface :=
  ⟨"sides", none, .ofList [("left", x.alone), ("right", y.alone)]⟩

def sidesShared : SharedTypes := ⟨"left", "right", ["T"]⟩

/-- The declaration of a type with one constructor. -/
def Constructor.only (c : Constructor) : Declaration := .definition ⟨0, [c], false⟩

theorem Constructor.key_only (c : Constructor) : c.only.key = "type(0):" ++ (c.key .empty).1 := by
  rw [only, Declaration.key, TypeDefinition.key, TypeDefinition.sortedConstructors,
    List.mergeSort_singleton]
  rfl

theorem Constructor.exists_rename_of_only {c d : Constructor}
    (h : c.only.StructurallyEqual d.only) : ∃ ρ, (c.rename ρ).spelled = d.spelled := by
  obtain ⟨ρ, -, h⟩ := h
  cases h with
  | definition _ constructors => exact ⟨ρ, by simpa using constructors⟩

/-- Under one key, two declarations of different structure. -/
def Misleads (x y : Declaration) : Prop := x.key = y.key ∧ ¬ x.StructurallyEqual y

def namedAlias (package module name : String) : Declaration :=
  .typeAlias ⟨0, .named package module name []⟩

theorem bar_misleads : Misleads (namedAlias "|" "" "") (namedAlias "" "|" "") := by
  refine ⟨by decide, fun ⟨ρ, _, h⟩ => ?_⟩
  cases h with
  | typeAlias _ aliased => simp [TypeExpr.rename] at aliased

theorem paren_misleads :
    Misleads (Constructor.mk "(" [⟨some "", .variable 0⟩]).only
      (Constructor.mk "" [⟨some "(", .variable 0⟩]).only := by
  refine ⟨by rw [Constructor.key_only, Constructor.key_only]; decide, fun h => ?_⟩
  obtain ⟨ρ, hρ⟩ := Constructor.exists_rename_of_only h
  simp [Constructor.spelled, Constructor.rename] at hρ

theorem comma_colon_misleads :
    Misleads (Constructor.mk "" [⟨some ":v0,", .variable 0⟩]).only
      (Constructor.mk "" [⟨some "", .variable 0⟩, ⟨some "", .variable 0⟩]).only := by
  refine ⟨by rw [Constructor.key_only, Constructor.key_only]; decide, fun h => ?_⟩
  obtain ⟨ρ, hρ⟩ := Constructor.exists_rename_of_only h
  simp [Constructor.spelled, Constructor.rename] at hρ

theorem comma_bracket_misleads :
    Misleads
      (Constructor.mk "" [⟨some "", .named "" "" ")<>," []⟩, ⟨some "", .variable 0⟩]).only
      (Constructor.mk "" [⟨some "", .named "" "" "" []⟩, ⟨some ")<>,", .variable 0⟩]).only := by
  refine ⟨by rw [Constructor.key_only, Constructor.key_only]; decide, fun h => ?_⟩
  obtain ⟨ρ, hρ⟩ := Constructor.exists_rename_of_only h
  simp [Constructor.spelled, Constructor.rename, Parameter.spelled, Parameter.rename,
    TypeExpr.rename] at hρ

/-- Over names in some characters, rules accept only types of equal structure, whatever the
interface and the rule. -/
def AcceptsOnlyEqual (S : Set Char) : Prop :=
  ∀ (i : Interface) (r : SharedTypes) (a b : Module) (name : String) (x y : Declaration),
    i.modules.get? r.moduleA = some a → i.modules.get? r.moduleB = some b →
    name ∈ r.names → a.Resolves name x → b.Resolves name y →
    NamesIn S x.names → NamesIn S y.names → r.Accepts i name → x.StructurallyEqual y

theorem AcceptsOnlyEqual.not_misleads {S : Set Char} (h : AcceptsOnlyEqual S) {x y : Declaration}
    (hx : NamesIn S x.names) (hy : NamesIn S y.names) : ¬ Misleads x y := by
  rintro ⟨hkey, hdiffer⟩
  have haccepts : sidesShared.Accepts (sideBySide x y) "T" :=
    (SharedTypes.accepts_iff_key_eq rfl rfl (.head _) x.resolves_alone y.resolves_alone).mpr hkey
  exact hdiffer (h (sideBySide x y) sidesShared x.alone y.alone "T" x y rfl rfl (.head _)
    x.resolves_alone y.resolves_alone hx hy haccepts)

/-- Rules accept only types of equal structure if the characters of names leave the marks of
keys readable; and only then, as long as names may have letters and digits. -/
theorem acceptsOnlyEqual_iff_legible {S : Set Char} :
    (Legible S → AcceptsOnlyEqual S) ∧
    ((∀ c : Char, c.isAlphanum → c ∈ S) → (AcceptsOnlyEqual S ↔ Legible S)) := by
  have sound (hlegible : Legible S) : AcceptsOnlyEqual S := by
    intro i r a b name x y ha hb hname hx hy hxS hyS haccepts
    have hkey := (SharedTypes.accepts_iff_key_eq ha hb hname hx hy).mp haccepts
    obtain ⟨ρ, hρ, hcarries⟩ := Declaration.exists_carries_of_key_eq hlegible hxS hyS hkey
    exact ⟨ρ, hρ, hcarries.matches⟩
  refine ⟨sound, fun hS => ⟨fun h => ?_, sound⟩⟩
  have hv : 'v' ∈ S := hS 'v' (by decide)
  have hzero : '0' ∈ S := hS '0' (by decide)
  constructor
  · intro hbar
    refine h.not_misleads ?_ ?_ bar_misleads
    all_goals simp [namedAlias, Declaration.names, TypeExpr.names, NamesIn, hbar]
  · intro hparen
    refine h.not_misleads ?_ ?_ paren_misleads
    all_goals
      simp [Constructor.only, Declaration.names, Constructor.names, Parameter.names,
        Parameter.labelText, TypeExpr.names, NamesIn, hparen]
  · by_contra hmarks
    simp only [not_or, not_not] at hmarks
    refine h.not_misleads ?_ ?_ comma_colon_misleads
    all_goals
      simp [Constructor.only, Declaration.names, Constructor.names, Parameter.names,
        Parameter.labelText, TypeExpr.names, NamesIn, hmarks, hv, hzero]
  · by_contra hmarks
    simp only [not_or, not_not] at hmarks
    refine h.not_misleads ?_ ?_ comma_bracket_misleads
    all_goals
      simp [Constructor.only, Declaration.names, Constructor.names, Parameter.names,
        Parameter.labelText, TypeExpr.names, NamesIn, hmarks]

/-- Without marks in names two attempts are accepted because they are equal; with names that may
have any characters, acceptance says nothing. -/
theorem attempts_accepted :
    Legible {c | c ∉ marks} ∧
    NamesIn {c | c ∉ marks} (Declaration.definition (attempt 8 3)).names ∧
    NamesIn {c | c ∉ marks} (Declaration.definition (attempt 5 0)).names ∧
    sidesShared.Accepts
      (sideBySide (.definition (attempt 8 3)) (.definition (attempt 5 0))) "T" ∧
    (Declaration.definition (attempt 8 3)).StructurallyEqual (.definition (attempt 5 0)) ∧
    (∀ c : Char, c.isAlphanum → c ∈ Set.univ) ∧ ¬ AcceptsOnlyEqual Set.univ := by
  have hkey : (Declaration.definition (attempt 8 3)).key =
      (Declaration.definition (attempt 5 0)).key := by
    rw [Declaration.key, Declaration.key, TypeDefinition.key, TypeDefinition.key,
      sortedConstructors_attempt, sortedConstructors_attempt]
    decide
  have haccepts : sidesShared.Accepts
      (sideBySide (.definition (attempt 8 3)) (.definition (attempt 5 0))) "T" :=
    (SharedTypes.accepts_iff_key_eq rfl rfl (.head _) (Declaration.resolves_alone _)
      (Declaration.resolves_alone _)).mpr hkey
  have hequal := acceptsOnlyEqual_iff_legible.1 legible_of_marks_notMem _ sidesShared _ _ "T" _ _
    rfl rfl (.head _) (Declaration.resolves_alone _) (Declaration.resolves_alone _)
    (namesIn_attempt 8 3) (namesIn_attempt 5 0) haccepts
  have hany : ∀ c : Char, c.isAlphanum → c ∈ Set.univ := fun _ _ => trivial
  have hnot : ¬ AcceptsOnlyEqual Set.univ := by
    intro h
    exact ((acceptsOnlyEqual_iff_legible.2 hany).mp h).bar trivial
  exact ⟨legible_of_marks_notMem, namesIn_attempt 8 3, namesIn_attempt 5 0, haccepts, hequal, hany,
    hnot⟩

/-- A bar in the name of a package is taken for one between a package and a module. -/
theorem different_packages_accepted :
    (namedAlias "core|text" "main" "Rope").alone.Resolves "T"
      (namedAlias "core|text" "main" "Rope") ∧
    (namedAlias "core" "text|main" "Rope").alone.Resolves "T"
      (namedAlias "core" "text|main" "Rope") ∧
    sidesShared.Accepts (sideBySide (namedAlias "core|text" "main" "Rope")
      (namedAlias "core" "text|main" "Rope")) "T" ∧
    ¬ (namedAlias "core|text" "main" "Rope").StructurallyEqual
      (namedAlias "core" "text|main" "Rope") := by
  have haccepts : sidesShared.Accepts (sideBySide (namedAlias "core|text" "main" "Rope")
      (namedAlias "core" "text|main" "Rope")) "T" :=
    (SharedTypes.accepts_iff_key_eq rfl rfl (.head _) (Declaration.resolves_alone _)
      (Declaration.resolves_alone _)).mpr (by decide)
  refine ⟨Declaration.resolves_alone _, Declaration.resolves_alone _, haccepts,
    fun ⟨ρ, _, h⟩ => ?_⟩
  cases h with
  | typeAlias _ aliased => simp [TypeExpr.rename] at aliased

end ApiConformance
