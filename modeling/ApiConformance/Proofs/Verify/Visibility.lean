import ApiConformance.Proofs.Verify.Agreement
import ApiConformance.Proofs.Verify.Calls

/-!
What rules are shown of an interface: the labels of functions that they compare, and the
types that they list, as far as these stand for something. Interfaces that show rules the
same are the same to them, so an interface can be cut down to what it shows.
-/
namespace ApiConformance

/-! ### Interfaces that show the same -/

/-- Declarations that differ at most in whether they are opaque. -/
inductive Declaration.EqualButOpacity : Declaration → Declaration → Prop where
  | definition {arity : Int} {constructors : List Constructor} (isOpaque isOpaque' : Bool) :
      EqualButOpacity (.definition ⟨arity, constructors, isOpaque⟩)
        (.definition ⟨arity, constructors, isOpaque'⟩)
  | typeAlias (a : TypeAlias) : EqualButOpacity (.typeAlias a) (.typeAlias a)

/-- The name stands for equal declarations in both modules, opacity aside, or for none in
either. -/
def Module.ShowsType (m m' : Module) (name : String) : Prop :=
  Option.Rel Declaration.EqualButOpacity (m.declaration? name) (m'.declaration? name)

def SharedTypes.ShownAlike (r : SharedTypes) (i j : Interface) : Prop :=
  ∀ a ∈ i.modules.get? r.moduleA, ∀ b ∈ i.modules.get? r.moduleB,
  ∀ a' ∈ j.modules.get? r.moduleA, ∀ b' ∈ j.modules.get? r.moduleB,
  ∀ name ∈ r.names, a.ShowsType a' name ∧ b.ShowsType b' name

/-- The interfaces have the same of a rule's modules. In these, the source of a mirror rule has
the same functions with the same labels and so has its target among those; the listed exports
have the same labels, and the listed types stand for the same. -/
def Rule.ShownAlike (r : Rule) (i j : Interface) : Prop :=
  (∀ path ∈ r.modules, (i.modules.get? path).isSome = (j.modules.get? path).isSome) ∧
    match r with
    | .mirror r => r.SeesAlike i j
    | .requiredExports r => r.SeesAlike i j
    | .sharedTypes r => r.ShownAlike i j

theorem Declaration.EqualButOpacity.sameKey {x y : Declaration} (h : x.EqualButOpacity y) :
    x.SameKey y := by
  cases h with
  | definition => exact .definition rfl
  | typeAlias => exact .typeAlias rfl

theorem Module.ShowsType.sameType {m m' : Module} {name : String} (h : m.ShowsType m' name) :
    m.SameType m' name := by
  unfold ShowsType at h
  unfold SameType
  generalize m.declaration? name = x, m'.declaration? name = y at h ⊢
  cases h with
  | none => exact .none
  | some hxy => exact .some hxy.sameKey

theorem Rule.ShownAlike.seesAlike {r : Rule} {i j : Interface} (h : r.ShownAlike i j) :
    r.SeesAlike i j := by
  obtain ⟨hpresent, hshown⟩ := h
  refine ⟨hpresent, ?_⟩
  cases r with
  | mirror r => exact hshown
  | requiredExports r => exact hshown
  | sharedTypes r =>
    intro a ha b hb a' ha' b' hb' name hname
    obtain ⟨hx, hy⟩ := hshown a ha b hb a' ha' b' hb' name hname
    exact ⟨hx.sameType, hy.sameType⟩

/-! ### Cutting an interface down -/

/-- Whether a rule is shown the function of a name in the module of a path: a mirror rule, those
of its source and what its target has under the same names. -/
def Rule.isShownFunction (i : Interface) (path name : String) : Rule → Bool
  | .mirror r =>
    (path == r.source || path == r.target) &&
      (i.modules.get? r.source).any fun source => (source.functions.get? name).isSome
  | .requiredExports r => path == r.module && r.exports.any (·.name == name)
  | .sharedTypes _ => false

def Rule.isShownType (path name : String) : Rule → Bool
  | .sharedTypes r => (path == r.moduleA || path == r.moduleB) && r.names.contains name
  | _ => false

/-- A function without the types of its parameters and of its result. -/
def Function.untyped (f : Function) : Function :=
  ⟨f.parameters.map fun p => ⟨p.label, .tuple []⟩, none⟩

def TypeDefinition.unveiled (d : TypeDefinition) : TypeDefinition := { d with isOpaque := false }

/-- What rules are shown of the module of a path. -/
def Module.shown (rules : List Rule) (i : Interface) (path : String) (m : Module) : Module where
  functions :=
    (m.functions.restrict fun name => rules.any (·.isShownFunction i path name)).map
      Function.untyped
  types :=
    (m.types.restrict fun name => rules.any (·.isShownType path name)).map
      TypeDefinition.unveiled
  aliases :=
    m.aliases.restrict fun name =>
      (m.types.get? name).isNone && rules.any (·.isShownType path name)

/-- What rules are shown of an interface: of the modules that they name, the functions and types
that they look at; nothing of its name and version. -/
def Interface.shown (rules : List Rule) (i : Interface) : Interface where
  name := ""
  version := none
  modules :=
    (i.modules.restrict fun path => rules.any (·.modules.contains path)).mapNamed
      (Module.shown rules i)

@[simp] theorem Function.labels_untyped (f : Function) : f.untyped.labels = f.labels := by
  unfold untyped labels
  rw [List.map_map]
  rfl

theorem Declaration.equalButOpacity_unveiled (d : TypeDefinition) :
    (Declaration.definition d.unveiled).EqualButOpacity (.definition d) :=
  .definition false d.isOpaque

theorem Interface.get?_shown {rules : List Rule} {i : Interface} {r : Rule} (hr : r ∈ rules)
    {path : String} (hpath : path ∈ r.modules) :
    (i.shown rules).modules.get? path =
      (i.modules.get? path).map (Module.shown rules i path) := by
  have hnamed : rules.any (·.modules.contains path) = true :=
    List.any_eq_true.mpr ⟨r, hr, List.contains_iff_mem.mpr hpath⟩
  rw [shown, Table.get?_mapNamed, Table.get?_restrict, hnamed, if_pos rfl]

theorem Interface.mem_get?_shown {rules : List Rule} {i : Interface} {r : Rule} (hr : r ∈ rules)
    {path : String} (hpath : path ∈ r.modules) {m m' : Module}
    (hm : m ∈ (i.shown rules).modules.get? path) (hm' : m' ∈ i.modules.get? path) :
    m = m'.shown rules i path := by
  rw [get?_shown hr hpath, Option.mem_def.mp hm'] at hm
  exact (Option.some.inj hm).symm

theorem Module.sameLabels_shown {rules : List Rule} {i : Interface} {r : Rule} (hr : r ∈ rules)
    {path name : String} {m : Module}
    (hshown : (m.functions.get? name).isSome → r.isShownFunction i path name) :
    (m.shown rules i path).SameLabels m name := by
  unfold SameLabels shown
  rw [Table.get?_map, Table.get?_restrict]
  cases hf : m.functions.get? name with
  | none => simp
  | some f =>
    rw [hf] at hshown
    have hany : rules.any (·.isShownFunction i path name) = true :=
      List.any_eq_true.mpr ⟨r, hr, hshown rfl⟩
    rw [hany, if_pos rfl, Option.map_some, Option.map_some, Option.map_some, f.labels_untyped]

theorem Module.showsType_shown {rules : List Rule} {i : Interface} {r : Rule} (hr : r ∈ rules)
    {path name : String} {m : Module} (hshown : r.isShownType path name) :
    (m.shown rules i path).ShowsType m name := by
  have hany : rules.any (·.isShownType path name) = true := List.any_eq_true.mpr ⟨r, hr, hshown⟩
  unfold ShowsType declaration? shown
  dsimp only
  rw [Table.get?_map, Table.get?_restrict, Table.get?_restrict, hany]
  cases m.types.get? name with
  | some d => exact .some (Declaration.equalButOpacity_unveiled d)
  | none =>
    cases m.aliases.get? name with
    | some a => exact .some (.typeAlias a)
    | none => exact .none

theorem Interface.shownAlike_shown {rules : List Rule} {r : Rule} (hr : r ∈ rules)
    (i : Interface) : r.ShownAlike (i.shown rules) i := by
  refine ⟨fun path hpath => by rw [get?_shown hr hpath, Option.isSome_map], ?_⟩
  -- what is left to see is that each rule is shown what it looks at
  cases r with
  | mirror r =>
    intro source hs target ht source' hs' target' ht'
    obtain rfl := mem_get?_shown hr (by simp [Rule.modules]) hs hs'
    obtain rfl := mem_get?_shown hr (by simp [Rule.modules]) ht ht'
    refine ⟨fun name => Module.sameLabels_shown hr fun hf => ?_,
      fun name f hf => Module.sameLabels_shown hr fun _ => ?_⟩
    · simpa [Rule.isShownFunction, Option.mem_def.mp hs'] using hf
    · simp [Rule.isShownFunction, Option.mem_def.mp hs', hf]
  | requiredExports r =>
    intro m hm m' hm' e he
    obtain rfl := mem_get?_shown hr (by simp [Rule.modules]) hm hm'
    refine Module.sameLabels_shown hr fun _ => ?_
    simpa [Rule.isShownFunction] using ⟨e, he, rfl⟩
  | sharedTypes r =>
    intro a ha b hb a' ha' b' hb' name hname
    obtain rfl := mem_get?_shown hr (by simp [Rule.modules]) ha ha'
    obtain rfl := mem_get?_shown hr (by simp [Rule.modules]) hb hb'
    exact ⟨Module.showsType_shown hr (by simp [Rule.isShownType, hname]),
      Module.showsType_shown hr (by simp [Rule.isShownType, hname])⟩

/-- Interfaces that show the rules the same have the same violations. So nothing else has any
influence: an interface has the violations of what is left when it is cut down to what it
shows. -/
theorem Interface.verify_eq_of_shownAlike (rules : List Rule) :
    (∀ i j : Interface, (∀ r ∈ rules, r.ShownAlike i j) → i.verify rules = j.verify rules) ∧
    ∀ i : Interface, i.verify rules = (i.shown rules).verify rules := by
  have halike (i j : Interface) (h : ∀ r ∈ rules, r.ShownAlike i j) :
      i.verify rules = j.verify rules :=
    Interface.verify_congr fun r hr => (h r hr).seesAlike
  exact ⟨halike, fun i => (halike (i.shown rules) i fun r hr => shownAlike_shown hr i).symm⟩

/-! ### Two interfaces with little in common -/

def board (type : TypeExpr) (isOpaque : Bool) (more : List (String × Function)) : Module where
  functions := .ofList (("draw", ⟨[⟨some "size", type⟩], some type⟩) :: more)
  types := .ofList [("Side", ⟨0, [⟨"Left", []⟩], isOpaque⟩)]
  aliases := .ofList [("Side", ⟨0, type⟩)]

def bare : Interface :=
  ⟨"bare", none, .ofList [
    ("left", board (.variable 0) false []), ("right", board (.variable 0) false [])]⟩

def furnished : Interface :=
  ⟨"furnished", some "2.0", .ofList [
    ("attic", default), ("right", board (.tuple []) true [("wipe", ⟨[], none⟩)]),
    ("left", board (.tuple []) true [])]⟩

def themedMirror : MirrorRule := ⟨"left", "right", [.labeled "theme"], []⟩

def boardRules : List Rule := [
  .mirror themedMirror, .mirror ⟨"left", "left", [], []⟩,
  .requiredExports ⟨"right", [⟨"draw", 1, [.labeled "size"]⟩, ⟨"erase", 0, []⟩]⟩,
  .sharedTypes ⟨"left", "right", ["Side", "Tone"]⟩, .sharedTypes ⟨"left", "cellar", []⟩]

theorem sameLabels_left (name : String) :
    (board (.variable 0) false []).SameLabels (board (.tuple []) true []) name := by
  unfold Module.SameLabels
  rw [← Table.get?_map, ← Table.get?_map]
  rfl

theorem bare_shownAlike_furnished : ∀ r ∈ boardRules, r.ShownAlike bare furnished := by
  have hleft {m : Module} (h : m ∈ bare.modules.get? "left") :
      m = board (.variable 0) false [] := (Option.some.inj h).symm
  have hright {m : Module} (h : m ∈ bare.modules.get? "right") :
      m = board (.variable 0) false [] := (Option.some.inj h).symm
  have hleft' {m : Module} (h : m ∈ furnished.modules.get? "left") :
      m = board (.tuple []) true [] := (Option.some.inj h).symm
  have hright' {m : Module} (h : m ∈ furnished.modules.get? "right") :
      m = board (.tuple []) true [("wipe", ⟨[], none⟩)] := (Option.some.inj h).symm
  have hside (more : List (String × Function)) :
      (board (.variable 0) false []).ShowsType (board (.tuple []) true more) "Side" :=
    .some (.definition false true)
  have htone (more : List (String × Function)) :
      (board (.variable 0) false []).ShowsType (board (.tuple []) true more) "Tone" := .none
  simp only [boardRules, List.forall_mem_cons]
  refine ⟨?_, ?_, ?_, ?_, ?_, by simp⟩
  · refine ⟨by decide, fun source hs target ht source' hs' target' ht' => ?_⟩
    obtain rfl := hleft hs
    obtain rfl := hleft' hs'
    obtain rfl := hright ht
    obtain rfl := hright' ht'
    refine ⟨sameLabels_left, fun name f hf => ?_⟩
    have hmem : (name, f) ∈ [("draw", (⟨[⟨some "size", .tuple []⟩], some (.tuple [])⟩ : Function))] :=
      Table.mem_entries.mpr hf
    obtain ⟨rfl, -⟩ := Prod.mk.inj (List.mem_singleton.mp hmem)
    rfl
  · refine ⟨by decide, fun source hs target ht source' hs' target' ht' => ?_⟩
    obtain rfl := hleft hs
    obtain rfl := hleft' hs'
    obtain rfl := hleft ht
    obtain rfl := hleft' ht'
    exact ⟨sameLabels_left, fun name _ _ => sameLabels_left name⟩
  · refine ⟨by decide, fun m hm m' hm' e he => ?_⟩
    obtain rfl := hright hm
    obtain rfl := hright' hm'
    simp only [List.mem_cons, List.not_mem_nil, or_false] at he
    obtain rfl | rfl := he <;> rfl
  · refine ⟨by decide, fun a ha b hb a' ha' b' hb' name hname => ?_⟩
    obtain rfl := hleft ha
    obtain rfl := hleft' ha'
    obtain rfl := hright hb
    obtain rfl := hright' hb'
    simp only [List.mem_cons, List.not_mem_nil, or_false] at hname
    obtain rfl | rfl := hname
    · exact ⟨hside _, hside _⟩
    · exact ⟨htone _, htone _⟩
  · refine ⟨by decide, fun a ha b hb => ?_⟩
    cases hb

/-- The same is wrong with both: the theme is not passed on, and nothing can be erased. -/
theorem verify_bare_furnished :
    (∀ r ∈ boardRules, r.ShownAlike bare furnished) ∧
    bare.verify boardRules = furnished.verify boardRules ∧
    furnished.verify boardRules = (furnished.shown boardRules).verify boardRules ∧
    .parameterMismatch "right" "draw" ["theme", "size"] ["size"] ∈ bare.verify boardRules := by
  refine ⟨bare_shownAlike_furnished,
    (Interface.verify_eq_of_shownAlike boardRules).1 bare furnished bare_shownAlike_furnished,
    (Interface.verify_eq_of_shownAlike boardRules).2 furnished, ?_⟩
  have hcalls : (Rule.mirror themedMirror).CallsFor bare
      (.parameterMismatch "right" "draw" ["theme", "size"] ["size"]) :=
    .mirrorMismatch (r := themedMirror) (f := ⟨[⟨some "size", .variable 0⟩], some (.variable 0)⟩)
      (g := ⟨[⟨some "size", .variable 0⟩], some (.variable 0)⟩) rfl rfl rfl rfl (by decide) (by decide)
  exact List.mem_flatMap.mpr ⟨.mirror themedMirror, .head _, Rule.mem_check_iff_callsFor.mpr hcalls⟩

end ApiConformance
