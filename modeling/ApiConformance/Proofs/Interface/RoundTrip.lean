import ApiConformance.Interface.Decode
import ApiConformance.Proofs.Validation.Codec

/-!
Interfaces are read back as they are written. Interfaces come from documents exactly if none of
their type expressions are nested too deeply; all of these are the same again after having been
written, under either spelling, and read.
-/
namespace ApiConformance

open Validation

/-! ### Type expressions -/

namespace TypeExpr

mutual

/-- How many types are nested in one another at most, the whole one counted. -/
def depth : TypeExpr → Nat
  | .variable _ => 1
  | .tuple elements => depths elements + 1
  | .named _ _ _ parameters => depths parameters + 1
  | .fn parameters result => max (depths parameters) result.depth + 1

def depths : List TypeExpr → Nat
  | [] => 0
  | t :: ts => max t.depth (depths ts)

end

theorem depths_le_iff {ts : List TypeExpr} {n : Nat} : depths ts ≤ n ↔ ∀ t ∈ ts, t.depth ≤ n := by
  induction ts with
  | nil => simp [depths]
  | cons t ts ih => rw [depths, Nat.max_le, ih, List.forall_mem_cons]

theorem depth_pos (t : TypeExpr) : 0 < t.depth := by
  cases t <;> exact Nat.succ_pos _

theorem toValues_eq_map (s : Spelling) (ts : List TypeExpr) : toValues s ts = ts.map (toValue s) := by
  induction ts with
  | nil => rfl
  | cons t ts ih => rw [toValues, ih, List.map_cons]

theorem toValue_ne_null (s : Spelling) (t : TypeExpr) : t.toValue s ≠ .null := by
  cases t <;> nofun

/-- The parameters of a type, read with the room that is left inside it. -/
theorem codec_tuple {s : Spelling} {room : Nat}
    (ih : Codec (decode room) (toValue s) fun t => t.depth ≤ room) :
    Codec (Validation.tuple (decode room)) (fun ts => .list (toValues s ts))
      fun ts => depths ts ≤ room where
  sound h := depths_le_iff.mpr (ih.tuple.sound h)
  complete h := by
    rw [toValues_eq_map]
    exact ih.tuple.complete (depths_le_iff.mp h)
  json h := by
    rw [toValues_eq_map]
    exact ih.tuple.json (depths_le_iff.mp h)

section

variable {s : Spelling} {room : Nat} {t : TypeExpr}

/-- With one level more, a type takes one level more than what stands in it. -/
theorem depth_le_of_decode (ih : Codec (decode room) (toValue s) fun t => t.depth ≤ room)
    {v : Value} (h : decode (room + 1) v = .ok t) : t.depth ≤ room + 1 := by
  have hparts := codec_tuple ih
  have hnone : depths [] ≤ room := Nat.zero_le room
  obtain ⟨r, tag, fields, -, -, hfields, ht⟩ := tagged_eq_ok.mp h
  have hmem := mem_of_lookup hfields
  simp only [List.mem_cons, List.not_mem_nil, or_false, Prod.mk.injEq] at hmem
  rcases hmem with ⟨-, rfl⟩ | ⟨-, rfl⟩ | ⟨-, rfl⟩ | ⟨-, rfl⟩
  · obtain ⟨id, -, rfl⟩ := Checked.map_eq_ok.mp ht
    exact Nat.succ_le_succ (Nat.zero_le room)
  · obtain ⟨ts, hts, rfl⟩ := Checked.map_eq_ok.mp ht
    exact Nat.succ_le_succ (hparts.valid_of_optional hnone hts)
  · obtain ⟨_, ts, hnames, hts, rfl⟩ := Checked.seq_eq_ok.mp ht
    obtain ⟨package, module, name, -, -, -, rfl⟩ := Checked.map₃_eq_ok.mp hnames
    exact Nat.succ_le_succ (hparts.valid_of_optional hnone hts)
  · obtain ⟨ts, result, hts, hresult, rfl⟩ := Checked.map₂_eq_ok.mp ht
    exact Nat.succ_le_succ (Nat.max_le.mpr
      ⟨hparts.valid_of_optional hnone hts, ih.valid_of_required hresult⟩)

theorem decode_toValue_of_depth_le
    (ih : Codec (decode room) (toValue s) fun t => t.depth ≤ room) (ht : t.depth ≤ room + 1) :
    decode (room + 1) (t.toValue s) = .ok t := by
  have hparts := codec_tuple ih
  cases t with
  | «variable» id =>
    refine tagged_eq_ok.mpr ⟨_, "variable", _, rfl, rfl, rfl, ?_⟩
    exact Checked.map_eq_ok.mpr ⟨id, Codec.integer.required trivial rfl, rfl⟩
  | tuple ts =>
    have hts := Nat.le_of_succ_le_succ ht
    refine tagged_eq_ok.mpr ⟨_, "tuple", _, rfl, rfl, rfl, ?_⟩
    exact Checked.map_eq_ok.mpr ⟨ts, hparts.optional hts rfl, rfl⟩
  | named package module name ts =>
    have hts := Nat.le_of_succ_le_succ ht
    refine tagged_eq_ok.mpr ⟨_, "named", _, rfl, rfl, rfl, ?_⟩
    refine Checked.seq_eq_ok.mpr ⟨named package module name, ts, ?_, hparts.optional hts rfl, rfl⟩
    exact Checked.map₃_eq_ok.mpr ⟨package, module, name, Codec.text.optional trivial rfl,
      Codec.text.required trivial rfl, Codec.text.required trivial rfl, rfl⟩
  | fn ts result =>
    obtain ⟨hts, hresult⟩ := Nat.max_le.mp (Nat.le_of_succ_le_succ ht)
    refine tagged_eq_ok.mpr ⟨_, "fn", _, rfl, rfl, rfl, ?_⟩
    exact Checked.map₂_eq_ok.mpr ⟨ts, result, hparts.optional hts rfl,
      ih.required hresult (by cases s <;> rfl), rfl⟩

theorem isJson_toValue_of_depth_le
    (ih : Codec (decode room) (toValue s) fun t => t.depth ≤ room) (ht : t.depth ≤ room + 1) :
    (t.toValue s).IsJson := by
  have hparts := codec_tuple ih
  cases t with
  | «variable» id => exact Value.isJson_object (by simp) (by simp)
  | tuple ts =>
    have hts := hparts.json (Nat.le_of_succ_le_succ ht)
    exact Value.isJson_object (by simp) (by simp [hts])
  | named package module name ts =>
    have hts := hparts.json (Nat.le_of_succ_le_succ ht)
    exact Value.isJson_object (by simp) (by simp [hts])
  | fn ts result =>
    obtain ⟨hts, hresult⟩ := Nat.max_le.mp (Nat.le_of_succ_le_succ ht)
    exact Value.isJson_object (by cases s <;> simp [Spelling.choose])
      (by simp [hparts.json hts, ih.json hresult])

end

/-- Whatever fits into some room is read back there. The induction is on the room; what stands in
a type has one level less. -/
theorem codec (s : Spelling) (room : Nat) :
    Codec (decode room) (toValue s) fun t => t.depth ≤ room := by
  induction room with
  | zero =>
    have hnone {t : TypeExpr} : ¬ t.depth ≤ 0 := Nat.not_le.mpr t.depth_pos
    refine ⟨fun h => ?_, fun ht => absurd ht hnone, fun ht => absurd ht hnone⟩
    obtain ⟨_, tag, fields, -, -, hfields, hfault⟩ := tagged_eq_ok.mp h
    obtain ⟨_, -, hpair⟩ := List.mem_map.mp (mem_of_lookup hfields)
    cases hpair
    exact absurd hfault Checked.fault_ne_ok
  | succ room ih =>
    exact ⟨depth_le_of_decode ih, decode_toValue_of_depth_le ih, isJson_toValue_of_depth_le ih⟩

end TypeExpr

/-! ### Declarations -/

def Parameter.Fits (p : Parameter) : Prop := p.type.depth ≤ TypeExpr.maxDepth

def Function.Fits (f : Function) : Prop :=
  (∀ p ∈ f.parameters, p.Fits) ∧ ∀ t ∈ f.result, t.depth ≤ TypeExpr.maxDepth

def Constructor.Fits (c : Constructor) : Prop := ∀ p ∈ c.parameters, p.Fits

def TypeDefinition.Fits (d : TypeDefinition) : Prop := ∀ c ∈ d.constructors, c.Fits

def TypeAlias.Fits (a : TypeAlias) : Prop := a.aliased.depth ≤ TypeExpr.maxDepth

structure Module.Fits (m : Module) : Prop where
  functions : ∀ entry ∈ m.functions.entries, entry.2.Fits
  types : ∀ entry ∈ m.types.entries, entry.2.Fits
  aliases : ∀ entry ∈ m.aliases.entries, entry.2.Fits

/-- No type expression of the interface is nested more deeply than is ever read. -/
def Interface.Fits (i : Interface) : Prop := ∀ entry ∈ i.modules.entries, entry.2.Fits

section

variable (s : Spelling)

theorem nullableText : Codec (nullable text) (.ofOption .text) fun o => ∀ _ ∈ o, True :=
  Codec.text.nullable nofun

theorem Parameter.codec : Codec Parameter.ofValue (toValue s) Parameter.Fits where
  sound h := by
    obtain ⟨r, -, h⟩ := record_eq_ok.mp h
    obtain ⟨label, type, -, htype, rfl⟩ := Checked.map₂_eq_ok.mp h
    exact (TypeExpr.codec s _).valid_of_required htype
  complete h := record_eq_ok.mpr ⟨_, rfl, Checked.map₂_eq_ok.mpr ⟨_, _,
    nullableText.optional (fun _ _ => trivial) rfl, (TypeExpr.codec s _).required h rfl, rfl⟩⟩
  json {p} h := by
    have hlabel := nullableText.json (a := p.label) fun _ _ => trivial
    have htype := (TypeExpr.codec s _).json h
    exact Value.isJson_object (by simp) (by simp [hlabel, htype])

theorem TypeExpr.codec_nullable : Codec (nullable TypeExpr.ofField) (.ofOption (toValue s))
    fun o => ∀ t ∈ o, t.depth ≤ maxDepth :=
  (TypeExpr.codec s maxDepth).nullable (toValue_ne_null s)

theorem Function.codec : Codec Function.ofValue (toValue s) Function.Fits where
  sound h := by
    obtain ⟨r, -, h⟩ := record_eq_ok.mp h
    obtain ⟨parameters, result, hparameters, hresult, rfl⟩ := Checked.map₂_eq_ok.mp h
    exact ⟨(Parameter.codec s).tuple.valid_of_optional (List.forall_mem_nil _) hparameters,
      (TypeExpr.codec_nullable s).valid_of_optional (by simp) hresult⟩
  complete h := record_eq_ok.mpr ⟨_, rfl, Checked.map₂_eq_ok.mpr ⟨_, _,
    (Parameter.codec s).tuple.optional h.1 rfl,
    (TypeExpr.codec_nullable s).optional h.2 (by cases s <;> rfl), rfl⟩⟩
  json h := by
    have hparameters := (Parameter.codec s).tuple.json h.1
    have hresult := (TypeExpr.codec_nullable s).json h.2
    exact Value.isJson_object (by cases s <;> simp [Spelling.choose])
      (by simp [hparameters, hresult])

theorem Constructor.codec : Codec Constructor.ofValue (toValue s) Constructor.Fits where
  sound h := by
    obtain ⟨r, -, h⟩ := record_eq_ok.mp h
    obtain ⟨name, parameters, -, hparameters, rfl⟩ := Checked.map₂_eq_ok.mp h
    exact (Parameter.codec s).tuple.valid_of_optional (List.forall_mem_nil _) hparameters
  complete h := record_eq_ok.mpr ⟨_, rfl, Checked.map₂_eq_ok.mpr ⟨_, _,
    Codec.text.required trivial rfl, (Parameter.codec s).tuple.optional h rfl, rfl⟩⟩
  json h := by
    have hparameters := (Parameter.codec s).tuple.json h
    exact Value.isJson_object (by simp) (by simp [hparameters])

theorem TypeDefinition.codec : Codec TypeDefinition.ofValue (toValue s) TypeDefinition.Fits where
  sound h := by
    obtain ⟨r, -, h⟩ := record_eq_ok.mp h
    obtain ⟨arity, constructors, isOpaque, -, hconstructors, -, rfl⟩ := Checked.map₃_eq_ok.mp h
    exact (Constructor.codec s).tuple.valid_of_optional (List.forall_mem_nil _) hconstructors
  complete h := record_eq_ok.mpr ⟨_, rfl, Checked.map₃_eq_ok.mpr ⟨_, _, _,
    Codec.integer.optional trivial (by cases s <;> rfl),
    (Constructor.codec s).tuple.optional h (by cases s <;> rfl),
    Codec.boolean.optional trivial (by cases s <;> rfl), rfl⟩⟩
  json h := by
    have hconstructors := (Constructor.codec s).tuple.json h
    exact Value.isJson_object (by cases s <;> simp [Spelling.choose]) (by simp [hconstructors])

theorem TypeAlias.codec : Codec TypeAlias.ofValue (toValue s) TypeAlias.Fits where
  sound h := by
    obtain ⟨r, -, h⟩ := record_eq_ok.mp h
    obtain ⟨arity, aliased, -, haliased, rfl⟩ := Checked.map₂_eq_ok.mp h
    exact (TypeExpr.codec s _).valid_of_required haliased
  complete h := record_eq_ok.mpr ⟨_, rfl, Checked.map₂_eq_ok.mpr ⟨_, _,
    Codec.integer.optional trivial (by cases s <;> rfl),
    (TypeExpr.codec s _).required h (by cases s <;> rfl), rfl⟩⟩
  json h := by
    have haliased := (TypeExpr.codec s _).json h
    exact Value.isJson_object (by cases s <;> simp [Spelling.choose]) (by simp [haliased])

theorem Module.codec : Codec Module.ofValue (toValue s) Module.Fits where
  sound h := by
    obtain ⟨r, -, h⟩ := record_eq_ok.mp h
    obtain ⟨functions, types, aliases, hfunctions, htypes, haliases, rfl⟩ :=
      Checked.map₃_eq_ok.mp h
    exact ⟨(Function.codec s).table.valid_of_optional (List.forall_mem_nil _) hfunctions,
      (TypeDefinition.codec s).table.valid_of_optional (List.forall_mem_nil _) htypes,
      (TypeAlias.codec s).table.valid_of_optional (List.forall_mem_nil _) haliases⟩
  complete h := record_eq_ok.mpr ⟨_, rfl, Checked.map₃_eq_ok.mpr ⟨_, _, _,
    (Function.codec s).table.optional h.functions (by cases s <;> rfl),
    (TypeDefinition.codec s).table.optional h.types (by cases s <;> rfl),
    (TypeAlias.codec s).table.optional h.aliases (by cases s <;> rfl), rfl⟩⟩
  json h := by
    have hfunctions := (Function.codec s).table.json h.functions
    have htypes := (TypeDefinition.codec s).table.json h.types
    have haliases := (TypeAlias.codec s).table.json h.aliases
    exact Value.isJson_object (by cases s <;> simp [Spelling.choose])
      (by simp [hfunctions, htypes, haliases])

theorem Interface.codec : Codec Interface.ofValue (toValue s) Interface.Fits where
  sound h := by
    obtain ⟨r, -, h⟩ := record_eq_ok.mp h
    obtain ⟨name, version, modules, -, -, hmodules, rfl⟩ := Checked.map₃_eq_ok.mp h
    exact (Module.codec s).table.valid_of_optional (List.forall_mem_nil _) hmodules
  complete h := record_eq_ok.mpr ⟨_, rfl, Checked.map₃_eq_ok.mpr ⟨_, _, _,
    Codec.text.optional trivial rfl, nullableText.optional (fun _ _ => trivial) rfl,
    (Module.codec s).table.optional h rfl, rfl⟩⟩
  json {i} h := by
    have hversion := nullableText.json (a := i.version) fun _ _ => trivial
    have hmodules := (Module.codec s).table.json h
    exact Value.isJson_object (by simp) (by simp [hversion, hmodules])

end

/-! ### Writing what was read -/

/-- Reads data and writes what it holds, with every default filled in. -/
def Interface.rewrite (s : Spelling) (v : Value) : Checked Value := (·.toValue s) <$> ofValue v

/-- Interfaces that are read are those whose types are not nested too deeply. Each of them, written
as JSON data under either spelling, is read as it was. So data that was rewritten once is not
changed any more, and rewriting it under another spelling is as if it had been the first time. -/
theorem Interface.ofValue_toValue :
    (∀ i, (∃ v, ofValue v = .ok i) ↔ i.Fits) ∧
    (∀ v i, ofValue v = .ok i → ∀ s, (i.toValue s).IsJson ∧ ofValue (i.toValue s) = .ok i) ∧
    ∀ v s w, rewrite s v = .ok w → rewrite s w = .ok w ∧ ∀ s', rewrite s' w = rewrite s' v := by
  refine ⟨fun i => (codec .document).exists_decode_iff, fun v i h s => ?_, fun v s w h => ?_⟩
  · exact ⟨(codec s).json ((codec s).sound h), (codec s).decode_write h⟩
  · obtain ⟨i, hi, rfl⟩ := Checked.map_eq_ok.mp h
    have hback : ofValue (i.toValue s) = .ok i := (codec s).decode_write hi
    unfold rewrite
    rw [hback, hi]
    exact ⟨rfl, fun _ => rfl⟩

/-- A document that leaves out what it can, and gives some fields under one name and some under
the other. -/
def rosterDocument : Value := .object [
  ("modules", .object [("roster", .object [
    ("functions", .object [("pick", .object [
      ("parameters", .list [
        .object [("label", .text "by"), ("type", .object [
          ("kind", .text "fn"), ("return_", .object [("kind", .text "variable"), ("id", .int 0)])])],
        .object [("type", .object [("kind", .text "named"), ("module", .text "roster"),
          ("name", .text "Player")])]])])]),
    ("types", .object [("Player", .object [("arity", .text "1"), ("opaque", .text "yes")])]),
    ("type_aliases", .object [("Team", .object [
      ("parameters", .int (-3)), ("alias", .object [("kind", .text "tuple")])])])])])]

def roster : Interface where
  name := ""
  version := none
  modules := .ofList [("roster", {
    functions := .ofList [("pick", ⟨[⟨some "by", .fn [] (.variable 0)⟩,
      ⟨none, .named "" "roster" "Player" []⟩], none⟩)]
    types := .ofList [("Player", ⟨1, [], true⟩)]
    aliases := .ofList [("Team", ⟨-3, .tuple []⟩)] })]

theorem roster_readBack :
    Interface.ofValue rosterDocument = .ok roster ∧
    (∀ s, (roster.toValue s).IsJson ∧ Interface.ofValue (roster.toValue s) = .ok roster) ∧
    roster.Fits ∧ Interface.rewrite .field rosterDocument = .ok (roster.toValue .field) ∧
    Interface.rewrite .field (roster.toValue .field) = .ok (roster.toValue .field) := by
  have hread : Interface.ofValue rosterDocument = .ok roster := by decide +kernel
  have hwritten : Interface.rewrite .field rosterDocument = .ok (roster.toValue .field) := by
    rw [Interface.rewrite, hread]
    rfl
  obtain ⟨hfits, hback, hagain⟩ := Interface.ofValue_toValue
  exact ⟨hread, hback _ _ hread, (hfits roster).mp ⟨_, hread⟩, hwritten, (hagain _ _ _ hwritten).1⟩

end ApiConformance
