import Mathlib.Logic.Relation
import ApiConformance.Interface.Load
import ApiConformance.Proofs.Validation.Changes

/-!
Entries that mean nothing are passed over at every level of a document. Each part of a document
has a role, which says what its entries may be called; putting in entries under other names, and
listing entries in another order, changes neither the interface nor what is wrong with it. The
names in tables are data and are not touched.
-/
namespace ApiConformance.Interface

open Validation

/-! ### Documents -/

/-- What a part of a document stands for: a model of some shape, a list or a table of such parts,
or data that is taken as it is. -/
inductive Role where
  | interface
  | module
  | function
  | definition
  | typeAlias
  | constructor
  | parameter
  | type
  | list (items : Role)
  | table (values : Role)
  | plain
  deriving DecidableEq

namespace Role

/-- The fields of a type of some kind. -/
def ofKind : Option Value → List (String × Role)
  | some (.text "variable") => [("id", plain)]
  | some (.text "tuple") => [("elements", list type)]
  | some (.text "named") =>
    [("package", plain), ("module", plain), ("name", plain), ("parameters", list type)]
  | some (.text "fn") => [("parameters", list type), ("return", type), ("return_", type)]
  | _ => []

/-- The fields of a model under all of their names, with the roles of what stands there; a type
has those of its kind. Lists, tables and plain data are no models. -/
def fields? (entries : List (Atom × Value)) : Role → Option (List (String × Role))
  | interface => some [("name", plain), ("version", plain), ("modules", table module)]
  | module => some [("functions", table function), ("types", table definition),
      ("type-aliases", table typeAlias), ("type_aliases", table typeAlias)]
  | function => some [("parameters", list parameter), ("return", type), ("return_", type)]
  | definition => some [("parameters", plain), ("arity", plain),
      ("constructors", list constructor), ("opaque", plain)]
  | typeAlias => some [("parameters", plain), ("arity", plain), ("alias", type)]
  | constructor => some [("name", plain), ("parameters", list parameter)]
  | parameter => some [("label", plain), ("type", type)]
  | type => some (("kind", plain) :: ofKind (Value.lookup "kind" entries))
  | list _ => none
  | table _ => none
  | plain => none

end Role

/-- One change to a part of a document, at any depth: a model gets an entry under a name that is
none of its fields, or lists its entries, whose names are distinct, in another order. -/
inductive Padding : Role → Value → Value → Prop where
  | insert {role : Role} {fields : List (String × Role)} (before after : List (Atom × Value))
      {key : Atom} (v : Value) (model : role.fields? (before ++ after) = some fields)
      (unneeded : ∀ name ∈ fields.map Prod.fst, key ≠ .text name) :
      Padding role (.map (before ++ after)) (.map (before ++ (key, v) :: after))
  | reorder {role : Role} {fields : List (String × Role)} {entries entries' : List (Atom × Value)}
      (model : role.fields? entries = some fields) (distinct : (entries.map Prod.fst).Nodup)
      (perm : entries.Perm entries') : Padding role (.map entries) (.map entries')
  | field {role inner : Role} {fields : List (String × Role)} (before after : List (Atom × Value))
      {name : String} {v w : Value}
      (model : role.fields? (before ++ (.text name, v) :: after) = some fields)
      (known : fields.lookup name = some inner) (inside : Padding inner v w) :
      Padding role (.map (before ++ (.text name, v) :: after))
        (.map (before ++ (.text name, w) :: after))
  | item {role : Role} (before after : List Value) {v w : Value} (inside : Padding role v w) :
      Padding (.list role) (.list (before ++ v :: after)) (.list (before ++ w :: after))
  | entry {role : Role} (before after : List (Atom × Value)) {key : Atom} {v w : Value}
      (inside : Padding role v w) :
      Padding (.table role) (.map (before ++ (key, v) :: after))
        (.map (before ++ (key, w) :: after))

/-! ### What decoders see of it -/

theorem lookup_insert {before after : List (Atom × Value)} {key : Atom} {v : Value} {name : String}
    (h : key ≠ .text name) :
    Value.lookup name (before ++ (key, v) :: after) = Value.lookup name (before ++ after) := by
  have hkey : (Atom.text name == key) = false := beq_eq_false_iff_ne.mpr h.symm
  simp only [Value.lookup, List.lookup_append, List.lookup_cons, hkey]

/-- What stands under a name was there before, or has been changed. -/
theorem lookup_replace {before after : List (Atom × Value)} {key : Atom} {v w : Value}
    (name : String) :
    Value.lookup name (before ++ (key, v) :: after) =
        Value.lookup name (before ++ (key, w) :: after) ∨
      key = .text name ∧ Value.lookup name (before ++ (key, v) :: after) = some v ∧
        Value.lookup name (before ++ (key, w) :: after) = some w := by
  by_cases hkey : key = .text name
  · subst hkey
    unfold Value.lookup
    rw [List.lookup_append, List.lookup_append, List.lookup_cons_self, List.lookup_cons_self]
    cases before.lookup (.text name) with
    | none => exact .inr ⟨rfl, rfl, rfl⟩
    | some u => exact .inl rfl
  · rw [lookup_insert hkey, lookup_insert hkey]
    exact .inl rfl

/-- Under the names of the fields stands the same, or something with one change in it. -/
def SameFields (fields : List (String × Role)) (entries entries' : List (Atom × Value)) : Prop :=
  ∀ name role, fields.lookup name = some role →
    Value.lookup name entries = Value.lookup name entries' ∨
      ∃ v w, Value.lookup name entries = some v ∧ Value.lookup name entries' = some w ∧
        Padding role v w

theorem Padding.sameFields {role : Role} {v w : Value} (h : Padding role v w)
    (hmodel : (role.fields? []).isSome) :
    ∃ entries entries' fields, v = .map entries ∧ w = .map entries' ∧
      role.fields? entries = some fields ∧ SameFields fields entries entries' := by
  cases h with
  | insert _ _ v model unneeded =>
    refine ⟨_, _, _, rfl, rfl, model, fun name role hname => .inl (lookup_insert ?_).symm⟩
    obtain ⟨l, l', hsplit, -⟩ := List.lookup_eq_some_iff.mp hname
    exact unneeded name (by simp [hsplit])
  | reorder model distinct perm =>
    refine ⟨_, _, _, rfl, rfl, model, fun name role _ => .inl ?_⟩
    exact Table.lookup_eq_of_perm perm distinct _
  | @field _ inner _ _ _ changed v w model known inside =>
    refine ⟨_, _, _, rfl, rfl, model, fun name role hname => ?_⟩
    refine (lookup_replace name).imp_right fun ⟨hkey, hv, hw⟩ => ⟨v, w, hv, hw, ?_⟩
    obtain rfl : changed = name := Atom.text.inj hkey
    rw [known] at hname
    exact Option.some.inj hname ▸ inside
  | item | entry => cases hmodel

/-- A decoder does not see the changes to parts of some role. -/
def Unseen {α : Type} (role : Role) (decode : Value → Checked α) : Prop :=
  ∀ v w, Padding role v w → decode v = decode w

/-- The same of a decoder that is given the entries of a model. -/
def UnseenFields {α : Type} (fields : List (String × Role))
    (decode : List (Atom × Value) → Checked α) : Prop :=
  ∀ entries entries', SameFields fields entries entries' → decode entries = decode entries'

section

variable {α β : Type} {role : Role} {decode : Value → Checked α} {fields : List (String × Role)}
  {f : List (Atom × Value) → Checked (α → β)} {g : List (Atom × Value) → Checked α}

theorem unseen_plain : Unseen .plain decode := by
  intro v w h
  cases h <;> contradiction

theorem Unseen.nullable (h : Unseen role decode) : Unseen role (nullable decode) := by
  intro v w hvw
  have hdecode := h v w hvw
  cases hvw <;> exact congrArg (some <$> ·) hdecode

theorem Unseen.tuple (h : Unseen role decode) : Unseen (.list role) (tuple decode) := by
  intro v w hvw
  cases hvw with
  | item _ _ inside => exact items_congr (by simp [h _ _ inside])
  | insert | reorder | field => contradiction

theorem Unseen.table (h : Unseen role decode) : Unseen (.table role) (table decode) := by
  intro v w hvw
  cases hvw with
  | entry _ _ inside => simp [Validation.table, Value.untied, Validation.entry, h _ _ inside]
  | insert | reorder | field => contradiction

/-- All names of a field have one role. -/
theorem Unseen.decoded (h : Unseen role decode) {names : List String}
    (hnames : ∀ name ∈ names, fields.lookup name = some role)
    {entries entries' : List (Atom × Value)} (hsame : SameFields fields entries entries') :
    ∀ name ∈ names,
      (Value.lookup name entries).map decode = (Value.lookup name entries').map decode := by
  intro name hname
  rcases hsame name role (hnames name hname) with heq | ⟨v, w, hv, hw, hvw⟩
  · rw [heq]
  · rw [hv, hw, Option.map_some, Option.map_some, h v w hvw]

theorem Unseen.required (h : Unseen role decode) {names : List String}
    (hnames : ∀ name ∈ names, fields.lookup name = some role) :
    UnseenFields fields (requiredField names decode) :=
  fun _ _ hsame => requiredField_congr (h.decoded hnames hsame)

theorem Unseen.optional (h : Unseen role decode) {names : List String} {default : α}
    (hnames : ∀ name ∈ names, fields.lookup name = some role) :
    UnseenFields fields (optionalField names default decode) :=
  fun _ _ hsame => optionalField_congr (h.decoded hnames hsame)

theorem UnseenFields.map (h : UnseenFields fields g) (k : α → β) :
    UnseenFields fields fun r => k <$> g r :=
  fun entries entries' hsame => congrArg (k <$> ·) (h entries entries' hsame)

theorem UnseenFields.seq (hf : UnseenFields fields f) (hg : UnseenFields fields g) :
    UnseenFields fields fun r => f r <*> g r := by
  intro entries entries' hsame
  dsimp only
  rw [hf entries entries' hsame, hg entries entries' hsame]

theorem UnseenFields.record (h : UnseenFields fields g) (shape : String)
    (hrole : ∀ entries, role.fields? entries = some fields) : Unseen role (record shape g) := by
  intro v w hvw
  obtain ⟨entries, entries', known, rfl, rfl, hknown, hsame⟩ := hvw.sameFields (by simp [hrole])
  rw [hrole] at hknown
  cases hknown
  exact h entries entries' hsame

end

/-! ### Decoders of a document -/

/-- A kind is plain data, so what is padded is read by the same decoder as before. -/
theorem unseen_tagged {α : Type} {decoders : List (String × (List (Atom × Value) → Checked α))}
    (h : ∀ tag fields, (tag, fields) ∈ decoders →
      UnseenFields (("kind", .plain) :: Role.ofKind (some (.text tag))) fields) :
    Unseen .type (tagged decoders) := by
  intro v w hvw
  obtain ⟨entries, entries', _, rfl, rfl, ⟨⟩, hsame⟩ := hvw.sameFields rfl
  have hkind : Value.lookup "kind" entries = Value.lookup "kind" entries' := by
    rcases hsame "kind" .plain rfl with heq | ⟨_, _, -, -, hplain⟩
    · exact heq
    · cases hplain <;> contradiction
  refine tagged_congr hkind fun tag fields htag hfields => ?_
  rw [htag] at hsame
  exact h tag fields (mem_of_lookup hfields) entries entries' hsame

/-- Inside a type there is one level less to be read; the induction is on the room for levels. -/
theorem unseen_type (room : Nat) : Unseen .type (TypeExpr.decode room) := by
  induction room with
  | zero =>
    refine unseen_tagged fun tag fields hdecoder => ?_
    obtain ⟨_, -, ⟨⟩⟩ := List.mem_map.mp hdecoder
    exact fun _ _ _ => rfl
  | succ room ih =>
    refine unseen_tagged fun tag fields hdecoder => ?_
    simp only [List.mem_cons, List.not_mem_nil, or_false, Prod.mk.injEq] at hdecoder
    rcases hdecoder with ⟨rfl, rfl⟩ | ⟨rfl, rfl⟩ | ⟨rfl, rfl⟩ | ⟨rfl, rfl⟩
    · exact (unseen_plain.required (by decide)).map _
    · exact (ih.tuple.optional (by decide)).map _
    · exact ((((unseen_plain.optional (by decide)).map _).seq
        (unseen_plain.required (by decide))).seq (unseen_plain.required (by decide))).seq
          (ih.tuple.optional (by decide))
    · exact ((ih.tuple.optional (by decide)).map _).seq (ih.required (by decide))

theorem unseen_parameter : Unseen .parameter Parameter.ofValue :=
  (((unseen_plain.optional (by decide)).map _).seq
    ((unseen_type _).required (by decide))).record _ fun _ => rfl

theorem unseen_function : Unseen .function Function.ofValue :=
  (((unseen_parameter.tuple.optional (by decide)).map _).seq
    ((unseen_type _).nullable.optional (by decide))).record _ fun _ => rfl

theorem unseen_constructor : Unseen .constructor Constructor.ofValue :=
  (((unseen_plain.required (by decide)).map _).seq
    (unseen_parameter.tuple.optional (by decide))).record _ fun _ => rfl

theorem unseen_definition : Unseen .definition TypeDefinition.ofValue :=
  ((((unseen_plain.optional (by decide)).map _).seq
    (unseen_constructor.tuple.optional (by decide))).seq
    (unseen_plain.optional (by decide))).record _ fun _ => rfl

theorem unseen_typeAlias : Unseen .typeAlias TypeAlias.ofValue :=
  (((unseen_plain.optional (by decide)).map _).seq
    ((unseen_type _).required (by decide))).record _ fun _ => rfl

theorem unseen_module : Unseen .module Module.ofValue :=
  ((((unseen_function.table.optional (by decide)).map _).seq
    (unseen_definition.table.optional (by decide))).seq
    (unseen_typeAlias.table.optional (by decide))).record _ fun _ => rfl

theorem unseen_interface : Unseen .interface Interface.ofValue :=
  ((((unseen_plain.optional (by decide)).map _).seq
    (unseen_plain.optional (by decide))).seq
    (unseen_module.table.optional (by decide))).record _ fun _ => rfl

/-- However often a document is padded, the same interface is read from it, or the same problems
are found in it; so texts that hold the two documents load alike. -/
theorem ofValue_padded {v w : Value} (h : Relation.ReflTransGen (Padding .interface) v w) :
    ofValue w = ofValue v ∧ ∀ text text' room room' source, Json.read text room = .ok v →
      Json.read text' room' = .ok w → ofText text' source room' = ofText text source room := by
  have hvalue : ofValue w = ofValue v := by
    induction h with
    | refl => rfl
    | tail _ hstep ih => rw [← unseen_interface _ _ hstep, ih]
  refine ⟨hvalue, fun text text' room room' source hv hw => ?_⟩
  rw [ofText, ofText, hv, hw]
  dsimp only
  rw [hvalue]

/-! ### A kiosk -/

/-- A module with one function, whose parameter is of some type. -/
def kioskDocument (type : Value) (others : List (Atom × Value)) : Value :=
  .map ((.text "modules", .map [(.text "kiosk", .map [(.text "functions", .map [
    (.text "sell", .map [
      (.text "parameters", .list [.map [(.text "type", type)]])])])])]) :: others)

theorem padding_kioskDocument {v w : Value} (h : Padding .type v w) (others : List (Atom × Value)) :
    Padding .interface (kioskDocument v others) (kioskDocument w others) :=
  .field [] _ rfl rfl <| .entry [] _ <| .field [] _ rfl rfl <| .entry [] _ <|
    .field [] _ rfl rfl <| .item [] _ <| .field [] _ rfl rfl h

def kioskVariable : List (Atom × Value) := [(.text "kind", .text "variable"), (.text "id", .int 0)]

def kiosk : Interface :=
  ⟨"", none, .ofList [
    ("kiosk", ⟨.ofList [("sell", ⟨[⟨none, .variable 0⟩], none⟩)], .empty, .empty⟩)]⟩

/-- No type is of this kind, so nothing else in it is needed. -/
def kioskCoin (others : List (Atom × Value)) : Value :=
  kioskDocument (.map ((.text "kind", .text "coin") :: others)) []

def kioskProblems : List Problem := [⟨[.key "modules", .key "kiosk", .key "functions", .key "sell",
  .key "parameters", .index 0, .key "type"],
  .kindUnknown "coin" ["variable", "tuple", "named", "fn"]⟩]

theorem kioskVariable_padded :
    Relation.ReflTransGen (Padding .interface) (kioskDocument (.map kioskVariable) [])
      (kioskDocument (.map ((.text "elements", .int 7) :: kioskVariable.reverse))
        [(.text "docs", .null)]) := by
  have hdocs : Padding .interface (kioskDocument (.map kioskVariable) [])
      (kioskDocument (.map kioskVariable) [(.text "docs", .null)]) :=
    .insert [_] [] _ rfl (by decide)
  have hreorder : Padding .type (.map kioskVariable) (.map kioskVariable.reverse) :=
    .reorder rfl (by decide) (List.reverse_perm _).symm
  have hinsert : Padding .type (.map kioskVariable.reverse)
      (.map ((.text "elements", .int 7) :: kioskVariable.reverse)) :=
    .insert [] _ _ rfl (by decide)
  exact .tail (.tail (.single hdocs) (padding_kioskDocument hreorder _))
    (padding_kioskDocument hinsert _)

/-- A document with an interface, one with a problem deep inside, and the texts of a third. -/
theorem kiosk_padded :
    ofValue (kioskDocument (.map kioskVariable) []) = .ok kiosk ∧
    ofValue (kioskDocument (.map ((.text "elements", .int 7) :: kioskVariable.reverse))
      [(.text "docs", .null)]) = .ok kiosk ∧
    Relation.ReflTransGen (Padding .interface) (kioskCoin []) (kioskCoin [(.text "id", .int 7)]) ∧
    ofValue (kioskCoin [(.text "id", .int 7)]) = .failed kioskProblems ∧
    ofText "\x7b\x22docs\x22:0,\x22name\x22:1\x7d".toList "kiosk" =
      ofText "\x7b\x22name\x22:1\x7d".toList "kiosk" := by
  have hplain : ofValue (kioskDocument (.map kioskVariable) []) = .ok kiosk := by decide +kernel
  have hcoin : Relation.ReflTransGen (Padding .interface) (kioskCoin [])
      (kioskCoin [(.text "id", .int 7)]) :=
    .single (padding_kioskDocument (.insert [_] [] _ rfl (by decide)) _)
  have hproblems : ofValue (kioskCoin []) = .failed kioskProblems := by decide +kernel
  have hname : Padding .interface (.map [(.text "name", .int 1)])
      (.map [(.text "docs", .int 0), (.text "name", .int 1)]) :=
    .insert [] _ _ rfl (by decide)
  exact ⟨hplain, (ofValue_padded kioskVariable_padded).1.trans hplain, hcoin,
    (ofValue_padded hcoin).1.trans hproblems, (ofValue_padded (.single hname)).2 _ _ _ _ _ rfl rfl⟩

end ApiConformance.Interface
