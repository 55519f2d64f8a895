import ApiConformance.Proofs.Validation.Steady
import ApiConformance.Rule.Parse

/-!
A list of rules is read in two ways: as a field of a request, where all problems are told, and as
a contract, where reading stops at the first rule that is not valid. Both take the same lists and
read the same rules from them, and neither looks at the order in which data lists its entries.
-/
namespace ApiConformance

open Validation

theorem ParamSpec.steady_ofLongForm : Steady ofLongForm := by
  refine steady_tagged fun decoder hdecoder => ?_
  simp only [List.mem_cons, List.not_mem_nil, or_false] at hdecoder
  rcases hdecoder with rfl | rfl
  · exact (steady_text.required _).map _
  · exact fun _ _ _ _ h => h

theorem ParamSpec.steady_ofValue : Steady ofValue := by
  intro v w a halike hv
  cases halike with
  | atom => exact hv
  | list items => exact steady_ofLongForm _ _ _ (.list items) hv
  | map distinct perm keys values =>
    exact steady_ofLongForm _ _ _ (.map distinct perm keys values) hv

theorem ParamSpec.steady_listOfValue : Steady listOfValue := by
  intro v w a halike hv
  cases halike with
  | list items => exact steady_ofValue.items items hv
  | atom | map => exact hv

theorem ExportSpec.steady_ofValue : Steady ofValue :=
  ((((steady_text.required _).map _).seq (steady_naturalNumber.required _)).seq
    (ParamSpec.steady_listOfValue.optional _ _)).record _

theorem Rule.steady_ofValue : Steady ofValue := by
  refine steady_tagged fun decoder hdecoder => ?_
  simp only [List.mem_cons, List.not_mem_nil, or_false] at hdecoder
  rcases hdecoder with rfl | rfl | rfl
  · exact (((((steady_text.required _).map _).seq (steady_text.required _)).seq
      (ParamSpec.steady_listOfValue.optional _ _)).seq (steady_text.tuple.optional _ _)).map _
  · exact (((steady_text.required _).map _).seq
      (ExportSpec.steady_ofValue.tuple.optional _ _)).map _
  · exact ((((steady_text.required _).map _).seq (steady_text.required _)).seq
      (steady_text.tuple.optional _ _)).map _

/-! ### Lists of rules -/

/-- The rules that the items of a list stand for, each for one. -/
def Rule.ReadsAs (vs : List Value) (rules : List Rule) : Prop :=
  List.Forall₂ (fun v r => ofValue v = .ok r) vs rules

theorem Rule.list_eq_ok_iff {vs : List Value} {rules : List Rule} :
    Validation.list ofValue (.list vs) = .ok rules ↔ ReadsAs vs rules := items_eq_ok

theorem Contract.ofEntries_eq_ok_iff {source : String} {index : Nat} {vs : List Value}
    {rules : List Rule} : ofEntries source index vs = .ok rules ↔ Rule.ReadsAs vs rules := by
  induction vs generalizing index rules with
  | nil => simp [ofEntries, Rule.ReadsAs, eq_comm]
  | cons v vs ih =>
    unfold Rule.ReadsAs
    rw [List.forall₂_cons_left_iff, ofEntries]
    cases hv : Rule.ofValue v with
    | failed ps => simp
    | ok r =>
      dsimp only
      cases hvs : ofEntries source (index + 1) vs with
      | error e =>
        constructor
        · intro h
          cases h
        · rintro ⟨_, rest, -, hrest, -⟩
          rw [ih.mpr hrest] at hvs
          cases hvs
      | ok rest =>
        constructor
        · intro h
          cases h
          exact ⟨r, rest, rfl, ih.mp hvs, rfl⟩
        · rintro ⟨_, rest', ⟨⟩, hrest', rfl⟩
          rw [ih.mpr hrest'] at hvs
          cases hvs
          rfl

/-- Data that holds a list of rules: the list itself, or a map with an entry for it. -/
inductive Contract.Holds (vs : List Value) : Value → Prop where
  | list {ws : List Value} (alike : (Value.list vs).Alike (.list ws)) : Holds vs (.list ws)
  | rules {entries : List (Atom × Value)}
      (alike : (Value.object [("rules", .list vs)]).Alike (.map entries)) : Holds vs (.map entries)

theorem Rule.ReadsAs.of_alike {vs ws : List Value} {rules : List Rule} (h : ReadsAs vs rules)
    (halike : (Value.list vs).Alike (.list ws)) : ReadsAs ws rules := by
  cases halike with
  | list items => exact steady_ofValue.forall₂ items h

/-- A contract that holds a list of rules is read as that list is. -/
theorem Contract.ofValue_of_holds {vs : List Value} {v : Value} {rules : List Rule}
    (h : Rule.ReadsAs vs rules) (hv : Holds vs v) (source : String) :
    ofValue source v = .ok rules := by
  cases hv with
  | list halike => exact ofEntries_eq_ok_iff.mpr (h.of_alike halike)
  | @rules entries halike =>
    have hlist : Value.lookup "rules" [(.text "rules", .list vs)] = some (.list vs) := rfl
    obtain ⟨w, hlookup, hw⟩ := halike.lookup_eq_some hlist
    cases hw with
    | @list _ ws items =>
      have hentries : ofValue source (.map entries) = ofEntries source 0 ws := by
        simp only [ofValue, Value.untied]
        rw [hlookup]
        rfl
      rw [hentries]
      exact ofEntries_eq_ok_iff.mpr (h.of_alike (.list items))

end ApiConformance
