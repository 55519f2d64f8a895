import ApiConformance.Proofs.Rule.Steady
import ApiConformance.Rule.Encode
import ApiConformance.System

/-!
A contract is read as a whole or not at all. Its rules are those that its entries stand for, each
read by itself; if some entry is no rule, reading stops at the first such entry, and what comes
after it is not looked at. Where the list of entries stands does not matter.
-/
namespace ApiConformance

/-! ### Entries -/

theorem Rule.exists_readsAs_iff {vs : List Value} :
    (∃ rules, ReadsAs vs rules) ↔ ∀ v ∈ vs, ∃ r, ofValue v = .ok r := by
  unfold ReadsAs
  induction vs with
  | nil => simp
  | cons v vs ih =>
    rw [List.forall_mem_cons, ← ih]
    constructor
    · rintro ⟨_, hrules⟩
      obtain ⟨r, rules, hv, hvs, -⟩ := List.forall₂_cons_left_iff.mp hrules
      exact ⟨⟨r, hv⟩, rules, hvs⟩
    · rintro ⟨⟨r, hv⟩, rules, hvs⟩
      exact ⟨r :: rules, .cons hv hvs⟩

/-- The entry of this index is no rule, for these problems, and all entries before it are rules. -/
def Rule.FirstInvalid (vs : List Value) (index : Nat) (problems : List Problem) : Prop :=
  ∃ before v after, vs = before ++ v :: after ∧ before.length = index ∧
    (∀ w ∈ before, ∃ r, ofValue w = .ok r) ∧ ofValue v = .failed problems

theorem Rule.exists_firstInvalid {vs : List Value} (h : ¬ ∃ rules, ReadsAs vs rules) :
    ∃ index problems, FirstInvalid vs index problems := by
  rw [exists_readsAs_iff] at h
  induction vs with
  | nil => exact absurd (List.forall_mem_nil _) h
  | cons v vs ih =>
    cases hv : ofValue v with
    | failed problems => exact ⟨0, problems, [], v, vs, rfl, rfl, List.forall_mem_nil _, hv⟩
    | ok r =>
      have hvs : ¬ ∀ w ∈ vs, ∃ r, ofValue w = .ok r := fun hvs =>
        h (List.forall_mem_cons.mpr ⟨⟨r, hv⟩, hvs⟩)
      obtain ⟨index, problems, before, w, after, rfl, hindex, hbefore, hw⟩ := ih hvs
      exact ⟨index + 1, problems, v :: before, w, after, rfl, by rw [List.length_cons, hindex],
        List.forall_mem_cons.mpr ⟨⟨r, hv⟩, hbefore⟩, hw⟩

namespace Contract

/-- The induction is on the entries that are read before the one that is no rule. -/
theorem ofEntries_of_firstInvalid {vs : List Value} {skipped : Nat} {problems : List Problem}
    (h : Rule.FirstInvalid vs skipped problems) (source : String) (index : Nat) :
    ofEntries source index vs = .error (.invalidRule source (index + skipped) problems) := by
  obtain ⟨before, v, after, rfl, rfl, hbefore, hv⟩ := h
  induction before generalizing index with
  | nil =>
    rw [List.nil_append, ofEntries, hv]
    rfl
  | cons w before ih =>
    obtain ⟨⟨r, hw⟩, hbefore⟩ := List.forall_mem_cons.mp hbefore
    rw [List.cons_append, ofEntries, hw]
    dsimp only
    rw [ih (index + 1) hbefore, List.length_cons, Nat.add_right_comm, Nat.add_assoc]
    rfl

theorem ofEntries_eq_error_iff {source : String} {vs : List Value} {e : ContractError} :
    ofEntries source 0 vs = .error e ↔
      ∃ index problems, Rule.FirstInvalid vs index problems ∧
        e = .invalidRule source index problems := by
  constructor
  · intro h
    have hinvalid : ¬ ∃ rules, Rule.ReadsAs vs rules := by
      rintro ⟨rules, hrules⟩
      rw [ofEntries_eq_ok_iff.mpr hrules] at h
      cases h
    obtain ⟨index, problems, hfirst⟩ := Rule.exists_firstInvalid hinvalid
    rw [ofEntries_of_firstInvalid hfirst, Nat.zero_add] at h
    exact ⟨index, problems, hfirst, (Except.error.inj h).symm⟩
  · rintro ⟨index, problems, hfirst, rfl⟩
    rw [ofEntries_of_firstInvalid hfirst, Nat.zero_add]

/-! ### Where the entries stand -/

theorem ofValue_of_list {v : Value} {vs : List Value} (h : v.untied = .list vs) (source : String) :
    ofValue source v = ofEntries source 0 vs := by
  rw [ofValue, h]

theorem ofValue_of_rules {v rules : Value} {entries : List (Atom × Value)} {vs : List Value}
    (h : v.untied = .map entries) (hrules : Value.lookup "rules" entries = some rules)
    (hlist : rules.untied = .list vs) (source : String) :
    ofValue source v = ofValue source rules := by
  rw [ofValue_of_list hlist, ofValue, h]
  simp only [hrules, Option.map_some, hlist]

theorem ofValue_of_noRules {v : Value} {entries : List (Atom × Value)}
    (h : v.untied = .map entries)
    (hrules : ∀ rules ∈ Value.lookup "rules" entries, ∀ vs, rules.untied ≠ .list vs)
    (source : String) : ofValue source v = .error (.noRuleList source) := by
  rw [ofValue, h]
  dsimp only
  split
  · rename_i vs hlist
    obtain ⟨rules, hlookup, hlist⟩ := Option.map_eq_some_iff.mp hlist
    exact absurd hlist (hrules rules hlookup vs)
  · rfl

theorem ofValue_of_noList {v : Value} (hnull : v.untied ≠ .null)
    (hlist : ∀ vs, v.untied ≠ .list vs) (hmap : ∀ entries, v.untied ≠ .map entries)
    (source : String) : ofValue source v = .error (.notList source) := by
  rw [ofValue]
  split
  · exact absurd ‹_› hnull
  · exact absurd ‹_› (hlist _)
  · exact absurd ‹_› (hmap _)
  · rfl

/-- A list of entries is read as rules exactly if each entry is one by itself, and then as these in
their order; otherwise the first that is none is named, with its own problems, whatever comes after
it. A map is read as its entry for rules is, whatever else it has. Maps without a list of them, and
all else but null, are refused. -/
theorem ofValue_allOrNothing (source : String) :
    (∀ v vs, v.untied = .list vs →
      ((∃ rules, ofValue source v = .ok rules) ↔ ∀ w ∈ vs, ∃ r, Rule.ofValue w = .ok r) ∧
      (∀ rules, ofValue source v = .ok rules ↔
        List.Forall₂ (fun w r => Rule.ofValue w = .ok r) vs rules) ∧
      ∀ e, ofValue source v = .error e ↔ ∃ index problems,
        Rule.FirstInvalid vs index problems ∧ e = .invalidRule source index problems) ∧
    (∀ v entries, v.untied = .map entries →
      (∀ rules ∈ Value.lookup "rules" entries, ∀ vs, rules.untied = .list vs →
        ofValue source v = ofValue source rules) ∧
      ((∀ rules ∈ Value.lookup "rules" entries, ∀ vs, rules.untied ≠ .list vs) →
        ofValue source v = .error (.noRuleList source))) ∧
    ∀ v, (v.untied = .null → ofValue source v = .ok []) ∧
      (v.untied ≠ .null → (∀ vs, v.untied ≠ .list vs) → (∀ entries, v.untied ≠ .map entries) →
        ofValue source v = .error (.notList source)) := by
  refine ⟨fun v vs hv => ?_, fun v entries hv => ⟨fun rules hrules vs hlist => ?_, fun hnone => ?_⟩,
    fun v => ⟨fun hnull => ?_, fun hnull hlist hmap => ?_⟩⟩
  · rw [ofValue_of_list hv]
    refine ⟨?_, fun rules => ofEntries_eq_ok_iff, fun e => ofEntries_eq_error_iff⟩
    simp only [ofEntries_eq_ok_iff]
    exact Rule.exists_readsAs_iff
  · exact ofValue_of_rules hv hrules hlist source
  · exact ofValue_of_noRules hv hnone source
  · rw [ofValue, hnull]
  · exact ofValue_of_noList hnull hlist hmap source

end Contract

/-! ### A ledger -/

def ledgerMirror : Rule := .mirror ⟨"old", "new", [.unlabeled], ["total"]⟩

/-- Shared types of one module alone, and the one name is not in a list. -/
def ledgerTypes : Value :=
  .object [("kind", .text "shared_types"), ("module_a", .text "old"), ("types", .text "Sum")]

def ledgerProblems : List Problem :=
  [⟨[.kind "shared_types", .key "module_b"], .missing⟩,
    ⟨[.kind "shared_types", .key "types"], .notTuple⟩]

/-- The types are refused for what is wrong with them, whatever is listed after them. -/
theorem ledger_refused :
    Contract.ofValue "ledger" (.list [ledgerMirror.toValue, ledgerMirror.toValue]) =
      .ok [ledgerMirror, ledgerMirror] ∧
    Rule.FirstInvalid [ledgerMirror.toValue, ledgerTypes] 1 ledgerProblems ∧
    (∀ after, Contract.ofValue "ledger" (.object [("owner", .null),
        ("rules", .list (ledgerMirror.toValue :: ledgerTypes :: after))]) =
      .error (.invalidRule "ledger" 1 ledgerProblems)) ∧
    (∀ (sys : System) (words : String),
      sys.remark (.invalidRule "ledger" 1 ledgerProblems) = some words →
      sys.tell (.invalidRule "ledger" 1 ledgerProblems) = "ledger: rule 1 is invalid: " ++ words) ∧
    Contract.ofValue "ledger" ledgerMirror.toValue = .error (.noRuleList "ledger") := by
  have hmirror : Rule.ofValue ledgerMirror.toValue = .ok ledgerMirror := by decide +kernel
  have htypes : Rule.ofValue ledgerTypes = .failed ledgerProblems := by decide +kernel
  have hfirst (after : List Value) :
      Rule.FirstInvalid (ledgerMirror.toValue :: ledgerTypes :: after) 1 ledgerProblems :=
    ⟨[ledgerMirror.toValue], ledgerTypes, after, rfl, rfl, by simp [hmirror], htypes⟩
  obtain ⟨hlist, hmap, -⟩ := Contract.ofValue_allOrNothing "ledger"
  have hmessage : (ContractError.invalidRule "ledger" 1 ledgerProblems).message =
      "ledger: rule 1 is invalid" := by decide +kernel
  refine ⟨?_, hfirst [], fun after => ?_, fun sys words hwords => ?_, ?_⟩
  · exact ((hlist _ _ rfl).2.1 _).mpr (.cons hmirror (.cons hmirror .nil))
  · rw [(hmap _ _ rfl).1 _ rfl _ rfl]
    exact ((hlist _ _ rfl).2.2 _).mpr ⟨1, ledgerProblems, hfirst after, rfl⟩
  · rw [System.tell, hwords, hmessage]
    rfl
  · exact (hmap _ _ rfl).2 nofun

end ApiConformance
