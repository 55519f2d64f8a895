import Mathlib.Algebra.Order.Ring.Nat
import ApiConformance.Proofs.Lookup
import ApiConformance.Proofs.Violation.Readable

/-!
What the summary of violations tells, where there is one. Kinds are counted one violation at a time;
the count under a name only goes up when a violation of that kind is met, so in the end it is the
number of those violations, in whatever order they came.
-/
namespace ApiConformance

/-! ### Counting -/

namespace Table

theorem get?_countOne (t : Table Nat) (name other : String) :
    (t.countOne name).get? other =
      if other = name then some ((t.get? name).getD 0 + 1) else t.get? other :=
  get?_put t name other _

/-- All counts together. -/
def total (t : Table Nat) : Nat := (t.entries.map Prod.snd).sum

theorem total_countOne (t : Table Nat) (name : String) :
    (t.countOne name).total = t.total + 1 := by
  obtain ⟨entries, nodup⟩ := t
  unfold countOne total put get?
  dsimp only
  clear nodup
  induction entries with
  | nil => rfl
  | cons first rest ih =>
    obtain ⟨n, count⟩ := first
    rw [List.lookup_cons]
    by_cases hn : n = name
    · rw [hn, beq_self_eq_true, putEntry, if_pos rfl, List.map_cons, List.map_cons, List.sum_cons,
        List.sum_cons]
      exact Nat.add_right_comm _ _ _
    · have hbeq : (name == n) = false := beq_eq_false_iff_ne.mpr (Ne.symm hn)
      rw [hbeq, putEntry, if_neg hn, List.map_cons, List.map_cons, List.sum_cons, List.sum_cons,
        ih, Nat.add_assoc]

theorem sum_sorted (t : Table Nat) : (t.sorted.map Prod.snd).sum = t.total :=
  ((List.mergeSort_perm t.entries _).map Prod.snd).sum_nat

end Table

namespace Violation

theorem Kind.text_injective : Function.Injective Kind.text := by
  intro a b h
  cases a <;> cases b <;> simp [text] at h ⊢

/-- How many violations there are whose kind has a given name. -/
def occurrences (vs : List Violation) (name : String) : Nat :=
  vs.countP fun v => v.kind.text = name

theorem occurrences_text (vs : List Violation) (kind : Kind) :
    occurrences vs kind.text = vs.countP fun v => v.kind = kind := by
  unfold occurrences
  simp only [Kind.text_injective.eq_iff]

theorem occurrences_append (vs ws : List Violation) (name : String) :
    occurrences (vs ++ ws) name = occurrences vs name + occurrences ws name :=
  List.countP_append

theorem occurrences_ne_zero {vs : List Violation} {name : String} :
    occurrences vs name ≠ 0 ↔ ∃ v ∈ vs, v.kind.text = name := by
  rw [← Nat.pos_iff_ne_zero, occurrences, List.countP_pos_iff]
  simp only [decide_eq_true_eq]

theorem tally_append_singleton (vs : List Violation) (v : Violation) :
    tally (vs ++ [v]) = (tally vs).countOne v.kind.text := by
  rw [tally, List.foldl_append]
  rfl

/-- Under a name there is nothing if no violation is of that kind, and else how many are. -/
theorem get?_tally (vs : List Violation) (name : String) :
    (tally vs).get? name =
      if occurrences vs name = 0 then none else some (occurrences vs name) := by
  induction vs using List.reverseRecOn with
  | nil => rfl
  | append_singleton vs v ih =>
    rw [tally_append_singleton, Table.get?_countOne, occurrences_append]
    by_cases hname : name = v.kind.text
    · have hone : occurrences [v] name = 1 := by simp [occurrences, hname]
      have hcounted : ((tally vs).get? name).getD 0 = occurrences vs name := by
        rw [ih]
        split
        · rename_i hzero
          exact hzero.symm
        · rfl
      rw [if_pos hname, ← hname, hcounted, hone, if_neg (Nat.succ_ne_zero _)]
    · have hnone : occurrences [v] name = 0 := by simp [occurrences, Ne.symm hname]
      rw [if_neg hname, ih, hnone, Nat.add_zero]

theorem total_tally (vs : List Violation) : (tally vs).total = vs.length := by
  induction vs using List.reverseRecOn with
  | nil => rfl
  | append_singleton vs v ih =>
    rw [tally_append_singleton, Table.total_countOne, ih, List.length_append]
    rfl

/-- Counts of violations in two parts are the counts of the parts, added up where both have one. -/
theorem get?_tally_append (vs ws : List Violation) (name : String) :
    (tally (vs ++ ws)).get? name =
      Option.merge (· + ·) ((tally vs).get? name) ((tally ws).get? name) := by
  simp only [get?_tally, occurrences_append]
  by_cases hv : occurrences vs name = 0 <;> by_cases hw : occurrences ws name = 0 <;>
    simp [hv, hw, Option.merge]

theorem get?_tally_of_perm {vs ws : List Violation} (h : vs.Perm ws) (name : String) :
    (tally vs).get? name = (tally ws).get? name := by
  rw [get?_tally, get?_tally, occurrences, occurrences, h.countP_eq]

end Violation

/-! ### Summaries -/

namespace Report

/-- What a summary tells of violations. The entries of `counts` are one for each kind that occurs:
its name, and how many of the violations are of that kind. -/
structure Summarizes (r : Report) (vs : List Violation) : Prop where
  violations : r.violations = vs
  count : r.count = vs.length
  ok_iff : r.ok = true ↔ vs = []
  count_iff : r.count = 0 ↔ vs = []
  counts_iff : r.counts = [] ↔ vs = []
  text_iff : r.text = "PASS: all surface contracts hold" ↔ vs = []
  ascending : r.counts.Pairwise fun a b => a.1 < b.1
  counted : ∀ entry, entry ∈ r.counts ↔
    ∃ v ∈ vs, entry = (v.kind.text, vs.countP fun w => w.kind = v.kind)
  total : (r.counts.map Prod.snd).sum = r.count

theorem mem_counts_ofViolations {vs : List Violation} {entry : String × Nat} :
    entry ∈ (ofViolations vs).counts ↔
      ∃ v ∈ vs, entry = (v.kind.text, vs.countP fun w => w.kind = v.kind) := by
  obtain ⟨name, n⟩ := entry
  have hfound : (name, n) ∈ (ofViolations vs).counts ↔
      Violation.occurrences vs name ≠ 0 ∧ Violation.occurrences vs name = n := by
    refine Table.mem_sorted.trans ?_
    rw [Violation.get?_tally]
    split <;> simp_all
  rw [hfound, Violation.occurrences_ne_zero]
  constructor
  · rintro ⟨⟨v, hv, rfl⟩, rfl⟩
    exact ⟨v, hv, by rw [Violation.occurrences_text]⟩
  · rintro ⟨v, hv, hentry⟩
    obtain ⟨rfl, rfl⟩ := Prod.mk.inj hentry
    exact ⟨⟨v, hv, rfl⟩, Violation.occurrences_text vs v.kind⟩

theorem counts_ofViolations_eq_nil {vs : List Violation} :
    (ofViolations vs).counts = [] ↔ vs = [] := by
  constructor
  · intro h
    refine List.eq_nil_iff_forall_not_mem.mpr fun v hv => ?_
    have hentry := mem_counts_ofViolations.mpr ⟨v, hv, rfl⟩
    rw [h] at hentry
    cases hentry
  · rintro rfl
    exact List.mergeSort_nil

theorem ofViolations_summarizes (vs : List Violation) : (ofViolations vs).Summarizes vs where
  violations := rfl
  count := rfl
  ok_iff := List.isEmpty_iff
  count_iff := List.length_eq_zero_iff
  counts_iff := counts_ofViolations_eq_nil
  text_iff := reportText_eq_pass_iff
  ascending := (Violation.tally vs).pairwise_lt_sorted
  counted _ := mem_counts_ofViolations
  total := (Violation.tally vs).sum_sorted.trans (Violation.total_tally vs)

theorem lookup_counts_ofViolations (vs : List Violation) (name : String) :
    (ofViolations vs).counts.lookup name = (Violation.tally vs).get? name :=
  (Violation.tally vs).lookup_sorted name

/-- There is a summary exactly if every violation can be written, and then it agrees with the
violations. The counts of violations in two parts are the counts of the parts put together, sums
where both have a count; and the order of the violations does not show in them. -/
theorem build_consistent (vs : List Violation) :
    ((∃ r, build vs = .ok r) ↔ ∀ v ∈ vs, v.IsWritable) ∧
    ∀ r, build vs = .ok r →
      r.Summarizes vs ∧
      (∀ ws s, build ws = .ok s → ∃ t, build (vs ++ ws) = .ok t ∧
        ∀ name, t.counts.lookup name =
          Option.merge (· + ·) (r.counts.lookup name) (s.counts.lookup name)) ∧
      ∀ ws, vs.Perm ws → ∃ s, build ws = .ok s ∧ s.counts = r.counts := by
  simp only [build_eq_ok_iff]
  refine ⟨⟨fun ⟨_, h, _⟩ => h, fun h => ⟨_, h, rfl⟩⟩, ?_⟩
  rintro _ ⟨hvs, rfl⟩
  refine ⟨ofViolations_summarizes vs, ?_, ?_⟩
  · rintro ws _ ⟨hws, rfl⟩
    refine ⟨_, ⟨List.forall_mem_append.mpr ⟨hvs, hws⟩, rfl⟩, fun name => ?_⟩
    rw [lookup_counts_ofViolations, lookup_counts_ofViolations, lookup_counts_ofViolations,
      Violation.get?_tally_append]
  · intro ws hperm
    refine ⟨_, ⟨fun w hw => hvs w (hperm.mem_iff.mpr hw), rfl⟩, ?_⟩
    exact (Table.sorted_eq_of_get?_eq (Violation.get?_tally_of_perm hperm)).symm

end Report

/-! ### A round of complaints -/

def complaints : List Violation := [
  .moduleNotFound "attic", .missingExport "hall" "lamp" 2, .moduleNotFound "attic",
  .loadFailure "house.json" .read "gone"]

/-- Of the complaints two are of one kind, and they are counted alike from last to first, and twice
when they are made twice. -/
theorem complaints_consistent :
    complaints.Perm complaints.reverse ∧
    ∃ r, Report.build complaints = .ok r ∧ r.Summarizes complaints ∧
      ("module_not_found", 2) ∈ r.counts ∧
      (∃ s, Report.build complaints.reverse = .ok s ∧ s.counts = r.counts) ∧
      ∃ t, Report.build (complaints ++ complaints) = .ok t ∧
        t.counts.lookup "module_not_found" =
          Option.merge (· + ·) (r.counts.lookup "module_not_found")
            (r.counts.lookup "module_not_found") := by
  have hreversed : complaints.Perm complaints.reverse := (List.reverse_perm complaints).symm
  obtain ⟨hbuilt, htold⟩ := Report.build_consistent complaints
  obtain ⟨r, hr⟩ := hbuilt.mpr (by decide +kernel)
  obtain ⟨hsummarizes, hparts, hperm⟩ := htold r hr
  obtain ⟨t, ht, hlookup⟩ := hparts complaints r hr
  refine ⟨hreversed, r, hr, hsummarizes, ?_, hperm complaints.reverse hreversed, t, ht, hlookup _⟩
  exact (hsummarizes.counted _).mpr ⟨.moduleNotFound "attic", .head _, by decide⟩

/-- A summary that there is not: there is no report on an export of so many parameters that their
number cannot be written. -/
theorem hugeExport_unsummarized : ¬ ∃ r, Report.build [hugeExport] = .ok r := by
  rintro ⟨r, h⟩
  exact Violation.not_isWritable_pow "m" "f" ((Report.build_eq_ok_iff.mp h).1 _ (.head _))

end ApiConformance
