import Mathlib.Data.List.Forall2
import ApiConformance.Proofs.Text.Decimal
import ApiConformance.Violation.Report

/-!
What can be put in words: every violation but one on an arity of more digits than are ever written,
and every report on violations that can. The words are then the ones that there would be whatever
the length of the integers.
-/
namespace ApiConformance

theorem mapM_eq_ok {α β ε : Type} {f : α → Except ε β} {as : List α} {bs : List β} :
    as.mapM f = .ok bs ↔ List.Forall₂ (fun a b => f a = .ok b) as bs := by
  induction as generalizing bs with
  | nil => simp [pure, Except.pure, List.forall₂_nil_left_iff, eq_comm]
  | cons a as ih =>
    rw [List.mapM_cons, List.forall₂_cons_left_iff]
    cases ha : f a with
    | error e => simp [bind, Except.bind]
    | ok b =>
      cases has : as.mapM f with
      | error e => simp [bind, Except.bind, ← ih, has]
      | ok rest => simp [bind, Except.bind, pure, Except.pure, ← ih, has, eq_comm]

theorem map_eq_ok {α β ε : Type} {f : α → β} {x : Except ε α} {b : β} :
    x.map f = .ok b ↔ ∃ a, x = .ok a ∧ f a = b := by
  cases x <;> simp [Except.map]

namespace Violation

/-- An arity in a violation has no more digits than are ever written. -/
def IsWritable : Violation → Prop
  | .missingExport _ _ arity => Text.isWritable arity = true
  | _ => True

theorem overlong?_eq_none_iff {v : Violation} : v.overlong? = none ↔ v.IsWritable := by
  cases v <;> simp [overlong?, IsWritable]

instance : DecidablePred IsWritable := fun _ => decidable_of_iff _ overlong?_eq_none_iff

theorem write_eq_ok_iff {v : Violation} {text : String} :
    v.write = .ok text ↔ v.IsWritable ∧ v.paragraph = text := by
  rw [write, ← overlong?_eq_none_iff]
  split
  next n hn => simp [hn]
  next hn => simp [hn]

theorem forall₂_write {vs : List Violation} {texts : List String} :
    List.Forall₂ (fun v text => v.write = .ok text) vs texts ↔
      (∀ v ∈ vs, v.IsWritable) ∧ vs.map paragraph = texts := by
  simp only [write_eq_ok_iff]
  induction vs generalizing texts with
  | nil => simp [List.forall₂_nil_left_iff, eq_comm]
  | cons v vs ih =>
    rw [List.forall₂_cons_left_iff, List.forall_mem_cons, List.map_cons]
    constructor
    · rintro ⟨text, rest, ⟨hv, rfl⟩, hrest, rfl⟩
      obtain ⟨hvs, rfl⟩ := ih.mp hrest
      exact ⟨⟨hv, hvs⟩, rfl⟩
    · rintro ⟨⟨hv, hvs⟩, rfl⟩
      exact ⟨_, _, ⟨hv, rfl⟩, ih.mpr ⟨hvs, rfl⟩, rfl⟩

/-- An arity of one digit too many. -/
theorem not_isWritable_pow (module name : String) :
    ¬ (missingExport module name ((10 ^ Text.maxDigits : Nat) : Int)).IsWritable := by
  rw [IsWritable, Text.isWritable_iff, Int.natAbs_natCast]
  exact Nat.lt_irrefl _

end Violation

section

variable {vs : List Violation}

theorem writeReport_eq_ok_iff {text : String} :
    writeReport vs = .ok text ↔ (∀ v ∈ vs, v.IsWritable) ∧ reportText vs = text := by
  unfold writeReport reportText
  split
  next hempty => simp [List.isEmpty_iff.mp hempty]
  next =>
    rw [writeParagraphs, paragraphs, map_eq_ok]
    simp only [mapM_eq_ok, Violation.forall₂_write]
    constructor
    · rintro ⟨_, ⟨hvs, rfl⟩, rfl⟩
      exact ⟨hvs, rfl⟩
    · rintro ⟨hvs, rfl⟩
      exact ⟨_, ⟨hvs, rfl⟩, rfl⟩

theorem Report.build_eq_ok_iff {r : Report} :
    build vs = .ok r ↔ (∀ v ∈ vs, v.IsWritable) ∧ ofViolations vs = r := by
  rw [build, map_eq_ok]
  simp only [writeReport_eq_ok_iff]
  constructor
  · rintro ⟨_, ⟨hvs, rfl⟩, rfl⟩
    exact ⟨hvs, rfl⟩
  · rintro ⟨hvs, rfl⟩
    exact ⟨_, ⟨hvs, rfl⟩, rfl⟩

end

end ApiConformance
