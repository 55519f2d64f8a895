import Mathlib.Data.List.Chain
import ApiConformance.Proofs.Canonical.Splitting

/-!
Pieces of a text, between marks that stand in none of them: a text of several pieces splits into
them again.
-/
namespace ApiConformance

theorem eq_of_notMem_append {m : Char} {p q r s : List Char} (hp : m ∉ p) (hq : m ∉ q)
    (h : p ++ m :: r = q ++ m :: s) : p = q ∧ r = s := by
  have hm : m ∉ {c : Char | c ≠ m} := fun h => h rfl
  have hne {p : List Char} (hp : m ∉ p) : ∀ c ∈ p, c ∈ {c : Char | c ≠ m} :=
    fun c hc hcm => hp (hcm ▸ hc)
  exact eq_of_append_cons_eq hm (hne hp) (hne hq) h

theorem notMem_intercalate {m : Char} {sep : List Char} (hsep : m ∉ sep)
    {pieces : List (List Char)} (h : ∀ p ∈ pieces, m ∉ p) : m ∉ sep.intercalate pieces := by
  cases pieces with
  | nil => exact List.not_mem_nil
  | cons p pieces =>
    obtain ⟨hp, hrest⟩ := List.forall_mem_cons.mp h
    rw [intercalate_cons, List.mem_append, not_or, List.mem_flatMap]
    refine ⟨hp, ?_⟩
    rintro ⟨q, hq, hm⟩
    rcases List.mem_append.mp hm with hm | hm
    · exact hsep hm
    · exact hrest q hq hm

/-- The pieces of a text between the places where two characters stand together, found from the
left. -/
def splitAtPair (a b : Char) : List Char → List (List Char)
  | [] => [[]]
  | [c] => [[c]]
  | c :: d :: rest =>
    if c = a ∧ d = b then [] :: splitAtPair a b rest
    else (splitAtPair a b (d :: rest)).modifyHead (c :: ·)

/-- A pair does not stand in a piece, nor begin with its last character. -/
def Whole (a b : Char) (piece : List Char) : Prop :=
  (piece ++ [a]).IsChain fun c d => ¬ (c = a ∧ d = b)

section

variable {a b c d : Char} {p q : List Char}

theorem Whole.of_notMem (h : a ∉ p) : Whole a b p := by
  unfold Whole
  induction p with
  | nil => exact List.isChain_singleton a
  | cons c p ih =>
    rw [List.mem_cons, not_or] at h
    rw [List.cons_append, List.isChain_cons]
    exact ⟨fun d _ hpair => h.1 hpair.1.symm, ih h.2⟩

/-- The first character of the pair may stand in a piece, if the second does not follow. -/
theorem Whole.append (hp : a ∉ p) (hd : d ≠ b) (hq : Whole a b (d :: q)) :
    Whole a b (p ++ a :: d :: q) := by
  unfold Whole at hq ⊢
  rw [List.append_assoc, List.cons_append]
  exact List.isChain_split.mpr
    ⟨Whole.of_notMem hp, List.isChain_cons_cons.mpr ⟨fun hpair => hd hpair.2, hq⟩⟩

theorem splitAtPair_cons_of_not (h : ¬ (c = a ∧ d = b)) :
    splitAtPair a b (c :: d :: p) = (splitAtPair a b (d :: p)).modifyHead (c :: ·) := by
  rw [splitAtPair, if_neg h]

theorem splitAtPair_append (h : Whole a b p) (rest : List Char) :
    splitAtPair a b (p ++ a :: b :: rest) = p :: splitAtPair a b rest := by
  induction p with
  | nil => rw [List.nil_append, splitAtPair, if_pos ⟨rfl, rfl⟩]
  | cons c p ih =>
    unfold Whole at h ih
    cases p with
    | nil =>
      obtain ⟨hpair, -⟩ := List.isChain_cons_cons.mp h
      rw [List.singleton_append, splitAtPair_cons_of_not hpair, splitAtPair, if_pos ⟨rfl, rfl⟩,
        List.modifyHead_cons]
    | cons d p =>
      obtain ⟨hpair, hrest⟩ := List.isChain_cons_cons.mp h
      rw [List.cons_append, List.cons_append, splitAtPair_cons_of_not hpair, ← List.cons_append,
        ih hrest, List.modifyHead_cons]

theorem splitAtPair_of_whole (h : Whole a b p) : splitAtPair a b p = [p] := by
  induction p with
  | nil => rfl
  | cons c p ih =>
    unfold Whole at h ih
    cases p with
    | nil => rfl
    | cons d p =>
      obtain ⟨hpair, hrest⟩ := List.isChain_cons_cons.mp h
      rw [splitAtPair_cons_of_not hpair, ih hrest, List.modifyHead_cons]

theorem splitAtPair_intercalate {pieces : List (List Char)} (hpieces : pieces ≠ [])
    (h : ∀ p ∈ pieces, Whole a b p) : splitAtPair a b ([a, b].intercalate pieces) = pieces := by
  induction pieces with
  | nil => exact absurd rfl hpieces
  | cons p pieces ih =>
    obtain ⟨hp, hrest⟩ := List.forall_mem_cons.mp h
    cases pieces with
    | nil => rw [List.intercalate_singleton, splitAtPair_of_whole hp]
    | cons q pieces =>
      rw [List.intercalate_cons_cons, List.append_assoc]
      exact (splitAtPair_append hp _).trans
        (congrArg (p :: ·) (ih (List.cons_ne_nil q pieces) hrest))

end

example : splitAtPair '\n' '\n' "a\nb\n\nc\n\n".toList = ["a\nb".toList, "c".toList, []] := by
  decide

end ApiConformance
