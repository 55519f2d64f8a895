import ApiConformance.Validation.Problem

/-!
Decoding that finds every problem. Parts are decoded side by side, so a problem
in one does not hide those of the next; problems come in the order of the parts.
-/
namespace ApiConformance

inductive Checked (α : Type) where
  | ok (a : α)
  | failed (problems : List Problem)
  deriving DecidableEq, Repr

namespace Checked

variable {α β : Type}

protected def map (f : α → β) : Checked α → Checked β
  | .ok a => .ok (f a)
  | .failed ps => .failed ps

protected def seq (f : Checked (α → β)) (x : Checked α) : Checked β :=
  match f, x with
  | .ok f, .ok a => .ok (f a)
  | .ok _, .failed ps => .failed ps
  | .failed ps, .ok _ => .failed ps
  | .failed ps, .failed qs => .failed (ps ++ qs)

instance : Applicative Checked where
  pure := .ok
  map := Checked.map
  seq f x := Checked.seq f (x ())

@[simp] theorem map_ok (f : α → β) (a : α) : f <$> Checked.ok a = .ok (f a) := rfl
@[simp] theorem map_failed (f : α → β) (ps : List Problem) :
    f <$> (Checked.failed ps : Checked α) = .failed ps := rfl
@[simp] theorem ok_seq (f : α → β) (x : Checked α) : Checked.ok f <*> x = f <$> x := by
  cases x <;> rfl
@[simp] theorem failed_seq_ok (ps : List Problem) (a : α) :
    (Checked.failed ps : Checked (α → β)) <*> .ok a = .failed ps := rfl
@[simp] theorem failed_seq_failed (ps qs : List Problem) :
    (Checked.failed ps : Checked (α → β)) <*> (.failed qs : Checked α) = .failed (ps ++ qs) := rfl

/-- Problems add up in the order of the parts, however the parts are put together. -/
instance : LawfulApplicative Checked where
  map_const := rfl
  id_map x := by cases x <;> rfl
  seqLeft_eq _ _ := rfl
  seqRight_eq _ _ := rfl
  pure_seq f x := by cases x <;> rfl
  map_pure _ _ := rfl
  seq_pure f _ := by cases f <;> rfl
  seq_assoc x g h := by
    cases x <;> cases g <;> cases h <;> simp [Functor.map, Checked.map, Seq.seq, Checked.seq]
  comp_map f g x := by cases x <;> rfl

/-- Moves every problem below one more step. -/
def under (step : Step) : Checked α → Checked α
  | .ok a => .ok a
  | .failed ps => .failed (ps.map fun p => { p with location := step :: p.location })

/-- A single problem at the value itself. -/
def fault (f : Fault) : Checked α := .failed [⟨[], f⟩]

/-- All of a list, or every problem of its members. -/
def all : List (Checked α) → Checked (List α)
  | [] => .ok []
  | x :: xs => List.cons <$> x <*> all xs

@[simp] theorem all_nil : all ([] : List (Checked α)) = .ok [] := rfl
@[simp] theorem all_cons (x : Checked α) (xs : List (Checked α)) :
    all (x :: xs) = List.cons <$> x <*> all xs := rfl

end Checked

end ApiConformance
