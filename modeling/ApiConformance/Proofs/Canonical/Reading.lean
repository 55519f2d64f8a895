import ApiConformance.Proofs.Canonical.Splitting
import ApiConformance.Proofs.Canonical.TwoPass
import ApiConformance.Proofs.Text.Decimal

/-!
Reading keys back. A key holds names as they are, between marks, so it can be read in one
way only if the characters of names leave enough of the marks to themselves. Texts are
read from the left, and each reading carries the text that is still to come: what follows
a name, a type or a parameter must not let it end at a later mark of the same kind.
-/
namespace ApiConformance

/-! ### Names -/

/-- The names are written in characters of a set. -/
def NamesIn (S : Set Char) (names : List String) : Prop :=
  ∀ name ∈ names, ∀ c ∈ name.toList, c ∈ S

@[simp] theorem namesIn_cons {S : Set Char} {name : String} {names : List String} :
    NamesIn S (name :: names) ↔ (∀ c ∈ name.toList, c ∈ S) ∧ NamesIn S names :=
  List.forall_mem_cons

@[simp] theorem namesIn_append {S : Set Char} {names names' : List String} :
    NamesIn S (names ++ names') ↔ NamesIn S names ∧ NamesIn S names' :=
  List.forall_mem_append

@[simp] theorem namesIn_flatMap {α : Type} {S : Set Char} {names : α → List String}
    {as : List α} : NamesIn S (as.flatMap names) ↔ ∀ a ∈ as, NamesIn S (names a) :=
  List.forall_mem_flatMap

/-- The characters leave the marks of a key readable. Apart from a bar and an opening
parenthesis, which always mislead, it takes several marks together to do so. -/
structure Legible (S : Set Char) : Prop where
  bar : '|' ∉ S
  paren : '(' ∉ S
  label : ',' ∉ S ∨ ':' ∉ S
  bracket : ',' ∉ S ∨ ')' ∉ S ∨ '<' ∉ S ∨ '>' ∉ S

theorem Legible.disjoint {S : Set Char} (hS : Legible S) (hcomma : ',' ∉ S) {w : List Char}
    (hw : ∀ c ∈ w, c ∈ S) : w.Disjoint [',', '(', '|'] := by
  intro c hc hmark
  have hcS := hw c hc
  simp only [List.mem_cons, List.not_mem_nil, or_false] at hmark
  rcases hmark with rfl | rfl | rfl
  · exact hcomma hcS
  · exact hS.paren hcS
  · exact hS.bar hcS

namespace TypeExpr

mutual

/-- The names in a type: those of packages, modules and types. -/
def names : TypeExpr → List String
  | .variable _ => []
  | .tuple elements => namesOf elements
  | .named package module name parameters => package :: module :: name :: namesOf parameters
  | .fn parameters result => namesOf parameters ++ result.names

def namesOf : List TypeExpr → List String
  | [] => []
  | t :: ts => t.names ++ namesOf ts

end

@[simp] theorem namesOf_eq_flatMap (ts : List TypeExpr) : namesOf ts = ts.flatMap names := by
  induction ts with
  | nil => rfl
  | cons t ts ih => rw [namesOf, ih, List.flatMap_cons]

end TypeExpr

/-- The names in a parameter, with what stands for an absent label. -/
def Parameter.names (p : Parameter) : List String := p.labelText :: p.type.names

def Constructor.names (c : Constructor) : List String :=
  c.name :: c.parameters.flatMap Parameter.names

def Declaration.names : Declaration → List String
  | .definition d => d.constructors.flatMap Constructor.names
  | .typeAlias a => a.aliased.names

/-! ### Types -/

namespace TypeExpr

variable {number : Int → Nat}

def chars (number : Int → Nat) (t : TypeExpr) : List Char := (t.render number).toList

theorem chars_var (id : Int) :
    chars number (.variable id) = 'v' :: Nat.toDigits 10 (number id) := by
  simp [chars, render, Text.natural]

theorem chars_tuple (elements : List TypeExpr) :
    chars number (.tuple elements) =
      "tuple".toList ++ '(' :: ([','].intercalate (elements.map (chars number)) ++ [')']) := by
  simp [chars, render, joined, Function.comp_def]
  rfl

theorem chars_named (package module name : String) (parameters : List TypeExpr) :
    chars number (.named package module name parameters) =
      "named".toList ++ '(' :: (package.toList ++ '|' :: (module.toList ++ '|' :: (name.toList
        ++ ')' :: '<' :: ([','].intercalate (parameters.map (chars number)) ++ ['>'])))) := by
  simp [chars, render, joined, Function.comp_def]
  rfl

theorem chars_fn (parameters : List TypeExpr) (result : TypeExpr) :
    chars number (.fn parameters result) =
      "fn".toList ++ '(' :: ([','].intercalate (parameters.map (chars number))
        ++ ')' :: '-' :: '>' :: result.chars number) := by
  simp [chars, render, joined, Function.comp_def]
  rfl

/-- A type begins with a variable, or else with a word before a parenthesis. -/
theorem chars_cases (number : Int → Nat) (t : TypeExpr) :
    (∃ n, t.chars number = 'v' :: Nat.toDigits 10 n) ∨
      ∃ word ∈ ["tuple", "named", "fn"], ∃ z, t.chars number = word.toList ++ '(' :: z := by
  cases t with
  | «variable» id => exact .inl ⟨_, chars_var id⟩
  | tuple elements => exact .inr ⟨_, by simp, _, chars_tuple elements⟩
  | named package module name parameters =>
    exact .inr ⟨_, by simp, _, chars_named package module name parameters⟩
  | fn parameters result => exact .inr ⟨_, by simp, _, chars_fn parameters result⟩

theorem chars_append_ne_cons {c : Char} (hc : c ∉ ['v', 't', 'n', 'f']) (t : TypeExpr)
    (r z : List Char) : t.chars number ++ r ≠ c :: z := by
  intro h
  rcases chars_cases number t with ⟨n, ht⟩ | ⟨word, hword, x, ht⟩
  · rw [ht, List.cons_append] at h
    obtain ⟨rfl, -⟩ := List.cons.inj h
    exact hc (by decide)
  · simp only [List.mem_cons, List.not_mem_nil, or_false] at hword
    rcases hword with rfl | rfl | rfl
    all_goals
      rw [ht] at h
      obtain ⟨rfl, -⟩ := List.cons.inj h
      exact hc (by decide)

/-- A mark in front of which no parenthesis opens comes after the whole of a type. -/
theorem eq_append_of_chars_append {m : Char} (hm : m ∈ [')', ':']) {t : TypeExpr}
    {r w z : List Char} (hw : '(' ∉ w) (h : t.chars number ++ r = w ++ m :: z) :
    ∃ a w', w = a ++ w' ∧ r = w' ++ m :: z := by
  rcases chars_cases number t with ⟨n, ht⟩ | ⟨word, hword, x, ht⟩
  · refine ⟨t.chars number, eq_append_of_notMem ?_ h⟩
    rw [ht, List.mem_cons, not_or]
    constructor
    · rintro rfl
      simp at hm
    · intro hmem
      have hdigit := Nat.isDigit_of_mem_toDigits (by decide) (by decide) hmem
      simp only [List.mem_cons, List.not_mem_nil, or_false] at hm
      rcases hm with rfl | rfl <;> contradiction
  · have hnot : m ∉ word.toList ++ ['('] := by
      simp only [List.mem_cons, List.not_mem_nil, or_false] at hm hword
      rcases hm with rfl | rfl <;> rcases hword with rfl | rfl | rfl <;> decide
    rw [ht, List.append_assoc, List.cons_append, List.append_cons word.toList] at h
    obtain ⟨w', rfl, -⟩ := eq_append_of_notMem hnot h
    exact absurd (by simp) hw

end TypeExpr

/-- The mark does not come up in the text before a comma, a parenthesis that opens or a bar. -/
def Blocks (m : Char) (ms r : List Char) : Prop :=
  ∀ w z, w.Disjoint [',', '(', '|'] → r ≠ w ++ m :: (ms ++ z)

namespace Blocks

variable {m : Char} {ms r : List Char}

theorem nil : Blocks m ms [] := by
  intro w z _ h
  simp at h

/-- A comma or a bar is as far as one has to look. -/
theorem cons_stop {c : Char} (hc : c ∈ [',', '(', '|']) (hm : c ≠ m) : Blocks m ms (c :: r) := by
  intro w z hw h
  cases w with
  | nil => exact hm (List.cons.inj h).1
  | cons d w =>
    obtain ⟨rfl, -⟩ := List.cons.inj h
    exact hw (.head w) hc

theorem cons {c : Char} (hc : c = m → ∀ z, r ≠ ms ++ z) (hr : Blocks m ms r) :
    Blocks m ms (c :: r) := by
  intro w z hw h
  cases w with
  | nil => exact hc (List.cons.inj h).1 z (List.cons.inj h).2
  | cons d w =>
    exact hr w z (List.disjoint_cons_left.mp hw).2 (List.cons.inj h).2

theorem chars_append {number : Int → Nat} (hm : m ∈ [')', ':']) (hr : Blocks m ms r)
    (t : TypeExpr) : Blocks m ms (t.chars number ++ r) := by
  intro w z hw h
  have hopen : '(' ∉ w := fun hmem => hw hmem (by simp)
  obtain ⟨a, w', rfl, hr'⟩ := TypeExpr.eq_append_of_chars_append hm hopen h
  exact hr w' z (List.disjoint_append_left.mp hw).2 hr'

end Blocks

/-- What may come after a type: nothing in it could be taken for a part of the type. -/
structure Closes (r : List Char) : Prop where
  head : ∀ c ∈ r.head?, c ∈ [',', ')', '>', '|']
  blocks : Blocks ')' ['<'] r

namespace Closes

variable {r : List Char}

theorem nil : Closes [] := ⟨by simp, .nil⟩

theorem comma (r : List Char) : Closes (',' :: r) := ⟨by simp, .cons_stop (by simp) (by decide)⟩

theorem bar (r : List Char) : Closes ('|' :: r) := ⟨by simp, .cons_stop (by simp) (by decide)⟩

theorem paren (hr : Closes r) : Closes (')' :: r) := by
  refine ⟨by simp, .cons (fun _ z h => ?_) hr.blocks⟩
  have hhead := hr.head
  simp [h] at hhead

theorem angle (hr : Closes r) : Closes ('>' :: r) :=
  ⟨by simp, .cons (fun h => absurd h (by decide)) hr.blocks⟩

theorem arrow {number : Int → Nat} (hr : Closes r) (t : TypeExpr) :
    Closes (')' :: '-' :: '>' :: (t.chars number ++ r)) := by
  refine ⟨by simp, .cons (fun _ z h => by simp at h) ?_⟩
  refine .cons (fun h => absurd h (by decide)) (.cons (fun h => absurd h (by decide)) ?_)
  exact hr.blocks.chars_append (by simp) t

/-- A number is read up to whatever closes a type. -/
theorem toDigits_eq {m n : Nat} {r s : List Char} (hr : Closes r) (hs : Closes s)
    (h : Nat.toDigits 10 m ++ r = Nat.toDigits 10 n ++ s) : m = n ∧ r = s := by
  have hdigits (n : Nat) : ∀ c ∈ Nat.toDigits 10 n, c.isDigit := fun c hc =>
    Nat.isDigit_of_mem_toDigits (by decide) (by decide) hc
  have hnone {r : List Char} (hr : Closes r) : ∀ c ∈ r.head?, ¬ c.isDigit := by
    intro c hc
    have hmark := hr.head c hc
    simp only [List.mem_cons, List.not_mem_nil, or_false] at hmark
    rcases hmark with rfl | rfl | rfl | rfl <;> decide
  obtain ⟨hnumbers, hrest⟩ :=
    eq_of_append_eq_of_all (hdigits m) (hdigits n) (hnone hr) (hnone hs) h
  exact ⟨toDigits_inj hnumbers, hrest⟩

end Closes

namespace TypeExpr

variable {f g : Int → Nat} {S : Set Char}

/-- Parameters end at an angle bracket, so a name without one would have to end in a type. -/
theorem parameters_ne_of_angle (hparen : '(' ∉ S) (hangle : '>' ∉ S) (ts : List TypeExpr)
    (r : List Char) (w z : List Char) (hw : ∀ c ∈ w, c ∈ S) :
    (ts.map (chars f)).flatMap ([','] ++ ·) ++ '>' :: r ≠ w ++ ')' :: z := by
  induction ts generalizing w with
  | nil =>
    intro h
    obtain ⟨w', rfl, -⟩ := eq_append_of_notMem (a := ['>']) (by decide) h
    exact hangle (hw '>' (by simp))
  | cons t ts ih =>
    intro h
    rw [List.map_cons, List.flatMap_cons, List.append_assoc, List.append_assoc] at h
    obtain ⟨w', rfl, htext⟩ := eq_append_of_notMem (by decide) h
    have hopen : '(' ∉ w' := fun hmem => hparen (hw _ (List.mem_append_right _ hmem))
    obtain ⟨a, w'', rfl, hrest⟩ := eq_append_of_chars_append (by simp) hopen htext
    exact ih w'' (fun c hc => hw c (by simp [hc])) hrest

theorem blocks_parameters (ts : List TypeExpr) {r : List Char} (hr : Closes r) :
    Blocks ')' ['<'] ([','].intercalate (ts.map (chars f)) ++ '>' :: r) := by
  cases ts with
  | nil => exact hr.angle.blocks
  | cons t ts =>
    rw [List.map_cons, intercalate_cons, List.append_assoc]
    exact (good_flatMap_append Closes.comma ts hr.angle).blocks.chars_append (by simp) t

/-- The name of a type does not run on into its parameters. -/
theorem parameters_ne (hS : Legible S) (ts : List TypeExpr) {r : List Char} (hr : Closes r)
    (w z : List Char) (hw : ∀ c ∈ ')' :: ['<'] ++ w, c ∈ S) :
    [','].intercalate (ts.map (chars f)) ++ '>' :: r ≠ w ++ ')' :: (['<'] ++ z) := by
  simp only [List.cons_append, List.nil_append, List.forall_mem_cons] at hw
  obtain ⟨hclose, hopen, hw⟩ := hw
  by_cases hcomma : ',' ∈ S
  · have hangle : '>' ∉ S := by simpa [hcomma, hclose, hopen] using hS.bracket
    cases ts with
    | nil => exact parameters_ne_of_angle (f := f) hS.paren hangle [] r w _ hw
    | cons t ts =>
      intro h
      rw [List.map_cons, intercalate_cons, List.append_assoc] at h
      have hparen : '(' ∉ w := fun hmem => hS.paren (hw _ hmem)
      obtain ⟨a, w', rfl, hrest⟩ := eq_append_of_chars_append (by simp) hparen h
      exact parameters_ne_of_angle hS.paren hangle ts r w' _
        (fun c hc => hw c (List.mem_append_right a hc)) hrest
  · exact blocks_parameters ts hr w z (hS.disjoint hcomma hw)

/-- Types in a list are read back if types are, up to a mark that closes the list. -/
theorem map_eq_of_chars_eq {ρ σ : Int → Int} {close : Char} (hclose : close ∈ [')', '>'])
    {ts us : List TypeExpr} {r s : List Char}
    (hread : ∀ t ∈ ts, ∀ u ∈ us, ∀ r s, Closes r → Closes s →
      t.chars f ++ r = u.chars g ++ s → t.rename ρ = u.rename σ ∧ r = s)
    (hr : Closes (close :: r)) (hs : Closes (close :: s))
    (h : [','].intercalate (ts.map (chars f)) ++ close :: r =
      [','].intercalate (us.map (chars g)) ++ close :: s) :
    ts.map (rename ρ) = us.map (rename σ) ∧ r = s := by
  have hcomma : close ≠ ',' := by rintro rfl; simp at hclose
  have hfirst : close ∉ ['v', 't', 'n', 'f'] := by
    simp only [List.mem_cons, List.not_mem_nil, or_false] at hclose
    rcases hclose with rfl | rfl <;> decide
  obtain ⟨hmap, hrest⟩ := map_eq_of_intercalate_eq hread Closes.comma hr hs
    (fun z h => hcomma (List.cons.inj h).1) (fun z h => hcomma (List.cons.inj h).1)
    (fun u _ z h => chars_append_ne_cons hfirst u z r h.symm)
    (fun t _ z h => chars_append_ne_cons hfirst t z s h.symm) h
  exact ⟨hmap, (List.cons.inj hrest).2⟩

/-- A type is read back from any text that begins with it. -/
theorem rename_eq_of_chars_eq (hS : Legible S) {t u : TypeExpr} (ht : NamesIn S t.names)
    (hu : NamesIn S u.names) {r s : List Char} (hr : Closes r) (hs : Closes s)
    (h : t.chars f ++ r = u.chars g ++ s) :
    t.rename (f ·) = u.rename (g ·) ∧ r = s := by
  induction t using TypeExpr.induction generalizing u r s with
  | var id =>
    cases u with
    | «variable» id' =>
      rw [chars_var, chars_var] at h
      obtain ⟨hnumber, hrest⟩ := hr.toDigits_eq hs (List.cons.inj h).2
      exact ⟨by rw [rename, rename, hnumber], hrest⟩
    | tuple | named | fn => simp [chars_var, chars_tuple, chars_named, chars_fn] at h
  | tuple elements ih =>
    cases u with
    | tuple elements' =>
      simp only [names, namesOf_eq_flatMap, namesIn_flatMap] at ht hu
      rw [chars_tuple, chars_tuple] at h
      simp only [List.append_assoc, List.cons_append, List.append_cancel_left_eq, List.cons.injEq,
        true_and, List.nil_append] at h
      obtain ⟨hmap, hrest⟩ := map_eq_of_chars_eq (by simp)
        (fun t htmem u humem r s hr hs h => ih t htmem (ht t htmem) (hu u humem) hr hs h)
        hr.paren hs.paren h
      exact ⟨by rw [rename, rename, renameAll_eq_map, renameAll_eq_map, hmap], hrest⟩
    | «variable» | named | fn => simp [chars_var, chars_tuple, chars_named, chars_fn] at h
  | named package module name parameters ih =>
    cases u with
    | named package' module' name' parameters' =>
      simp only [names, namesOf_eq_flatMap, namesIn_cons, namesIn_flatMap] at ht hu
      obtain ⟨hp, hm, hn, ht⟩ := ht
      obtain ⟨hp', hm', hn', hu⟩ := hu
      rw [chars_named, chars_named] at h
      simp only [List.append_assoc, List.cons_append, List.append_cancel_left_eq, List.cons.injEq,
        true_and, List.nil_append] at h
      obtain ⟨hpackage, h⟩ := eq_of_append_cons_eq hS.bar hp hp' h
      obtain ⟨hmodule, h⟩ := eq_of_append_cons_eq hS.bar hm hm' h
      obtain ⟨hname, h⟩ := eq_of_append_mark_eq (by decide) hn hn'
        (parameters_ne hS parameters hr) (parameters_ne hS parameters' hs) h
      obtain ⟨hmap, hrest⟩ := map_eq_of_chars_eq (by simp)
        (fun t htmem u humem r s hr hs h => ih t htmem (ht t htmem) (hu u humem) hr hs h)
        hr.angle hs.angle h
      rw [String.toList_inj] at hpackage hmodule hname
      exact ⟨by rw [rename, rename, renameAll_eq_map, renameAll_eq_map, hpackage, hmodule, hname,
        hmap], hrest⟩
    | «variable» | tuple | fn => simp [chars_var, chars_tuple, chars_named, chars_fn] at h
  | fn parameters result ih ihresult =>
    cases u with
    | fn parameters' result' =>
      simp only [names, namesOf_eq_flatMap, namesIn_append, namesIn_flatMap] at ht hu
      rw [chars_fn, chars_fn] at h
      simp only [List.append_assoc, List.cons_append, List.append_cancel_left_eq, List.cons.injEq,
        true_and] at h
      obtain ⟨hmap, h⟩ := map_eq_of_chars_eq (by simp)
        (fun t htmem u humem r s hr hs h => ih t htmem (ht.1 t htmem) (hu.1 u humem) hr hs h)
        (hr.arrow result) (hs.arrow result') h
      obtain ⟨hresult, hrest⟩ := ihresult ht.2 hu.2 hr hs (by simpa using h)
      exact ⟨by rw [rename, rename, renameAll_eq_map, renameAll_eq_map, hmap, hresult], hrest⟩
    | «variable» | tuple | named => simp [chars_var, chars_tuple, chars_named, chars_fn] at h

end TypeExpr

end ApiConformance
