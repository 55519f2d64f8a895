/-!
Tables keep entries under distinct names, in the order in which the names first
came. Looking up does not depend on the order, and neither does the sorted view.
-/
namespace ApiConformance

structure Table (α : Type) where
  entries : List (String × α)
  nodup : (entries.map Prod.fst).Nodup
  deriving DecidableEq, Repr

namespace Table

variable {α β : Type}

def empty : Table α := ⟨[], by simp⟩

instance : Inhabited (Table α) := ⟨empty⟩

def names (t : Table α) : List String := t.entries.map Prod.fst

def get? (t : Table α) (name : String) : Option α := t.entries.lookup name

/-- Replaces the value under a name in place, or adds it last. -/
def putEntry (name : String) (value : α) : List (String × α) → List (String × α)
  | [] => [(name, value)]
  | (n, v) :: rest => if n = name then (n, value) :: rest else (n, v) :: putEntry name value rest

theorem mem_names_putEntry {name n : String} {value : α} {entries : List (String × α)} :
    n ∈ (putEntry name value entries).map Prod.fst ↔ n = name ∨ n ∈ entries.map Prod.fst := by
  induction entries with
  | nil => simp [putEntry]
  | cons e rest ih =>
    obtain ⟨m, v⟩ := e
    by_cases h : m = name
    · subst h; simp [putEntry]
    · simp only [putEntry, h, if_false, List.map_cons, List.mem_cons, ih]
      grind

theorem nodup_putEntry {name : String} {value : α} {entries : List (String × α)}
    (h : (entries.map Prod.fst).Nodup) : ((putEntry name value entries).map Prod.fst).Nodup := by
  induction entries with
  | nil => simp [putEntry]
  | cons e rest ih =>
    obtain ⟨m, v⟩ := e
    simp only [List.map_cons, List.nodup_cons] at h
    by_cases hm : m = name
    · subst hm
      rw [putEntry, if_pos rfl, List.map_cons, List.nodup_cons]
      exact h
    · simp only [putEntry, hm, if_false, List.map_cons, List.nodup_cons]
      refine ⟨fun hin => ?_, ih h.2⟩
      rcases mem_names_putEntry.1 hin with rfl | hin
      · exact hm rfl
      · exact h.1 hin

def put (t : Table α) (name : String) (value : α) : Table α :=
  ⟨putEntry name value t.entries, nodup_putEntry t.nodup⟩

/-- Of several entries under one name the last value stands, at the first one's place. -/
def ofList (entries : List (String × α)) : Table α :=
  entries.foldl (fun t (name, value) => t.put name value) empty

/-- One more under a name; under a name that is not there the count starts from zero. -/
def countOne (t : Table Nat) (name : String) : Table Nat :=
  t.put name ((t.get? name).getD 0 + 1)

def map (f : α → β) (t : Table α) : Table β :=
  ⟨t.entries.map fun (name, value) => (name, f value), by
    simpa [List.map_map, Function.comp_def] using t.nodup⟩

/-- The entries in ascending order of their names, by code points. -/
def sorted (t : Table α) : List (String × α) :=
  t.entries.mergeSort fun a b => decide (a.1 ≤ b.1)

end Table

end ApiConformance
