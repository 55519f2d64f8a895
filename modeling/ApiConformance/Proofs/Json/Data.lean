import ApiConformance.Proofs.Json.Stops
import ApiConformance.Proofs.Text.Decimal
import ApiConformance.Proofs.Value.Alike
import ApiConformance.Value.Display

/-!
What JSON text holds: null, truth values, numbers and texts, lists of such data, and maps of it
under texts that are distinct. The integers are none that are too long to be written.
-/
namespace ApiConformance

/-- Data that JSON can hold. -/
inductive Value.IsJson : Value → Prop where
  | null : IsJson .null
  | bool (b : Bool) : IsJson (.bool b)
  | int (n : Int) : IsJson (.int n)
  | real (x : Binary64) : IsJson (.real x)
  | text (s : String) : IsJson (.text s)
  | list {vs : List Value} (items : ∀ v ∈ vs, IsJson v) : IsJson (.list vs)
  | map {entries : List (Atom × Value)} (keys : ∀ entry ∈ entries, ∃ name, entry.1 = .text name)
      (distinct : (entries.map Prod.fst).Nodup) (values : ∀ entry ∈ entries, IsJson entry.2) :
      IsJson (.map entries)

attribute [simp] Value.IsJson.null Value.IsJson.bool Value.IsJson.int Value.IsJson.real
  Value.IsJson.text

theorem Value.IsJson.alike_self {v : Value} (h : v.IsJson) : v.Alike v := by
  induction h with
  | null | bool | int | real | text => exact .atom _
  | list _ ih => exact .list (List.forall₂_same.mpr ih)
  | map _ distinct _ ih =>
    refine .map distinct (.refl _) rfl (List.forall₂_same.mpr fun v hv => ?_)
    obtain ⟨entry, hentry, rfl⟩ := List.mem_map.mp hv
    exact ih entry hentry

theorem Value.isJson_object {fields : List (String × Value)} (hnames : (fields.map Prod.fst).Nodup)
    (hvalues : ∀ field ∈ fields, field.2.IsJson) : (object fields).IsJson := by
  refine .map (fun entry hentry => ?_) ?_ fun entry hentry => ?_
  · obtain ⟨field, -, rfl⟩ := List.mem_map.mp hentry
    exact ⟨field.1, rfl⟩
  · have hkeys : ((fields.map Prod.fst).map Atom.text).Nodup :=
      hnames.map fun _ _ h => Atom.text.inj h
    rwa [List.map_map] at hkeys ⊢
  · obtain ⟨field, hfield, rfl⟩ := List.mem_map.mp hentry
    exact hvalues field hfield

theorem Value.IsJson.of_mem_object {fields : List (String × Value)} (h : (object fields).IsJson)
    {field : String × Value} (hfield : field ∈ fields) : field.2.IsJson := by
  cases h with
  | map _ _ values => exact values _ (List.mem_map_of_mem hfield)

/-! ### Maps under construction -/

theorem Value.mem_put {entries : List (Atom × Value)} {key : Atom} {value : Value}
    {entry : Atom × Value} (h : entry ∈ put entries key value) :
    entry = (key, value) ∨ entry ∈ entries := by
  induction entries with
  | nil => exact .inl (List.mem_singleton.mp h)
  | cons first rest ih =>
    obtain ⟨k, v⟩ := first
    unfold put at h
    split at h
    · rename_i hk
      rw [hk] at h
      exact (List.mem_cons.mp h).imp_right (List.mem_cons_of_mem _)
    · rcases List.mem_cons.mp h with rfl | h
      · exact .inr (.head _)
      · exact (ih h).imp_right (List.mem_cons_of_mem _)

theorem Value.nodup_put {entries : List (Atom × Value)} {key : Atom} {value : Value}
    (h : (entries.map Prod.fst).Nodup) : ((put entries key value).map Prod.fst).Nodup := by
  induction entries with
  | nil => exact List.nodup_singleton key
  | cons first rest ih =>
    obtain ⟨k, v⟩ := first
    rw [List.map_cons, List.nodup_cons] at h
    unfold put
    split
    · rwa [List.map_cons, List.nodup_cons]
    next hk =>
      rw [List.map_cons, List.nodup_cons]
      refine ⟨fun hmem => ?_, ih h.2⟩
      obtain ⟨entry, hentry, hkey⟩ := List.mem_map.mp hmem
      rcases mem_put hentry with rfl | hentry
      · exact hk hkey.symm
      · exact h.1 (hkey ▸ List.mem_map_of_mem hentry)

theorem Value.IsJson.put {entries : List (Atom × Value)} (h : (Value.map entries).IsJson)
    {v : Value} (hv : v.IsJson) (name : String) :
    (Value.map (Value.put entries (.text name) v)).IsJson := by
  cases h with
  | map keys distinct values =>
    refine .map (fun entry hentry => ?_) (nodup_put distinct) fun entry hentry => ?_
    · rcases mem_put hentry with rfl | hentry
      · exact ⟨name, rfl⟩
      · exact keys entry hentry
    · rcases mem_put hentry with rfl | hentry
      · exact hv
      · exact values entry hentry

/-! ### Data that can be written -/

namespace Value

theorem isWritable_int (n : Int) : (Value.int n).isWritable = Text.isWritable n := by
  rw [int, isWritable, Atom.isWritable]

theorem areWritable_iff {vs : List Value} :
    areWritable vs = true ↔ ∀ v ∈ vs, v.isWritable = true := by
  induction vs with
  | nil => simp [areWritable]
  | cons first rest ih => rw [areWritable, Bool.and_eq_true, ih, List.forall_mem_cons]

theorem entriesAreWritable_iff {entries : List (Atom × Value)} :
    entriesAreWritable entries = true ↔
      ∀ entry ∈ entries, entry.1.isWritable = true ∧ entry.2.isWritable = true := by
  induction entries with
  | nil => simp [entriesAreWritable]
  | cons first rest ih =>
    rw [entriesAreWritable, Bool.and_eq_true, Bool.and_eq_true, ih, List.forall_mem_cons]

theorem isWritable_put {entries : List (Atom × Value)} (h : (Value.map entries).isWritable = true)
    {v : Value} (hv : v.isWritable = true) (name : String) :
    (Value.map (Value.put entries (.text name) v)).isWritable = true := by
  rw [isWritable, entriesAreWritable_iff] at h ⊢
  intro entry hentry
  rcases mem_put hentry with rfl | hentry
  · exact ⟨rfl, hv⟩
  · exact h entry hentry

end Value

/-- Data that JSON can hold, with no integer in it that is too long to be written. -/
def Value.IsRead (v : Value) : Prop := v.IsJson ∧ v.isWritable = true

namespace Value.IsRead

theorem text (s : String) : (Value.text s).IsRead := ⟨.text s, rfl⟩

theorem list {vs : List Value} (h : ∀ v ∈ vs, v.IsRead) : (Value.list vs).IsRead :=
  ⟨.list fun v hv => (h v hv).1, areWritable_iff.mpr fun v hv => (h v hv).2⟩

theorem noEntries : (Value.map []).IsRead := ⟨.map nofun .nil nofun, rfl⟩

theorem put {entries : List (Atom × Value)} (h : (Value.map entries).IsRead) {v : Value}
    (hv : v.IsRead) (name : String) : (Value.map (Value.put entries (.text name) v)).IsRead :=
  ⟨h.1.put hv.1 name, isWritable_put h.2 hv.2 name⟩

theorem of_mem_list {vs : List Value} (h : (Value.list vs).IsRead) {v : Value} (hv : v ∈ vs) :
    v.IsRead := by
  obtain ⟨hjson, hwritable⟩ := h
  cases hjson with
  | list items => exact ⟨items v hv, Value.areWritable_iff.mp hwritable v hv⟩

theorem of_mem_map {entries : List (Atom × Value)} (h : (Value.map entries).IsRead)
    {entry : Atom × Value} (hentry : entry ∈ entries) : entry.2.IsRead := by
  obtain ⟨hjson, hwritable⟩ := h
  cases hjson with
  | map _ _ values =>
    exact ⟨values entry hentry, (Value.entriesAreWritable_iff.mp hwritable entry hentry).2⟩

end Value.IsRead

namespace Json

/-! ### Scalars -/

theorem isRead_of_words {word : List Char} {v : Value} (h : (word, v) ∈ words) : v.IsRead := by
  simp only [words, List.mem_cons, List.not_mem_nil, or_false, Prod.mk.injEq] at h
  rcases h with ⟨-, rfl⟩ | ⟨-, rfl⟩ | ⟨-, rfl⟩ | ⟨-, rfl⟩ | ⟨-, rfl⟩ | ⟨-, rfl⟩
  · exact ⟨.null, rfl⟩
  · exact ⟨.bool true, rfl⟩
  · exact ⟨.bool false, rfl⟩
  · exact ⟨.real .nan, rfl⟩
  · exact ⟨.real (.infinite false), rfl⟩
  · exact ⟨.real (.infinite true), rfl⟩

theorem Numeral.isRead_of_value {n : Numeral} (hdigits : ∀ c ∈ n.whole, Text.isDigit c = true)
    {v : Value} (h : n.value = .ok v) : v.IsRead := by
  unfold Numeral.value at h
  split at h
  · split at h
    · cases h
    next hlength =>
      cases h
      have hwritable := Text.isWritable_readDecimal hdigits (Nat.le_of_not_lt hlength)
      refine ⟨.int _, ?_⟩
      rw [Value.isWritable_int]
      split
      · rw [Text.isWritable_neg, hwritable]
      · exact hwritable
  · cases h
    exact ⟨.real _, rfl⟩

theorem isRead_of_readScalar {offset length : Nat} {cs : List Char} {v : Value}
    (h : readScalar offset cs = some (.value v, length)) : v.IsRead := by
  unfold readScalar at h
  split at h
  next word value hfind =>
    cases h
    exact isRead_of_words (List.mem_of_find?_eq_some hfind)
  · split at h
    · cases h
    next n hn =>
      split at h
      next hvalue =>
        cases h
        exact Numeral.isRead_of_value (Numeral.whole_of_read hn).2 hvalue
      · cases h

theorem isRead_of_mem_tokens {skip offset : Nat} {cs : List Char} {p : Placed}
    (hp : p ∈ tokens skip offset cs) {v : Value} (hv : p.token = .value v) : v.IsRead := by
  rcases p with ⟨token, place⟩
  obtain rfl : token = .value v := hv
  cases comesFrom_of_mem_tokens hp with
  | punctuation h => exact absurd rfl ((punctuation?_ne h).2.1 v)
  | scalar _ h => exact isRead_of_readScalar h

/-! ### The machine -/

/-- The data of a frame, a goal or an outcome are such as can be read. -/
def Frame.IsRead : Frame → Prop
  | .list items => ∀ v ∈ items, v.IsRead
  | .map entries _ => (Value.map entries).IsRead

def Goal.IsRead : Goal → Prop
  | .value | .itemOrEnd | .nameOrEnd => True
  | .name entries | .colon entries _ => (Value.map entries).IsRead
  | .rest v => v.IsRead

def Outcome.IsRead : Outcome → Prop
  | .finished v => v.IsRead
  | .next goal stack => goal.IsRead ∧ ∀ frame ∈ stack, frame.IsRead

section

variable {room : Nat} {stack : List Frame} {p : Placed} {o : Outcome}

theorem isRead_of_beginValue (hstack : ∀ frame ∈ stack, frame.IsRead)
    (hp : ∀ v, p.token = .value v → v.IsRead) (h : beginValue room stack p = .ok o) : o.IsRead := by
  have hopened {b : Bracket} {o' : Outcome} (h : openBracket room stack b p.offset o' = .ok o)
      (ho' : o'.IsRead) : o.IsRead := by
    unfold openBracket at h
    split at h <;> cases h
    exact ho'
  unfold beginValue at h
  split at h
  next v hv =>
    cases h
    exact ⟨hp v hv, hstack⟩
  next s _ _ =>
    cases h
    exact ⟨Value.IsRead.text s, hstack⟩
  · exact hopened h ⟨trivial, List.forall_mem_cons.mpr ⟨nofun, hstack⟩⟩
  · exact hopened h ⟨trivial, hstack⟩
  · cases h
  · cases h

theorem isRead_of_beginName {entries : List (Atom × Value)} (hentries : (Value.map entries).IsRead)
    (hstack : ∀ frame ∈ stack, frame.IsRead) (h : beginName entries stack p = .ok o) :
    o.IsRead := by
  unfold beginName at h
  split at h
  · cases h
    exact ⟨hentries, hstack⟩
  · split at h <;> cases h
  · cases h

theorem isRead_of_continueAfter {v : Value} (hv : v.IsRead) (hstack : ∀ frame ∈ stack, frame.IsRead)
    (h : continueAfter v stack p = .ok o) : o.IsRead := by
  unfold continueAfter at h
  split at h
  · cases h
    exact hv
  · cases h
  next items stack _ =>
    cases h
    obtain ⟨hitems, hstack⟩ := List.forall_mem_cons.mp hstack
    exact ⟨trivial, List.forall_mem_cons.mpr ⟨List.forall_mem_cons.mpr ⟨hv, hitems⟩, hstack⟩⟩
  next items stack _ =>
    cases h
    obtain ⟨hitems, hstack⟩ := List.forall_mem_cons.mp hstack
    refine ⟨Value.IsRead.list fun w hw => ?_, hstack⟩
    exact List.forall_mem_cons.mpr ⟨hv, hitems⟩ w (List.mem_reverse.mp hw)
  next entries name stack _ =>
    cases h
    obtain ⟨hentries, hstack⟩ := List.forall_mem_cons.mp hstack
    exact ⟨hentries.put hv name, hstack⟩
  next entries name stack _ =>
    cases h
    obtain ⟨hentries, hstack⟩ := List.forall_mem_cons.mp hstack
    exact ⟨hentries.put hv name, hstack⟩
  · cases h

/-- One step leads from data that can be read to data that can be read. -/
theorem isRead_of_step {goal : Goal} (hgoal : goal.IsRead) (hstack : ∀ frame ∈ stack, frame.IsRead)
    (hp : ∀ v, p.token = .value v → v.IsRead) (h : step room goal stack p = .ok o) : o.IsRead := by
  unfold step at h
  split at h
  · exact isRead_of_beginValue hstack hp h
  · cases h
    exact ⟨Value.IsRead.list nofun, fun frame hframe => hstack frame (List.mem_of_mem_tail hframe)⟩
  · exact isRead_of_beginValue hstack hp h
  · cases h
    exact ⟨Value.IsRead.noEntries, hstack⟩
  · exact isRead_of_beginName Value.IsRead.noEntries hstack h
  · exact isRead_of_beginName hgoal hstack h
  · cases h
    exact ⟨trivial, List.forall_mem_cons.mpr ⟨hgoal, hstack⟩⟩
  · cases h
  · exact isRead_of_continueAfter hgoal hstack h

theorem isRead_of_run {goal : Goal} {ps : List Placed} {v : Value} (hgoal : goal.IsRead)
    (hstack : ∀ frame ∈ stack, frame.IsRead)
    (hps : ∀ p ∈ ps, ∀ v, p.token = .value v → v.IsRead)
    (h : run room goal stack ps = .ok v) : v.IsRead := by
  induction ps generalizing goal stack with
  | nil => cases h
  | cons p ps ih =>
    obtain ⟨hp, hps⟩ := List.forall_mem_cons.mp hps
    rw [run] at h
    split at h
    · cases h
    next hstep =>
      cases h
      exact isRead_of_step hgoal hstack hp hstep
    next hstep =>
      obtain ⟨hgoal, hstack⟩ := isRead_of_step hgoal hstack hp hstep
      exact ih hgoal hstack hps h

theorem isRead_of_readValue {text : List Char} {v : Value} (h : readValue text room = .ok v) :
    v.IsRead := by
  have hgoal : Goal.value.IsRead := trivial
  exact isRead_of_run hgoal (List.forall_mem_nil _) (fun _ hp _ hv => isRead_of_mem_tokens hp hv)
    (readValue_eq_ok_iff.mp h).1

end

end Json

end ApiConformance
