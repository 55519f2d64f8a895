import ApiConformance.Interface.Encode
import ApiConformance.Proofs.Json.Data
import ApiConformance.Proofs.Validation.Accepted

/-!
Decoders that read back what is written. What a decoder gives is of some form, and everything of
that form, written as JSON data, is decoded into itself. The parts of a codec are codecs, so a
composed one is right once its parts are.
-/
namespace ApiConformance.Validation

variable {α : Type}

structure Codec (decode : Value → Checked α) (write : α → Value) (Valid : α → Prop) : Prop where
  sound {v : Value} {a : α} : decode v = .ok a → Valid a
  complete {a : α} : Valid a → decode (write a) = .ok a
  json {a : α} : Valid a → (write a).IsJson

namespace Codec

variable {decode : Value → Checked α} {write : α → Value} {Valid : α → Prop}

theorem decode_write (c : Codec decode write Valid) {v : Value} {a : α} (h : decode v = .ok a) :
    decode (write a) = .ok a := c.complete (c.sound h)

theorem exists_decode_iff (c : Codec decode write Valid) {a : α} :
    (∃ v, decode v = .ok a) ↔ Valid a :=
  ⟨fun ⟨_, h⟩ => c.sound h, fun h => ⟨_, c.complete h⟩⟩

/-! ### Parts that all documents share -/

theorem text : Codec Validation.text .text fun _ => True :=
  ⟨fun _ => trivial, fun _ => rfl, fun _ => .text _⟩

theorem integer : Codec Validation.integer .int fun _ => True :=
  ⟨fun _ => trivial, fun _ => rfl, fun _ => .int _⟩

theorem boolean : Codec Validation.boolean .bool fun _ => True :=
  ⟨fun _ => trivial, fun _ => rfl, fun _ => .bool _⟩

/-- What is not null is written as something else, or it would be read as absent. -/
theorem nullable (c : Codec decode write Valid) (hwrite : ∀ a, write a ≠ .null) :
    Codec (Validation.nullable decode) (.ofOption write) fun o => ∀ a ∈ o, Valid a where
  sound {v o} h := by
    rintro a rfl
    unfold Validation.nullable at h
    split at h
    · cases h
    · obtain ⟨_, ha, hsome⟩ := Checked.map_eq_ok.mp h
      cases hsome
      exact c.sound ha
  complete {o} ho := by
    cases o with
    | none => rfl
    | some a =>
      have hvalue : Validation.nullable decode (write a) = some <$> decode (write a) := by
        unfold Validation.nullable
        split
        · exact absurd ‹_› (hwrite a)
        · rfl
      rw [Value.ofOption, hvalue, c.complete (ho a rfl)]
      rfl
  json {o} ho := by
    cases o with
    | none => exact .null
    | some a => exact c.json (ho a rfl)

/-- What holds of whatever stands in a relation holds of all that do so in a list. -/
theorem forall_mem_right {β γ : Type} {R : γ → β → Prop} {P : β → Prop}
    {cs : List γ} {bs : List β} (h : List.Forall₂ R cs bs) (hR : ∀ c b, R c b → P b) :
    ∀ b ∈ bs, P b :=
  ((List.forall₂_and_left bs cs).mp (h.flip.imp fun b c hb => ⟨hR c b hb, hb⟩)).1

theorem forall₂_write (c : Codec decode write Valid) {as : List α} (h : ∀ a ∈ as, Valid a) :
    List.Forall₂ (fun v a => decode v = .ok a) (as.map write) as :=
  List.forall₂_map_left_iff.mpr (List.forall₂_same.mpr fun a ha => c.complete (h a ha))

theorem tuple (c : Codec decode write Valid) :
    Codec (Validation.tuple decode) (fun as => .list (as.map write)) fun as => ∀ a ∈ as, Valid a where
  sound h := by
    obtain ⟨vs, -, hvs⟩ := tuple_eq_ok.mp h
    exact forall_mem_right hvs fun _ _ => c.sound
  complete h := tuple_eq_ok.mpr ⟨_, rfl, c.forall₂_write h⟩
  json {as} h := .list fun v hv => by
    obtain ⟨a, ha, rfl⟩ := List.mem_map.mp hv
    exact c.json (h a ha)

theorem table (c : Codec decode write Valid) :
    Codec (Validation.table decode) (Table.toValue write)
      fun t => ∀ entry ∈ t.entries, Valid entry.2 where
  sound {v t} h := by
    obtain ⟨entries, named, -, hnamed, rfl⟩ := table_eq_ok.mp h
    exact fun entry hentry =>
      forall_mem_right hnamed (fun _ _ h => c.sound h.2) entry (Table.mem_entries_ofList hentry)
  complete {t} h := by
    refine table_eq_ok.mpr ⟨_, t.entries, rfl, ?_, t.ofList_entries⟩
    rw [List.forall₂_map_left_iff, List.forall₂_map_left_iff, List.forall₂_same]
    exact fun entry hentry => ⟨rfl, c.complete (h entry hentry)⟩
  json {t} h := by
    refine Value.isJson_object ?_ fun field hfield => ?_
    · rw [List.map_map]
      exact t.nodup
    · obtain ⟨entry, hentry, rfl⟩ := List.mem_map.mp hfield
      exact c.json (h entry hentry)

/-! ### Fields -/

variable {names : List String} {default : α} {entries : List (Atom × Value)} {a : α}

theorem valid_of_required (c : Codec decode write Valid)
    (h : requiredField names decode entries = .ok a) : Valid a := by
  obtain ⟨_, v, -, ha⟩ := requiredField_eq_ok.mp h
  exact c.sound ha

theorem valid_of_optional (c : Codec decode write Valid) (hdefault : Valid default)
    (h : optionalField names default decode entries = .ok a) : Valid a := by
  rcases optionalField_eq_ok.mp h with ⟨-, rfl⟩ | ⟨_, v, -, ha⟩
  · exact hdefault
  · exact c.sound ha

/-- Under which of its names a field stands does not matter. -/
theorem required (c : Codec decode write Valid) (ha : Valid a)
    (h : (find names entries).map Prod.snd = some (write a)) :
    requiredField names decode entries = .ok a := by
  obtain ⟨⟨name, _⟩, hfind, rfl⟩ := Option.map_eq_some_iff.mp h
  exact requiredField_eq_ok.mpr ⟨name, _, hfind, c.complete ha⟩

theorem optional (c : Codec decode write Valid) (ha : Valid a)
    (h : (find names entries).map Prod.snd = some (write a)) :
    optionalField names default decode entries = .ok a := by
  obtain ⟨⟨name, _⟩, hfind, rfl⟩ := Option.map_eq_some_iff.mp h
  exact optionalField_eq_ok.mpr (.inr ⟨name, _, hfind, c.complete ha⟩)

end Codec

end ApiConformance.Validation
