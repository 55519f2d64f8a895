import ApiConformance.Proofs.Json.Stops
import ApiConformance.Proofs.Text.Utf8
import ApiConformance.VerifyFile

/-!
Verifying the interface in a file. What keeps an interface from being had is a violation
like any other, unless it stops the program: a path that no file can have, an integer of so
many digits that it is not read, or more lists and maps inside one another than there is room
for. Files that name half of a surrogate pair in a text of their JSON are not spoken of.
-/
namespace ApiConformance

/-- The file of a path holds a text in UTF-8; all line ends are made alike. -/
def Files.HasText (files : Files) (path : String) (text : List Char) : Prop :=
  ∃ s : String, files.read (.ofString path) = .ok (Text.Utf8.encode s) ∧
    text = Text.unifyNewlines s.toList

/-- Reading a text is stopped. -/
def Json.StopsAt (text : List Char) (room : Nat) (s : Json.Stop) : Prop :=
  ∃ offset, Json.read text room = .error ⟨.stop s, offset⟩

/-- A text that is short of whatever stops reading: no more digits in a row than an integer may
have, and no more opening brackets than there is room for. -/
def Json.IsModest (text : List Char) (room : Nat) : Prop :=
  ¬ Json.Overlong text ∧ Json.openings text ≤ room

namespace System

def HasInterface (sys : System) (path : String) (i : Interface) : Prop :=
  ∃ text v, sys.files.HasText path text ∧ Json.read text sys.jsonRoom = .ok v ∧
    Interface.ofValue v = .ok i

/-- The file of a path has half of a surrogate pair in a text. -/
def IsTorn (sys : System) (path : String) : Prop :=
  ∃ text, sys.files.HasText path text ∧ Json.StopsAt text sys.jsonRoom .halfPair

/-- What stops verifying the file of a path. -/
inductive StopsVerifying (sys : System) (path : String) : Prop where
  | nullInPath (h : '\x00' ∈ path.toList)
  | integerDigits {text : List Char} {count : Nat} (has : sys.files.HasText path text)
      (h : Json.StopsAt text sys.jsonRoom (.integerDigits count))
  | tooDeep {text : List Char} {b : Json.Bracket} (has : sys.files.HasText path text)
      (h : Json.StopsAt text sys.jsonRoom (.tooDeep b))

end System

/-! ### Texts -/

section

variable {text : List Char} {room : Nat}

theorem Json.StopsAt.groundedIn {s : Json.Stop} (h : Json.StopsAt text room s) :
    s.GroundedIn text room := by
  obtain ⟨offset, hread⟩ := h
  exact Json.groundedIn_of_read hread rfl

theorem Json.StopsAt.eq_halfPair {s : Json.Stop} (h : Json.StopsAt text room s)
    (hmodest : Json.IsModest text room) : s = .halfPair := by
  cases s with
  | integerDigits count => exact absurd h.groundedIn hmodest.1
  | tooDeep b => exact absurd h.groundedIn (Nat.not_lt_of_le hmodest.2)
  | halfPair => rfl

theorem Interface.ofText_of_stopsAt {s : Json.Stop} (h : Json.StopsAt text room s)
    (source : String) : Interface.ofText text source room = .error (.stopped s) := by
  obtain ⟨offset, hread⟩ := h
  rw [ofText, hread]

theorem Interface.ofText_eq_ok_iff {source : String} {i : Interface} :
    Interface.ofText text source room = .ok i ↔
      ∃ v, Json.read text room = .ok v ∧ Interface.ofValue v = .ok i := by
  unfold ofText
  split
  next h => simp [h]
  next h => simp [h]
  next v h =>
    rw [h]
    cases hv : Interface.ofValue v with
    | ok j => simp [hv]
    | failed ps => simp [hv]

/-- A text from which no interface can be had is one that does not decode, unless reading it is
stopped. -/
theorem Interface.ofText_error {source : String} {e : LoadError}
    (h : Interface.ofText text source room = .error e) :
    (∃ s, Json.StopsAt text room s) ∨
    ∃ fault : LoadFault, fault.reason = .decode ∧ e = .failure source fault := by
  unfold ofText at h
  split at h
  next s offset hread =>
    cases h
    exact .inl ⟨s, offset, hread⟩
  next f _ _ =>
    cases h
    exact .inr ⟨.notJson f text, rfl, rfl⟩
  next =>
    split at h
    · cases h
    next ps _ =>
      cases h
      exact .inr ⟨.invalid ps, rfl, rfl⟩

end

/-! ### Files -/

section

variable {sys : System} {path : String}

theorem hasNull_eq_false (h : '\x00' ∉ path.toList) : hasNull path = false := by
  unfold hasNull
  simpa using h

theorem Interface.load_of_unreadable (hnull : '\x00' ∉ path.toList) {e : FileError}
    (h : sys.files.read (.ofString path) = .error e) :
    Interface.load sys path = .error (.failure (Path.ofString path).text (.unreadable e)) := by
  simp only [load]
  rw [hasNull_eq_false hnull, if_neg Bool.false_ne_true, h]

theorem Interface.load_of_hasText (hnull : '\x00' ∉ path.toList) {text : List Char}
    (h : sys.files.HasText path text) :
    Interface.load sys path = Interface.ofText text (Path.ofString path).text sys.jsonRoom := by
  obtain ⟨s, hread, rfl⟩ := h
  simp only [load]
  rw [hasNull_eq_false hnull, if_neg Bool.false_ne_true, hread]
  dsimp only
  rw [Text.Utf8.decode_encode]

theorem Interface.load_of_noText (hnull : '\x00' ∉ path.toList) {octets : List UInt8}
    (hread : sys.files.read (.ofString path) = .ok octets)
    (h : ∀ text, ¬ sys.files.HasText path text) :
    ∃ m, Interface.load sys path =
      .error (.failure (Path.ofString path).text (.notUtf8 m)) := by
  have hnone (s : String) : octets ≠ Text.Utf8.encode s := by
    rintro rfl
    exact h _ ⟨s, hread, rfl⟩
  obtain ⟨m, hm⟩ := Text.Utf8.decode_eq_error_iff.mpr hnone
  refine ⟨m, ?_⟩
  simp only [load]
  rw [hasNull_eq_false hnull, if_neg Bool.false_ne_true, hread]
  dsimp only
  rw [hm]

theorem Interface.load_of_hasInterface (hnull : '\x00' ∉ path.toList) {i : Interface}
    (h : sys.HasInterface path i) : Interface.load sys path = .ok i := by
  obtain ⟨text, v, htext, hread, hvalue⟩ := h
  rw [load_of_hasText hnull htext]
  exact ofText_eq_ok_iff.mpr ⟨v, hread, hvalue⟩

/-- What stops reading the text of a whole file stops verifying it. -/
theorem System.StopsVerifying.of_stopsAt (hwhole : ¬ sys.IsTorn path) {text : List Char}
    (htext : sys.files.HasText path text) {s : Json.Stop}
    (h : Json.StopsAt text sys.jsonRoom s) : sys.StopsVerifying path := by
  cases s with
  | integerDigits count => exact .integerDigits htext h
  | tooDeep b => exact .tooDeep htext h
  | halfPair => exact absurd ⟨text, htext, h⟩ hwhole

theorem Interface.load_of_noInterface (hwhole : ¬ sys.IsTorn path)
    (hstops : ¬ sys.StopsVerifying path) {octets : List UInt8}
    (hread : sys.files.read (.ofString path) = .ok octets)
    (h : ∀ i, ¬ sys.HasInterface path i) :
    ∃ fault : LoadFault, fault.reason = .decode ∧
      Interface.load sys path = .error (.failure (Path.ofString path).text fault) := by
  have hnull : '\x00' ∉ path.toList := fun hnull => hstops (.nullInPath hnull)
  by_cases htext : ∃ text, sys.files.HasText path text
  · obtain ⟨text, htext⟩ := htext
    rw [load_of_hasText hnull htext]
    cases hof : Interface.ofText text (Path.ofString path).text sys.jsonRoom with
    | ok i =>
      obtain ⟨v, hv, hi⟩ := ofText_eq_ok_iff.mp hof
      exact absurd ⟨text, v, htext, hv, hi⟩ (h i)
    | error e =>
      rcases ofText_error hof with ⟨s, hs⟩ | ⟨fault, hreason, rfl⟩
      · exact absurd (.of_stopsAt hwhole htext hs) hstops
      · exact ⟨fault, hreason, rfl⟩
  · obtain ⟨m, hm⟩ := load_of_noText hnull hread (not_exists.mp htext)
    exact ⟨.notUtf8 m, rfl, hm⟩

/-! ### Verifying -/

theorem verifyFile_of_failure {source : String} {fault : LoadFault}
    (h : Interface.load sys path = .error (.failure source fault)) (rules : List Rule) :
    verifyFile sys path rules = .ok [.loadFailure source fault.reason (fault.detail source)] := by
  rw [verifyFile, h]

theorem verifyFile_of_load {i : Interface} (h : Interface.load sys path = .ok i)
    (rules : List Rule) : verifyFile sys path rules = .ok (i.verify rules) := by
  rw [verifyFile, h]

theorem verifyFile_of_stopsAt (hnull : '\x00' ∉ path.toList) {text : List Char}
    (htext : sys.files.HasText path text) {s : Json.Stop}
    (h : Json.StopsAt text sys.jsonRoom s) (rules : List Rule) :
    verifyFile sys path rules = .error (.stopped s) := by
  rw [verifyFile, Interface.load_of_hasText hnull htext, Interface.ofText_of_stopsAt h]

theorem verifyFile_of_stops (h : sys.StopsVerifying path) (rules : List Rule) :
    ∃ e, verifyFile sys path rules = .error e := by
  -- a null character is noticed before anything is read
  by_cases hnull : '\x00' ∈ path.toList
  · refine ⟨.nullInPath, ?_⟩
    have hhas : hasNull path = true := by simpa [hasNull] using hnull
    simp only [verifyFile, Interface.load]
    rw [hhas, if_pos rfl]
  · cases h with
    | nullInPath h => exact absurd h hnull
    | integerDigits htext h => exact ⟨_, verifyFile_of_stopsAt hnull htext h rules⟩
    | tooDeep htext h => exact ⟨_, verifyFile_of_stopsAt hnull htext h rules⟩

/-- What verifying the file of a path gives: one violation for a file that cannot be read or does
not decode, the same whatever the rules are, and else the violations of the interface in it. -/
structure System.VerifiesAs (sys : System) (path : String) : Prop where
  unreadable {e : FileError} (h : sys.files.read (.ofString path) = .error e) :
    ∃ detail, ∀ rules, verifyFile sys path rules =
      .ok [.loadFailure (Path.ofString path).text .read detail]
  undecodable {octets : List UInt8} (h : sys.files.read (.ofString path) = .ok octets)
      (none : ∀ i, ¬ sys.HasInterface path i) :
    ∃ detail, ∀ rules, verifyFile sys path rules =
      .ok [.loadFailure (Path.ofString path).text .decode detail]
  verified {i : Interface} (h : sys.HasInterface path i) (rules : List Rule) :
    verifyFile sys path rules = .ok (i.verify rules)

theorem System.verifiesAs_of_not_stops (hwhole : ¬ sys.IsTorn path)
    (hstops : ¬ sys.StopsVerifying path) : sys.VerifiesAs path := by
  have hnull : '\x00' ∉ path.toList := fun hnull => hstops (.nullInPath hnull)
  constructor
  case unreadable =>
    intro e he
    exact ⟨_, fun rules => verifyFile_of_failure (Interface.load_of_unreadable hnull he) rules⟩
  case undecodable =>
    intro octets hread hnone
    obtain ⟨fault, hreason, hload⟩ := Interface.load_of_noInterface hwhole hstops hread hnone
    refine ⟨fault.detail (Path.ofString path).text, fun rules => ?_⟩
    rw [verifyFile_of_failure hload, hreason]
  case verified =>
    intro i hi rules
    exact verifyFile_of_load (Interface.load_of_hasInterface hnull hi) rules

theorem System.VerifiesAs.exists_ok (h : sys.VerifiesAs path) (rules : List Rule) :
    ∃ vs, verifyFile sys path rules = .ok vs := by
  cases hfile : sys.files.read (.ofString path) with
  | error e =>
    obtain ⟨detail, hall⟩ := h.unreadable hfile
    exact ⟨_, hall rules⟩
  | ok octets =>
    by_cases hi : ∃ i, sys.HasInterface path i
    · obtain ⟨i, hi⟩ := hi
      exact ⟨_, h.verified hi rules⟩
    · obtain ⟨detail, hall⟩ := h.undecodable hfile (not_exists.mp hi)
      exact ⟨_, hall rules⟩

theorem System.not_stopsVerifying (hnull : '\x00' ∉ path.toList)
    (hmodest : ∀ text, sys.files.HasText path text → Json.IsModest text sys.jsonRoom) :
    ¬ sys.StopsVerifying path := by
  intro hstops
  cases hstops with
  | nullInPath h => exact hnull h
  | integerDigits htext h => cases h.eq_halfPair (hmodest _ htext)
  | tooDeep htext h => cases h.eq_halfPair (hmodest _ htext)

/-- A file without escapes of four digits is whole. -/
theorem System.not_isTorn (h : ∀ text, sys.files.HasText path text → ¬ Json.HasEscape text) :
    ¬ sys.IsTorn path := by
  rintro ⟨text, htext, htorn⟩
  exact h text htext htorn.groundedIn

end

def drawerText : String := "\x7b\x22modules\x22:\r\n\x7b\x22m\x22: \x7b\x7d\x7d\x7d"

/-- One file in the working directory, and others around it. -/
def drawer : System := .ofFiles ⟨[
  (["desk", "drawer", "api.json"], .file (Text.Utf8.encode drawerText)),
  (["desk", "torn.json"], .file [0x7b, 0xff]),
  (["logs"], .directory), (["logs", "today"], .barred 13 "Permission denied")], ["desk", "drawer"]⟩

def drawn : Interface := ⟨"", none, .ofList [("m", ⟨.empty, .empty, .empty⟩)]⟩

theorem drawer_text {text : List Char} (h : drawer.files.HasText "./api.json" text) :
    text = Text.unifyNewlines drawerText.toList := by
  obtain ⟨s, hread, rfl⟩ := h
  have hencode : Text.Utf8.encode drawerText = Text.Utf8.encode s := Except.ok.inj hread
  rw [Text.Utf8.encode_injective hencode]

theorem drawer_noText {text : List Char} : ¬ drawer.files.HasText "../torn.json" text := by
  rintro ⟨s, hread, -⟩
  have hdecode := Text.Utf8.decode_encode s
  rw [← Except.ok.inj (show _ = Except.ok (Text.Utf8.encode s) from hread)] at hdecode
  cases hdecode

theorem drawer_modest : Json.IsModest (Text.unifyNewlines drawerText.toList) drawer.jsonRoom :=
  ⟨Json.not_overlong_of_length (by decide), by decide⟩

theorem drawer_whole : ¬ drawer.IsTorn "./api.json" := by
  refine System.not_isTorn fun text htext => ?_
  rw [drawer_text htext]
  unfold Json.HasEscape
  decide

end ApiConformance
