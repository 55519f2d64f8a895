import Mathlib.Data.String.Basic
import ApiConformance.Service.Answer

/-!
Loading a contract. Its file gives rules or an error of the contract, which the service
answers with the error's message, unless something stops loading: a path too long to be
looked up, or YAML that is well written and cannot be had all the same. Files that name half
of a surrogate pair are not spoken of.
-/
namespace ApiConformance

/-! ### Paths that are too long -/

/-- No longer than what is looked up, as a whole and in every part. -/
def Path.Short (p : Path) : Prop :=
  p.text.utf8ByteSize ≤ Files.maxPathLength ∧
    ∀ c ∈ p.components, c.utf8ByteSize ≤ Files.maxNameLength

theorem Files.follow_ne_nameTooLong {files : Files} {here components : List String}
    (h : ∀ c ∈ components, c.utf8ByteSize ≤ maxNameLength) :
    files.follow here components ≠ .error .nameTooLong := by
  induction components generalizing here with
  | nil => simp [follow]
  | cons c rest ih =>
    obtain ⟨hc, hrest⟩ := List.forall_mem_cons.mp h
    unfold follow
    split
    · exact ih hrest
    · rw [if_neg (Nat.not_lt_of_le hc)]
      split
      · simp
      · exact ih hrest
      · split <;> simp

theorem Files.resolve_ne_nameTooLong {files : Files} {p : Path} (h : p.Short) :
    files.resolve p ≠ .error .nameTooLong := by
  have hlength : ¬ maxPathLength < p.text.utf8ByteSize := by
    have hle := h.1
    omega
  rw [resolve, if_neg hlength]
  exact follow_ne_nameTooLong h.2

namespace Contract

/-! ### What a path leads to -/

/-- The path to load from: the given one, or else the default one; an empty path is none. -/
def chosen (default path : Option String) : Option String :=
  (path.filter (!·.isEmpty)).or (default.filter (!·.isEmpty))

/-- The file of a path, and its octets. -/
def HasOctets (files : Files) (path : String) (octets : List UInt8) : Prop :=
  '\x00' ∉ path.toList ∧ files.resolve (.ofString path) = .ok (.file octets)

def HasRules (sys : System) (path : String) (rules : List Rule) : Prop :=
  ∃ octets v, HasOctets sys.files path octets ∧ Yaml.read sys.yamlRoom depth octets = .ok v ∧
    ofValue (Path.ofString path).text v = .ok rules

/-- The file of a path names half of a surrogate pair. -/
def IsTorn (sys : System) (path : String) : Prop :=
  ∃ octets code, HasOctets sys.files path octets ∧
    Yaml.read sys.yamlRoom depth octets = .error (.badValue (.halfPair code))

/-- What stops loading the file of a path. -/
inductive Stops (sys : System) (path : String) : Prop where
  | nameTooLong (hnull : '\x00' ∉ path.toList)
      (h : sys.files.resolve (.ofString path) = .error .nameTooLong)
  | badValue {octets : List UInt8} {b : Yaml.BadValue} (has : HasOctets sys.files path octets)
      (h : Yaml.read sys.yamlRoom depth octets = .error (.badValue b))
      (whole : ∀ code, b ≠ .halfPair code)

section

variable {sys : System} {path : String}

theorem loadFile_of_null (h : '\x00' ∈ path.toList) :
    loadFile sys path = .error (.contract (.notFound (Path.ofString path).text)) :=
  if_pos (List.contains_iff_mem.mpr h)

theorem loadFile_of_noNull (h : '\x00' ∉ path.toList) :
    loadFile sys path =
      match sys.files.resolve (.ofString path) with
      | .error .nameTooLong => .error (.nameTooLong (Path.ofString path).text)
      | .error _ => .error (.contract (.notFound (Path.ofString path).text))
      | .ok entry =>
        match entry.read with
        | .error e => .error (.contract (.unreadable (Path.ofString path).text e))
        | .ok octets => ofOctets sys.yamlRoom (Path.ofString path).text octets := by
  cases hresolve : sys.files.resolve (.ofString path) with
  | error e => cases e <;> simp [loadFile, h, hresolve]
  | ok entry => cases hread : entry.read <;> simp [loadFile, h, hresolve, hread]

theorem entry_read_eq_ok {entry : Entry} {octets : List UInt8} :
    entry.read = .ok octets ↔ entry = .file octets := by
  cases entry <;> simp [Entry.read]

theorem loadFile_of_hasOctets {octets : List UInt8} (h : HasOctets sys.files path octets) :
    loadFile sys path = ofOctets sys.yamlRoom (Path.ofString path).text octets := by
  rw [loadFile_of_noNull h.1, h.2]
  rfl

/-- What becomes of a path that leads to no file. -/
theorem loadFile_of_noOctets (h : ∀ octets, ¬ HasOctets sys.files path octets) :
    (∃ c, loadFile sys path = .error (.contract c)) ∨
      Stops sys path ∧ loadFile sys path = .error (.nameTooLong (Path.ofString path).text) := by
  by_cases hnull : '\x00' ∈ path.toList
  · exact .inl ⟨_, loadFile_of_null hnull⟩
  · rw [loadFile_of_noNull hnull]
    split
    next hlong => exact .inr ⟨.nameTooLong hnull hlong, rfl⟩
    · exact .inl ⟨_, rfl⟩
    next entry hresolve =>
      split
      · exact .inl ⟨_, rfl⟩
      next octets hread =>
        rw [entry_read_eq_ok.mp hread] at hresolve
        exact absurd ⟨hnull, hresolve⟩ (h octets)

theorem ofOctets_eq_ok_iff {room : Nat} {octets : List UInt8} {rules : List Rule} :
    ofOctets room path octets = .ok rules ↔
      ∃ v, Yaml.read room depth octets = .ok v ∧ ofValue path v = .ok rules := by
  unfold ofOctets
  cases Yaml.read room depth octets with
  | error f => cases f <;> simp
  | ok v => cases hv : ofValue path v <;> simp [hv, Except.mapError]

theorem ofOctets_error {room : Nat} {octets : List UInt8} {e : ContractLoadError}
    (h : ofOctets room path octets = .error e) :
    (∃ c, e = .contract c) ∨ ∃ b, Yaml.read room depth octets = .error (.badValue b) := by
  unfold ofOctets at h
  split at h
  · cases h
    exact .inl ⟨_, rfl⟩
  next b hb => exact .inr ⟨b, hb⟩
  next v _ =>
    cases hv : ofValue path v with
    | error c =>
      rw [hv] at h
      cases h
      exact .inl ⟨c, rfl⟩
    | ok rules =>
      rw [hv] at h
      cases h

theorem loadFile_eq_ok_iff {rules : List Rule} :
    loadFile sys path = .ok rules ↔ HasRules sys path rules := by
  constructor
  · intro hload
    by_cases hoctets : ∃ octets, HasOctets sys.files path octets
    · obtain ⟨octets, hoctets⟩ := hoctets
      rw [loadFile_of_hasOctets hoctets] at hload
      obtain ⟨v, hread, hv⟩ := ofOctets_eq_ok_iff.mp hload
      exact ⟨octets, v, hoctets, hread, hv⟩
    · rcases loadFile_of_noOctets (not_exists.mp hoctets) with ⟨c, hc⟩ | ⟨-, hlong⟩
      · rw [hc] at hload
        cases hload
      · rw [hlong] at hload
        cases hload
  · rintro ⟨octets, v, hoctets, hread, hv⟩
    rw [loadFile_of_hasOctets hoctets]
    exact ofOctets_eq_ok_iff.mpr ⟨v, hread, hv⟩

theorem loadFile_error (hwhole : ¬ IsTorn sys path) {e : ContractLoadError}
    (h : loadFile sys path = .error e) : (∃ c, e = .contract c) ∨ Stops sys path := by
  by_cases hoctets : ∃ octets, HasOctets sys.files path octets
  · obtain ⟨octets, hoctets⟩ := hoctets
    rw [loadFile_of_hasOctets hoctets] at h
    rcases ofOctets_error h with hc | ⟨b, hb⟩
    · exact .inl hc
    · refine .inr (.badValue hoctets hb fun code => ?_)
      rintro rfl
      exact hwhole ⟨octets, code, hoctets, hb⟩
  · rcases loadFile_of_noOctets (not_exists.mp hoctets) with ⟨c, hc⟩ | ⟨hstops, -⟩
    · rw [hc] at h
      cases h
      exact .inl ⟨c, rfl⟩
    · exact .inr hstops

theorem loadFile_of_stops (h : Stops sys path) :
    ∃ e, loadFile sys path = .error e ∧ ∀ c, e ≠ .contract c := by
  cases h with
  | nameTooLong hnull hlong =>
    rw [loadFile_of_noNull hnull, hlong]
    exact ⟨_, rfl, by simp⟩
  | badValue hoctets hb =>
    rw [loadFile_of_hasOctets hoctets, ofOctets, hb]
    exact ⟨_, rfl, by simp⟩

theorem not_stops_of_short (hshort : (Path.ofString path).Short)
    (hvalues : ∀ octets b, HasOctets sys.files path octets →
      Yaml.read sys.yamlRoom depth octets ≠ .error (.badValue b)) : ¬ Stops sys path := by
  intro hstops
  cases hstops with
  | nameTooLong _ hlong => exact Files.resolve_ne_nameTooLong hshort hlong
  | badValue hoctets hb => exact hvalues _ _ hoctets hb

end

/-! ### The chosen file -/

section

variable {sys : System} {default path : Option String}

theorem load_of_chosen {p : String} (h : p ∈ chosen default path) :
    load sys default path = loadFile sys p := by
  unfold load
  rw [show (path.filter (!·.isEmpty)).or (default.filter (!·.isEmpty)) = some p from h]

theorem load_of_none (h : chosen default path = none) :
    load sys default path = .error (.contract .unspecified) := by
  unfold load
  rw [show (path.filter (!·.isEmpty)).or (default.filter (!·.isEmpty)) = none from h]

theorem load_eq_ok_iff {rules : List Rule} :
    load sys default path = .ok rules ↔ ∃ p ∈ chosen default path, HasRules sys p rules := by
  cases hchosen : chosen default path with
  | none =>
    rw [load_of_none hchosen]
    simp
  | some p =>
    rw [load_of_chosen hchosen, loadFile_eq_ok_iff]
    simp

theorem load_error (hwhole : ∀ p ∈ chosen default path, ¬ IsTorn sys p) {e : ContractLoadError}
    (h : load sys default path = .error e) :
    (∃ c, e = .contract c) ∨ ∃ p ∈ chosen default path, Stops sys p := by
  cases hchosen : chosen default path with
  | none =>
    rw [load_of_none hchosen] at h
    cases h
    exact .inl ⟨_, rfl⟩
  | some p =>
    rw [load_of_chosen hchosen] at h
    rcases loadFile_error (hwhole p hchosen) h with hc | hstops
    · exact .inl hc
    · exact .inr ⟨p, rfl, hstops⟩

theorem load_of_stops {p : String} (hp : p ∈ chosen default path) (h : Stops sys p) :
    ∃ e, load sys default path = .error e ∧ ∀ c, e ≠ .contract c := by
  rw [load_of_chosen hp]
  exact loadFile_of_stops h

theorem load_settled_iff (hwhole : ∀ p ∈ chosen default path, ¬ IsTorn sys p) :
    ((∃ rules, load sys default path = .ok rules) ∨
      ∃ c, load sys default path = .error (.contract c)) ↔
    ∀ p ∈ chosen default path, ¬ Stops sys p := by
  constructor
  · intro hload p hp hstops
    obtain ⟨e, he, hc⟩ := load_of_stops hp hstops
    rw [he] at hload
    rcases hload with ⟨rules, hrules⟩ | ⟨c, hcontract⟩
    · cases hrules
    · exact hc c (Except.error.inj hcontract)
  · intro h
    cases hload : load sys default path with
    | ok rules => exact .inl ⟨rules, rfl⟩
    | error e =>
      rcases load_error hwhole hload with ⟨c, rfl⟩ | ⟨p, hp, hstops⟩
      · exact .inr ⟨c, rfl⟩
      · exact absurd hstops (h p hp)

theorem load_of_noRules (hwhole : ∀ p ∈ chosen default path, ¬ IsTorn sys p)
    (h : ∀ p ∈ chosen default path, ¬ Stops sys p ∧ ∀ rules, ¬ HasRules sys p rules) :
    ∃ c, load sys default path = .error (.contract c) := by
  rcases (load_settled_iff hwhole).mpr fun p hp => (h p hp).1 with ⟨rules, hload⟩ | hc
  · obtain ⟨p, hp, hrules⟩ := load_eq_ok_iff.mp hload
    exact absurd hrules ((h p hp).2 rules)
  · exact hc

/-- Where loading has come to anything else, no half of a surrogate pair was met. -/
theorem not_isTorn_of_load {result : Except ContractLoadError (List Rule)}
    (hload : load sys default path = result)
    (hresult : ∀ code, result ≠ .error (.badValue (.halfPair code))) :
    ∀ p ∈ chosen default path, ¬ IsTorn sys p := by
  rintro p hp ⟨octets, code, hoctets, hread⟩
  refine hresult code ?_
  rw [← hload, load_of_chosen hp, loadFile_of_hasOctets hoctets, ofOctets, hread]

end

end Contract

/-! ### The service -/

/-- A request to verify the files that the settings name. -/
structure Request.AsksConfigured (r : Request) : Prop where
  method : r.method = "GET"
  path : Endpoint.ofPath r.target.octets = some .configured

theorem Service.answer_configured {r : Request} (h : r.AsksConfigured) (s : Service)
    (sys : System) : s.answer sys r = s.verifyConfigured sys := by
  simp only [answer]
  rw [h.path]
  dsimp only
  rw [h.method, if_pos (by rfl), answerAt]

theorem Service.respond_configured_contract {r : Request} (h : r.AsksConfigured) {s : Service}
    {sys : System} {c : ContractError}
    (hload : Contract.load sys (some s.settings.contractsPath) none = .error (.contract c)) :
    s.respond sys r = .refused 422 (.text (sys.tell c)) := by
  have hanswer : s.answer sys r = .ok (.refused 422 (.text (sys.tell c))) := by
    rw [answer_configured h, verifyConfigured, hload]
  rw [respond, hanswer]
  dsimp only
  rw [h.method, if_neg (by decide)]

theorem Service.respond_configured_broken {r : Request} (h : r.AsksConfigured) {s : Service}
    {sys : System} {e : ContractLoadError}
    (hload : Contract.load sys (some s.settings.contractsPath) none = .error e)
    (he : ∀ c, e ≠ .contract c) : s.respond sys r = .broken := by
  have hanswer : s.answer sys r = .error (.contract e) := by
    rw [answer_configured h, verifyConfigured, hload]
    cases e with
    | contract c => exact absurd rfl (he c)
    | badValue b => rfl
    | nameTooLong path => rfl
  rw [respond, hanswer]

def shelfFiles : Files := ⟨[
  (["shelf", "rules.yaml"], .file (Text.Utf8.encode "- kind: require_exports\n  module: m\n")),
  (["shelf", "open.yaml"], .file (Text.Utf8.encode "[")),
  (["shelf", "month.yaml"], .file (Text.Utf8.encode "2020-13-01")),
  (["shelf", "folder"], .directory)], ["shelf"]⟩

/-- What is said of the bracket that is not closed. -/
def openRemark (path : String) : String :=
  "while parsing a flow node\nexpected the node content, but found \x27<stream end>\x27\n"
    ++ "  in \x22" ++ path ++ "\x22, line 1, column 2"

def shelf : System := { System.ofFiles shelfFiles with
  remark := fun
    | .notYaml path => some (openRemark path)
    | _ => none }

def serviceOf (contractsPath : String) : Service := ⟨⟨"shelf", false, "INFO", "", contractsPath⟩⟩

def configuredRequest : Request := ⟨"GET", .ofChars Endpoint.configured.path.toList, "", ""⟩

theorem configuredRequest_asksConfigured : configuredRequest.AsksConfigured where
  method := rfl
  path := by rw [configuredRequest, Endpoint.octets_path, Endpoint.ofPath_path]

theorem shelf_open : Contract.load shelf (some "open.yaml") none =
    .error (.contract (.notYaml "open.yaml")) := by
  decide +kernel

theorem shelf_month :
    Contract.load shelf (some "month.yaml") none = .error (.badValue .monthRange) := by
  decide +kernel

theorem shelf_rules :
    Contract.load shelf none (some "/shelf/rules.yaml") = .ok [.requiredExports ⟨"m", []⟩] := by
  decide +kernel

theorem shelf_open_noRules : ∀ p ∈ Contract.chosen (some "open.yaml") none,
    ¬ Contract.Stops shelf p ∧ ∀ rules, ¬ Contract.HasRules shelf p rules := by
  intro p hp
  have hwhole := Contract.not_isTorn_of_load shelf_open (by simp)
  refine ⟨(Contract.load_settled_iff hwhole).mp (.inr ⟨_, shelf_open⟩) p hp,
    fun rules hrules => ?_⟩
  have hload := Contract.load_eq_ok_iff.mpr ⟨p, hp, hrules⟩
  rw [shelf_open] at hload
  cases hload

theorem shelf_month_stops : Contract.Stops shelf "month.yaml" := by
  have hwhole := Contract.not_isTorn_of_load shelf_month (by simp)
  obtain ⟨_, ⟨⟩⟩ | ⟨p, hp, hstops⟩ := Contract.load_error hwhole shelf_month
  obtain rfl : p = "month.yaml" := (Option.some.inj hp).symm
  exact hstops

end ApiConformance
