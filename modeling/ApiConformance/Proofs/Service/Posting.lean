import ApiConformance.Json.Printer
import ApiConformance.Proofs.Interface.Steady
import ApiConformance.Proofs.Json.Data
import ApiConformance.Proofs.Loading.Contract
import ApiConformance.Proofs.Loading.Interface
import ApiConformance.Proofs.Rule.Arities
import ApiConformance.Proofs.Service.Problems

/-!
One meaning for posted data and for the same data in files. A request that posts an interface and
rules is answered with the report on them if both are valid, and refused if not; from files that
hold the same data the report is the same.
-/
namespace ApiConformance

open Validation

/-! ### Posted data -/

/-- A request to verify what it posts as JSON; a byte order mark is not part of the text. -/
structure Request.Posts (r : Request) (text : List Char) : Prop where
  method : r.method = "POST"
  path : Endpoint.ofPath r.target.octets = some .verify
  json : Body.isJsonType r.contentType = true
  text : Text.Utf8.withoutMark r.body.toList = text

/-- Data that holds an interface and rules, in either order. -/
inductive VerifyRequest.Holds (I R : Value) : Value → Prop where
  | interfaceFirst : Holds I R (.object [("interface", I), ("rules", R)])
  | rulesFirst : Holds I R (.object [("rules", R), ("interface", I)])

section

variable {I body : Value} {R : List Value}

theorem VerifyRequest.Holds.isFinite (h : Holds I (.list R) body) (hI : I.isFinite = true)
    (hR : Value.finiteItems R = true) : body.isFinite = true := by
  have hlist : (Value.list R).isFinite = true := hR
  cases h <;> simp [Value.isFinite_object, hI, hlist]

theorem VerifyRequest.Holds.isJson {R : Value} (h : Holds I R body) (hbody : body.IsJson) :
    I.IsJson ∧ R.IsJson := by
  cases h with
  | interfaceFirst =>
    exact ⟨hbody.of_mem_object (.head _), hbody.of_mem_object (.tail _ (.head _))⟩
  | rulesFirst =>
    exact ⟨hbody.of_mem_object (.tail _ (.head _)), hbody.of_mem_object (.head _)⟩

theorem VerifyRequest.Holds.isRead (h : Holds I (.list R) body) (hbody : body.IsRead) :
    (Value.list R).IsRead := by
  cases h with
  | interfaceFirst => exact hbody.of_mem_map (.tail _ (.head _))
  | rulesFirst => exact hbody.of_mem_map (.head _)

/-- Posted data is valid exactly if the interface is, and every rule. -/
theorem VerifyRequest.ofValue_eq_ok_iff (h : Holds I (.list R) body) {i : Interface}
    {rules : List Rule} :
    ofValue body = .ok ⟨i, rules⟩ ↔ Interface.ofValue I = .ok i ∧ Rule.ReadsAs R rules := by
  obtain ⟨entries, rfl, hinterface, hrules⟩ : ∃ entries, body = .map entries ∧
      find ["interface"] entries = some ("interface", I) ∧
      find ["rules"] entries = some ("rules", .list R) := by
    cases h <;> exact ⟨_, rfl, rfl, rfl⟩
  have hfields : ofValue (.map entries) =
      (mk <$> (Interface.ofValue I).under (.key "interface")
        <*> (list Rule.ofValue (.list R)).under (.key "rules")) := by
    simp only [ofValue, record, Value.untied, requiredField, optionalField]
    rw [hinterface, hrules]
  rw [hfields, Checked.map₂_eq_ok]
  simp only [Checked.under_eq_ok, Rule.list_eq_ok_iff, mk.injEq]
  constructor
  · rintro ⟨_, _, hi, hr, rfl, rfl⟩
    exact ⟨hi, hr⟩
  · rintro ⟨hi, hr⟩
    exact ⟨i, rules, hi, hr, rfl, rfl⟩

end

/-! ### Answers to what is posted -/

section

variable {r : Request} {text : List Char}

theorem Request.Posts.body_ne_empty (h : r.Posts text) (htext : text ≠ []) :
    r.body.isEmpty = false := by
  rw [Bool.eq_false_iff, ne_eq, String.isEmpty_iff]
  intro hempty
  refine htext ?_
  rw [← h.text, hempty]
  rfl

theorem Request.Posts.body_eq (h : r.Posts text) (htext : text ≠ []) (room : Nat) :
    Body.ofText room r.contentType r.body = Body.ofJson room r.body.toList := by
  rw [Body.ofText, h.body_ne_empty htext, if_neg Bool.false_ne_true, if_pos h.json]

theorem Service.answer_post (h : r.Posts text) (s : Service) (sys : System) :
    s.answer sys r =
      verifyBody sys.answerRoom (.ofText sys.jsonRoom r.contentType r.body) := by
  simp only [answer]
  rw [h.path]
  dsimp only
  rw [h.method, if_pos (by rfl), answerAt]

theorem Service.respond_post (h : r.Posts text) {s : Service} {sys : System} {response : Response}
    (hbody : verifyBody sys.answerRoom (.ofText sys.jsonRoom r.contentType r.body) =
      .ok response) : s.respond sys r = response := by
  rw [respond, answer_post h, hbody]
  dsimp only
  rw [h.method, if_neg (by decide)]

theorem Service.respond_post_fault (h : r.Posts text) {s : Service} {sys : System}
    {fault : ServiceFault}
    (hbody : verifyBody sys.answerRoom (.ofText sys.jsonRoom r.contentType r.body) =
      .error fault) : s.respond sys r = .broken := by
  rw [respond, answer_post h, hbody]

theorem Body.ofText_of_read (h : r.Posts text) {room : Nat} {v : Value}
    (hv : Json.readValue text room = .ok v) : Body.ofText room r.contentType r.body = .value v := by
  have htext : text ≠ [] := by
    rintro rfl
    cases hv
  rw [h.body_eq htext, ofJson, h.text, hv]

/-- Where reading a body is stopped, the answer is not that the body is not valid but that it
cannot be read. -/
theorem Service.respond_unreadable (h : r.Posts text) {sys : System} {stop : Json.Stop}
    {offset : Nat} (hread : Json.readValue text sys.jsonRoom = .error ⟨.stop stop, offset⟩)
    (hstop : stop ≠ .halfPair) (s : Service) :
    s.respond sys r = .refused 400 (.text "There was an error parsing the body") := by
  have htext : text ≠ [] := by
    rintro rfl
    cases hread
  refine respond_post h ?_
  rw [h.body_eq htext, Body.ofJson, h.text, hread]
  cases stop with
  | integerDigits | tooDeep => rfl
  | halfPair => exact absurd rfl hstop

section

variable {I body : Value} {R : List Value} {sys : System}

theorem Service.respond_valid (h : r.Posts text)
    (hread : Json.readValue text sys.jsonRoom = .ok body)
    (hbody : VerifyRequest.Holds I (.list R) body) {i : Interface} {rules : List Rule}
    (hi : Interface.ofValue I = .ok i) (hrules : Rule.ReadsAs R rules) {report : Report}
    (hreport : Report.build (i.verify rules) = .ok report) (s : Service) :
    s.respond sys r = .ofReport report := by
  have hvalid : VerifyRequest.ofValue body = .ok ⟨i, rules⟩ :=
    (VerifyRequest.ofValue_eq_ok_iff hbody).mpr ⟨hi, hrules⟩
  refine respond_post h ?_
  rw [Body.ofText_of_read h hread, verifyBody, hvalid]
  dsimp only
  rw [Response.ofViolations, hreport]

theorem Service.respond_invalid (h : r.Posts text)
    (hread : Json.readValue text sys.jsonRoom = .ok body)
    (hbody : VerifyRequest.Holds I (.list R) body) (hfinite : body.isFinite = true)
    (hnot : ∀ i rules, Interface.ofValue I = .ok i → ¬ Rule.ReadsAs R rules) (s : Service) :
    ((s.respond sys r).status = 422 ∨ s.respond sys r = .broken) ∧
      (body.levels < sys.answerRoom → (s.respond sys r).status = 422) := by
  cases hvalid : VerifyRequest.ofValue body with
  | ok request =>
    obtain ⟨hi, hrules⟩ := (VerifyRequest.ofValue_eq_ok_iff hbody).mp hvalid
    exact absurd hrules (hnot _ _ hi)
  | failed problems =>
    have hanswer : verifyBody sys.answerRoom (.ofText sys.jsonRoom r.contentType r.body) =
        Response.ofProblems sys.answerRoom (problems.map (Problem.detail body)) := by
      rw [Body.ofText_of_read h hread, verifyBody, hvalid]
    refine ⟨?_, fun hroom => ?_⟩
    · rw [Response.ofProblems_detail hfinite] at hanswer
      split at hanswer
      · exact .inr (respond_post_fault h hanswer)
      · refine .inl ?_
        rw [respond_post h hanswer]
        rfl
    · -- a body that holds an interface and rules is a map
      have hlevels : 1 ≤ body.levels := by cases hbody <;> exact Nat.le_add_left ..
      rw [Response.ofProblems_of_levels hfinite _ _ (by omega)] at hanswer
      rw [respond_post h hanswer]
      rfl

end

end

/-! ### The same data in files -/

namespace System

/-- The text in the file of a path decodes to the data, in whatever order it lists entries. -/
def HasData (sys : System) (path : String) (v : Value) : Prop :=
  '\x00' ∉ path.toList ∧
    ∃ text w, sys.files.HasText path text ∧ Json.read text sys.jsonRoom = .ok w ∧ v.Alike w

/-- The YAML in the file of a path decodes to the list, or to a map with an entry for it. -/
def HasRuleData (sys : System) (path : String) (vs : List Value) : Prop :=
  ∃ octets w, Contract.HasOctets sys.files path octets ∧
    Yaml.read sys.yamlRoom Contract.depth octets = .ok w ∧ Contract.Holds vs w

end System

section

variable {sys : System} {path : String}

theorem System.HasData.exists_interface {v : Value} (h : sys.HasData path v) {i : Interface}
    (hi : Interface.ofValue v = .ok i) : ∃ j, sys.HasInterface path j ∧ i.Reorders j := by
  obtain ⟨-, text, w, htext, hread, halike⟩ := h
  obtain ⟨j, hj, hreorders⟩ := Interface.ofValue_reorders halike hi
  exact ⟨j, ⟨text, w, htext, hread, hj⟩, hreorders⟩

theorem System.HasRuleData.hasRules {vs : List Value} (h : sys.HasRuleData path vs)
    {rules : List Rule} (hrules : Rule.ReadsAs vs rules) : Contract.HasRules sys path rules := by
  obtain ⟨octets, w, hoctets, hread, hholds⟩ := h
  exact ⟨octets, w, hoctets, hread, Contract.ofValue_of_holds hrules hholds _⟩

/-- The empty path leads to a directory, so the path of a file is taken as it is given. -/
theorem Contract.mem_chosen {rules : List Rule} (h : HasRules sys path rules) :
    path ∈ chosen (some path) none := by
  obtain ⟨octets, _, ⟨-, hfile⟩, -⟩ := h
  have hpath : path.isEmpty = false := by
    rw [Bool.eq_false_iff, ne_eq, String.isEmpty_iff]
    rintro rfl
    cases hfile
  simp [chosen, hpath]

end

section

variable {r : Request} (h : r.AsksConfigured) {s : Service} {sys : System}

include h

theorem Service.respond_configured {i : Interface} {rules : List Rule}
    (hi : Interface.load sys s.settings.interfacePath = .ok i)
    (hrules : Contract.HasRules sys s.settings.contractsPath rules) {report : Report}
    (hreport : Report.build (i.verify rules) = .ok report) :
    s.respond sys r = .ofReport report := by
  have hload : Contract.load sys (some s.settings.contractsPath) none = .ok rules :=
    Contract.load_eq_ok_iff.mpr ⟨_, Contract.mem_chosen hrules, hrules⟩
  have hanswer : s.answer sys r = .ok (.ofReport report) := by
    rw [answer_configured h, verifyConfigured, hload]
    dsimp only
    rw [verifyFile_of_load hi]
    dsimp only
    rw [Response.ofViolations, hreport]
  rw [respond, hanswer]
  dsimp only
  rw [h.method, if_neg (by decide)]

theorem Service.respond_configured_alike {I : Value} {R : List Value}
    (hI : sys.HasData s.settings.interfacePath I)
    (hR : sys.HasRuleData s.settings.contractsPath R) {i : Interface} {rules : List Rule}
    (hi : Interface.ofValue I = .ok i) (hrules : Rule.ReadsAs R rules) {report : Report}
    (hreport : Report.build (i.verify rules) = .ok report) :
    s.respond sys r = .ofReport report := by
  obtain ⟨j, hj, hreorders⟩ := hI.exists_interface hi
  have hload := Interface.load_of_hasInterface hI.1 hj
  have hverify : i.verify rules = j.verify rules :=
    Interface.verify_congr fun rule _ => hreorders.seesAlike rule
  rw [hverify] at hreport
  exact respond_configured h hload (hR.hasRules hrules) hreport

end

def verifyRequest (body : String) : Request :=
  ⟨"POST", .ofChars Endpoint.verify.path.toList, "application/json", body⟩

theorem verifyRequest_posts {body : String} {c : Char} {text : List Char}
    (h : body.toList = c :: text) (hc : c ≠ '\ufeff') : (verifyRequest body).Posts (c :: text) where
  method := rfl
  path := by rw [verifyRequest, Endpoint.octets_path, Endpoint.ofPath_path]
  json := by
    have htype : Body.isJsonType "application/json" = true := by decide +kernel
    exact htype
  text := by
    rw [verifyRequest, h]
    unfold Text.Utf8.withoutMark
    split
    next heq => exact absurd (List.cons.inj heq).1 hc
    next => rfl

def boothData : Value := .object [("name", .text "booth"), ("modules", .object [("m", .object [])])]

/-- The booth lacks the module of the one rule. -/
def boothRules : List Value := [.object [("kind", .text "require_exports"), ("module", .text "n")]]

def boothText : String :=
  "\x7b\x22rules\x22:[\x7b\x22kind\x22:\x22require_exports\x22,\x22module\x22:\x22n\x22\x7d],"
    ++ "\x22interface\x22:\x7b\x22name\x22:\x22booth\x22,\x22modules\x22:\x7b\x22m\x22:\x7b\x7d\x7d\x7d\x7d"

/-- The same data in files, in which the entries come in another order. -/
def booth : System := .ofFiles ⟨[
  (["fair", "api.json"], .file (Text.Utf8.encode
    "\x7b\x22modules\x22: \x7b\x22m\x22: \x7b\x7d\x7d, \x22name\x22: \x22booth\x22\x7d")),
  (["fair", "rules.yaml"], .file (Text.Utf8.encode
    "rules:\n- module: n\n  kind: require_exports\n"))], ["fair"]⟩

/-- Two entries in the other order. -/
theorem Value.alike_swap {k l : String} (hkl : k ≠ l) {v v' w w' : Value} (hv : v.Alike v')
    (hw : w.Alike w') : (object [(k, v), (l, w)]).Alike (object [(l, w'), (k, v')]) := by
  refine .map ?_ (.swap _ _ []) rfl (.cons hw (.cons hv .nil))
  simpa using fun h => hkl (Atom.text.inj h)

theorem booth_hasData : booth.HasData "api.json" boothData := by
  have hmodules : (Value.object [("m", .object [])]).IsJson :=
    Value.isJson_object (by simp) (by simp [Value.isJson_object])
  refine ⟨by decide, _, .object [("modules", .object [("m", .object [])]), ("name", .text "booth")],
    ⟨_, rfl, rfl⟩, rfl, ?_⟩
  exact Value.alike_swap (by decide) (.atom _) hmodules.alike_self

/-- Whether YAML gives a map of one list of one rule, the rule of the booth. -/
def readsBoothRules : Except Yaml.Failure Value → Bool
  | .ok (.map [(.text "rules", .list [.map [(.text "module", .text "n"),
      (.text "kind", .text "require_exports")]])]) => true
  | _ => false

theorem eq_of_readsBoothRules {x : Except Yaml.Failure Value} (h : readsBoothRules x = true) :
    x = .ok (.object [("rules", .list [.object [
      ("module", .text "n"), ("kind", .text "require_exports")]])]) := by
  unfold readsBoothRules at h
  split at h
  · rfl
  · cases h

theorem booth_hasRuleData : booth.HasRuleData "rules.yaml" boothRules := by
  refine ⟨_, _, ⟨by decide, rfl⟩, eq_of_readsBoothRules (by decide +kernel), .rules ?_⟩
  have hrule := Value.alike_swap (by decide) (.atom (.text "require_exports")) (.atom (.text "n"))
    (k := "kind") (l := "module")
  exact .map (by decide) (.refl _) rfl (.cons (.list (.cons hrule .nil)) .nil)

def boothService : Service := ⟨⟨"booth", false, "INFO", "api.json", "rules.yaml"⟩⟩

def boothInterface : Interface := ⟨"booth", none, .ofList [("m", ⟨.empty, .empty, .empty⟩)]⟩

def boothReport : Report := .ofViolations [.moduleNotFound "n"]

/-- A list in place of an interface. -/
def listText : String := "\x7b\x22interface\x22:[],\x22rules\x22:[]\x7d"

theorem toDigits_pow (k : Nat) : Nat.toDigits 10 (10 ^ k) = '1' :: List.replicate k '0' := by
  induction k with
  | zero => rfl
  | succ k ih =>
    have hstep : Nat.toDigits 10 (10 ^ k) ++ Nat.toDigits 10 0 =
        Nat.toDigits 10 (10 * 10 ^ k + 0) :=
      Nat.toDigits_append_toDigits (by decide) (Nat.pow_pos (by decide)) (by decide)
    rw [Nat.pow_succ', ← Nat.add_zero (10 * 10 ^ k), ← hstep, ih, List.replicate_succ']
    rfl

/-- Data from which an interface takes nothing; a power of ten stands in it all the same. -/
def wideData (k : Nat) : Value := .object [("n", .int ((10 ^ k : Nat) : Int))]

def wideBody (k : Nat) : Value := .object [("interface", wideData k), ("rules", .list [])]

theorem wideData_valid (k : Nat) : (wideData k).IsJson ∧ (wideData k).isFinite = true ∧
    Interface.ofValue (wideData k) = .ok ⟨"", none, .empty⟩ := by
  refine ⟨Value.isJson_object (List.nodup_singleton "n") fun field hfield => ?_, rfl, rfl⟩
  rw [List.mem_singleton.mp hfield]
  exact .int _

def wideStart : List Char := "\x7b\x22interface\x22:\x7b\x22n\x22:".toList

def wideEnd : List Char := ",\x22rules\x22:[]\x7d".toList

theorem print_wideBody (k : Nat) : (Json.print (wideBody k)).toList =
    wideStart ++ ('1' :: List.replicate k '0' ++ '\x7d' :: wideEnd) := by
  have hinteger : Text.integer ((10 ^ k : Nat) : Int) = (10 ^ k : Nat).repr := rfl
  have hdigits : (Text.integer ((10 ^ k : Nat) : Int)).toList = '1' :: List.replicate k '0' := by
    rw [hinteger, Nat.repr_eq_ofList_toDigits, String.toList_ofList, toDigits_pow]
  have hprint : Json.print (wideBody k) =
      "\x7b" ++ (Json.printText "interface" ++ ":" ++
        ("\x7b" ++ (Json.printText "n" ++ ":" ++ Text.integer ((10 ^ k : Nat) : Int)) ++ "\x7d")
        ++ "," ++ (Json.printText "rules" ++ ":" ++ ("[" ++ "" ++ "]"))) ++ "\x7d" := rfl
  rw [hprint]
  simp only [String.toList_append, hdigits, Json.printText, String.toList_ofList,
    List.append_assoc, List.cons_append]
  rfl

theorem readValue_wideBody {k : Nat} (hk : Json.maxIntegerDigits ≤ k) :
    Json.readValue (Json.print (wideBody k)).toList booth.jsonRoom =
      .error ⟨.stop (.integerDigits (k + 1)), 18⟩ := by
  have hdigits : ∀ c ∈ '1' :: List.replicate k '0', Text.isDigit c = true := by
    intro c hc
    rcases List.mem_cons.mp hc with rfl | hc
    · decide
    · rw [List.eq_of_mem_replicate hc]
      decide
  have hlength : ('1' :: List.replicate k '0').length = k + 1 := by simp
  have hend : Json.EndsInteger '\x7d' := by
    unfold Json.EndsInteger
    decide
  have hstart (rest : List Char) : Json.tokens 0 0 (wideStart ++ rest) =
      [⟨.openMap, 0⟩, ⟨.text "interface" false, 1⟩, ⟨.colon, 12⟩, ⟨.openMap, 13⟩,
        ⟨.text "n" false, 14⟩, ⟨.colon, 17⟩] ++ Json.tokens 0 18 rest := rfl
  rw [print_wideBody, Json.readValue, hstart,
    Json.tokens_of_overlong (by decide) hdigits hend (by omega), hlength]
  rfl

end ApiConformance
