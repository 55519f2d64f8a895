import ApiConformance.Proofs.Text.Pieces
import ApiConformance.Proofs.Violation.Written

/-!
Reports that can be written can be read back. An empty line ends a paragraph and stands in none, so
a report splits into the paragraphs of its violations; and a paragraph tells its violation, because
no mark that ends a name, a list of labels or a line stands in what it ends.
-/
namespace ApiConformance

/-! ### Names and labels -/

/-- A name as it is exported, of letters, digits, underscores and slashes. -/
structure PlainName (name : String) : Prop where
  nonempty : name ≠ ""
  chars : ∀ c ∈ name.toList, c.isAlphanum ∨ c = '_' ∨ c = '/'

instance : DecidablePred PlainName := fun name =>
  decidable_of_iff
    (name ≠ "" ∧ name.toList.all fun c => c.isAlphanum || c == '_' || c == '/')
    ⟨fun h => ⟨h.1, by simpa [or_assoc] using h.2⟩,
      fun h => ⟨h.nonempty, by simpa [or_assoc] using h.chars⟩⟩

theorem PlainName.notMem {name : String} (h : PlainName name) {m : Char}
    (hm : ¬ (m.isAlphanum ∨ m = '_' ∨ m = '/')) : m ∉ name.toList :=
  fun hmem => hm (h.chars m hmem)

theorem toList_ticked (name : String) :
    (ticked name).toList = '\x60' :: (name.toList ++ ['\x60']) := by
  simp [ticked]

theorem ticked_injective : Function.Injective ticked := by
  intro name name' h
  have hchars := congrArg String.toList h
  rw [toList_ticked, toList_ticked] at hchars
  exact String.toList_inj.mp (List.append_cancel_right (List.cons.inj hchars).2)

section

variable {name name' : String} {r s : List Char}

theorem eq_of_ticked_append (hname : '\x60' ∉ name.toList) (hname' : '\x60' ∉ name'.toList)
    (h : (ticked name).toList ++ r = (ticked name').toList ++ s) : name = name' ∧ r = s := by
  rw [toList_ticked, toList_ticked, List.cons_append, List.cons_append, List.append_assoc,
    List.append_assoc] at h
  obtain ⟨hnames, hrest⟩ := eq_of_notMem_append hname hname' (List.cons.inj h).2
  exact ⟨String.toList_inj.mp hnames, hrest⟩

theorem PlainName.eq_of_ticked_append (hname : PlainName name) (hname' : PlainName name')
    (h : (ticked name).toList ++ r = (ticked name').toList ++ s) : name = name' ∧ r = s :=
  ApiConformance.eq_of_ticked_append (hname.notMem (by decide)) (hname'.notMem (by decide)) h

end

/-- A function is told from its module by the dot, which is in no name. -/
theorem eq_of_dotted {module module' function function' : String}
    (hmodule : PlainName module) (hmodule' : PlainName module')
    (h : module ++ "." ++ function = module' ++ "." ++ function') :
    module = module' ∧ function = function' := by
  have hchars := congrArg String.toList h
  simp only [String.toList_append, List.append_assoc] at hchars
  obtain ⟨hmodules, hfunctions⟩ := eq_of_notMem_append (hmodule.notMem (by decide))
    (hmodule'.notMem (by decide)) hchars
  exact ⟨String.toList_inj.mp hmodules, String.toList_inj.mp hfunctions⟩

/-- An arity is told from the name before it by the last slash, since a name may have some too. -/
theorem eq_of_slashed {name name' : String} {arity arity' : Int}
    (h : name ++ "/" ++ Text.integer arity = name' ++ "/" ++ Text.integer arity') :
    name = name' ∧ arity = arity' := by
  have hslash (arity : Int) (w z : List Char) : (Text.integer arity).toList ≠ w ++ '/' :: z := by
    intro h
    have hmem : '/' ∈ (Text.integer arity).toList := by
      rw [h]
      exact List.mem_append_right w List.mem_cons_self
    exact absurd (Text.mem_integer hmem) (by decide)
  have hchars := congrArg String.toList h
  simp only [String.toList_append, List.append_assoc] at hchars
  obtain ⟨hnames, harities⟩ := eq_of_append_mark_eq List.not_mem_nil
    (fun c _ => Set.mem_univ c) (fun c _ => Set.mem_univ c)
    (fun w z _ => hslash arity w z) (fun w z _ => hslash arity' w z) hchars
  exact ⟨String.toList_inj.mp hnames, Text.integer_inj (String.toList_inj.mp harities)⟩

/-! ### Labels -/

theorem toList_bracketed (labels : List String) : (bracketed labels).toList =
    '[' :: ([',', ' '].intercalate (labels.map String.toList) ++ [']']) := by
  simp [bracketed]

theorem forall_mem_labels {labels : List String} (h : ∀ l ∈ labels, PlainName l) {m : Char}
    (hm : ¬ (m.isAlphanum ∨ m = '_' ∨ m = '/')) : ∀ p ∈ labels.map String.toList, m ∉ p := by
  intro p hp
  obtain ⟨l, hl, rfl⟩ := List.mem_map.mp hp
  exact (h l hl).notMem hm

theorem labels_eq_of_intercalate_eq {labels labels' : List String}
    (h : ∀ l ∈ labels, PlainName l) (h' : ∀ l ∈ labels', PlainName l)
    (heq : [',', ' '].intercalate (labels.map String.toList) =
      [',', ' '].intercalate (labels'.map String.toList)) : labels = labels' := by
  have hsplit {labels : List String} (hne : labels ≠ []) (h : ∀ l ∈ labels, PlainName l) :
      splitAtPair ',' ' ' ([',', ' '].intercalate (labels.map String.toList)) =
        labels.map String.toList :=
    splitAtPair_intercalate (mt List.map_eq_nil_iff.mp hne) fun p hp =>
      .of_notMem (forall_mem_labels h (by decide) p hp)
  have hnonempty {l : String} {labels : List String} (h : ∀ l' ∈ l :: labels, PlainName l') :
      [',', ' '].intercalate ((l :: labels).map String.toList) ≠ [] := by
    rw [List.map_cons, intercalate_cons]
    intro hnil
    exact (h l (.head _)).nonempty (String.toList_eq_nil_iff.mp (List.append_eq_nil_iff.mp hnil).1)
  cases labels with
  | nil =>
    cases labels' with
    | nil => rfl
    | cons l' labels' => exact absurd heq.symm (hnonempty h')
  | cons l labels =>
    cases labels' with
    | nil => exact absurd heq (hnonempty h)
    | cons l' labels' =>
      have hchars := congrArg (splitAtPair ',' ' ') heq
      rw [hsplit (List.cons_ne_nil l labels) h, hsplit (List.cons_ne_nil l' labels') h'] at hchars
      exact List.map_injective_iff.mpr (fun _ _ => String.toList_inj.mp) hchars

theorem eq_of_bracketed_append {labels labels' : List String} {r s : List Char}
    (h : ∀ l ∈ labels, PlainName l) (h' : ∀ l ∈ labels', PlainName l)
    (heq : (bracketed labels).toList ++ r = (bracketed labels').toList ++ s) :
    labels = labels' ∧ r = s := by
  rw [toList_bracketed, toList_bracketed, List.cons_append, List.cons_append, List.append_assoc,
    List.append_assoc] at heq
  obtain ⟨hlabels, hrest⟩ := eq_of_notMem_append
    (notMem_intercalate (by decide) (forall_mem_labels h (by decide)))
    (notMem_intercalate (by decide) (forall_mem_labels h' (by decide))) (List.cons.inj heq).2
  exact ⟨labels_eq_of_intercalate_eq h h' hlabels, hrest⟩

/-! ### Paragraphs -/

/-- Names, labels and paths are such as are exported; a text for the reader is one line. -/
def Violation.Plain : Violation → Prop
  | .missingFunction source target name => PlainName source ∧ PlainName target ∧ PlainName name
  | .parameterMismatch module function expected actual =>
    PlainName module ∧ PlainName function ∧ (∀ l ∈ expected, PlainName l) ∧
      ∀ l ∈ actual, PlainName l
  | .missingType module name => PlainName module ∧ PlainName name
  | .typeMismatch moduleA moduleB name reason =>
    PlainName moduleA ∧ PlainName moduleB ∧ PlainName name ∧ '\n' ∉ reason.toList
  | .missingExport module name _ => PlainName module ∧ PlainName name
  | .moduleNotFound module => PlainName module
  | .loadFailure path _ detail => '\n' ∉ path.toList ∧ '\n' ∉ detail.toList

instance : DecidablePred Violation.Plain
  | .missingFunction source target name =>
    inferInstanceAs (Decidable (PlainName source ∧ PlainName target ∧ PlainName name))
  | .parameterMismatch module function expected actual =>
    inferInstanceAs (Decidable (PlainName module ∧ PlainName function ∧
      (∀ l ∈ expected, PlainName l) ∧ ∀ l ∈ actual, PlainName l))
  | .missingType module name => inferInstanceAs (Decidable (PlainName module ∧ PlainName name))
  | .typeMismatch moduleA moduleB name reason =>
    inferInstanceAs (Decidable (PlainName moduleA ∧ PlainName moduleB ∧ PlainName name ∧
      '\n' ∉ reason.toList))
  | .missingExport module name _ =>
    inferInstanceAs (Decidable (PlainName module ∧ PlainName name))
  | .moduleNotFound module => inferInstanceAs (Decidable (PlainName module))
  | .loadFailure path _ detail =>
    inferInstanceAs (Decidable ('\n' ∉ path.toList ∧ '\n' ∉ detail.toList))

namespace Violation

/-- What the paragraph of a kind begins with, after a word that all paragraphs begin with. -/
def Kind.letter : Kind → Char
  | .missingFunction => 'F'
  | .parameterMismatch => 'P'
  | .missingType => 'T'
  | .typeMismatch => 'T'
  | .missingExport => 'R'
  | .moduleNotFound => 'M'
  | .loadFailure => 'C'

theorem paragraph_begins (v : Violation) :
    "FAIL: ".toList ++ [v.kind.letter] <+: v.paragraph.toList := by
  unfold paragraph
  cases v <;> simp only [String.toList_append, List.append_assoc, kind, Kind.letter]
  all_goals
    refine List.IsPrefix.trans ?_ (List.prefix_append _ _)
    decide

theorem letter_eq {v w : Violation} (h : v.paragraph = w.paragraph) :
    v.kind.letter = w.kind.letter := by
  obtain ⟨r, hr⟩ := v.paragraph_begins
  obtain ⟨s, hs⟩ := w.paragraph_begins
  rw [h, ← hs, List.append_assoc, List.append_assoc] at hr
  exact (List.cons.inj (List.append_cancel_left hr)).1

theorem eq_of_missingFunction {source source' target target' name name' : String}
    (hv : (missingFunction source target name).Plain)
    (hw : (missingFunction source' target' name').Plain)
    (h : (missingFunction source target name).paragraph =
      (missingFunction source' target' name').paragraph) :
    missingFunction source target name = missingFunction source' target' name' := by
  obtain ⟨hsource, -, hname⟩ := hv
  obtain ⟨hsource', -, hname'⟩ := hw
  have hchars := congrArg String.toList h
  unfold paragraph at hchars
  simp only [String.toList_append, List.append_assoc] at hchars
  obtain ⟨rfl, hfrom⟩ := hname.eq_of_ticked_append hname' (List.append_cancel_left hchars)
  obtain ⟨rfl, hin⟩ := hsource.eq_of_ticked_append hsource' (List.append_cancel_left hfrom)
  obtain rfl := ticked_injective (String.toList_inj.mp (List.append_cancel_left hin))
  rfl

theorem eq_of_parameterMismatch {module module' function function' : String}
    {expected expected' actual actual' : List String}
    (hv : (parameterMismatch module function expected actual).Plain)
    (hw : (parameterMismatch module' function' expected' actual').Plain)
    (h : (parameterMismatch module function expected actual).paragraph =
      (parameterMismatch module' function' expected' actual').paragraph) :
    parameterMismatch module function expected actual =
      parameterMismatch module' function' expected' actual' := by
  obtain ⟨hmodule, hfunction, hexpected, hactual⟩ := hv
  obtain ⟨hmodule', hfunction', hexpected', hactual'⟩ := hw
  have hchars := congrArg String.toList h
  unfold paragraph at hchars
  simp only [String.toList_append, List.append_assoc] at hchars
  have hdotted {module function : String} (hmodule : PlainName module)
      (hfunction : PlainName function) : '\x60' ∉ (module ++ "." ++ function).toList := by
    simp [hmodule.notMem, hfunction.notMem]
  obtain ⟨hname, hrest⟩ := eq_of_ticked_append (hdotted hmodule hfunction)
    (hdotted hmodule' hfunction') (List.append_cancel_left hchars)
  obtain ⟨rfl, rfl⟩ := eq_of_dotted hmodule hmodule' hname
  obtain ⟨rfl, hlast⟩ := eq_of_bracketed_append hexpected hexpected'
    (List.append_cancel_left hrest)
  have hlabels := List.append_cancel_left hlast
  rw [← List.append_nil (bracketed actual).toList, ← List.append_nil (bracketed actual').toList]
    at hlabels
  obtain ⟨rfl, -⟩ := eq_of_bracketed_append hactual hactual' hlabels
  rfl

theorem eq_of_missingType {module module' name name' : String}
    (hv : (missingType module name).Plain) (hw : (missingType module' name').Plain)
    (h : (missingType module name).paragraph = (missingType module' name').paragraph) :
    missingType module name = missingType module' name' := by
  have hchars := congrArg String.toList h
  unfold paragraph at hchars
  simp only [String.toList_append, List.append_assoc] at hchars
  obtain ⟨rfl, hin⟩ := hv.2.eq_of_ticked_append hw.2 (List.append_cancel_left hchars)
  obtain rfl := ticked_injective (String.toList_inj.mp (List.append_cancel_left hin))
  rfl

theorem eq_of_typeMismatch {moduleA moduleA' moduleB moduleB' name name' reason reason' : String}
    (hv : (typeMismatch moduleA moduleB name reason).Plain)
    (hw : (typeMismatch moduleA' moduleB' name' reason').Plain)
    (h : (typeMismatch moduleA moduleB name reason).paragraph =
      (typeMismatch moduleA' moduleB' name' reason').paragraph) :
    typeMismatch moduleA moduleB name reason = typeMismatch moduleA' moduleB' name' reason' := by
  obtain ⟨hmoduleA, hmoduleB, hname, -⟩ := hv
  obtain ⟨hmoduleA', hmoduleB', hname', -⟩ := hw
  have hchars := congrArg String.toList h
  unfold paragraph at hchars
  simp only [String.toList_append, List.append_assoc] at hchars
  obtain ⟨rfl, hbetween⟩ := hname.eq_of_ticked_append hname' (List.append_cancel_left hchars)
  obtain ⟨rfl, hand⟩ := hmoduleA.eq_of_ticked_append hmoduleA' (List.append_cancel_left hbetween)
  obtain ⟨rfl, hreason⟩ := hmoduleB.eq_of_ticked_append hmoduleB' (List.append_cancel_left hand)
  obtain rfl := String.toList_inj.mp (List.append_cancel_left hreason)
  rfl

/-- What is said of a type tells whether it is missing or differs. -/
theorem missingType_ne_typeMismatch {module moduleA moduleB name name' reason : String}
    (hv : (missingType module name).Plain)
    (hw : (typeMismatch moduleA moduleB name' reason).Plain) :
    (missingType module name).paragraph ≠
      (typeMismatch moduleA moduleB name' reason).paragraph := by
  intro h
  obtain ⟨-, -, hname', -⟩ := hw
  have hchars := congrArg String.toList h
  unfold paragraph at hchars
  simp only [String.toList_append, List.append_assoc] at hchars
  obtain ⟨rfl, hsaid⟩ := hv.2.eq_of_ticked_append hname' (List.append_cancel_left hchars)
  have hsecond := congrArg (·[1]?) hsaid
  simp at hsecond

theorem eq_of_missingExport {module module' name name' : String} {arity arity' : Int}
    (hv : (missingExport module name arity).Plain)
    (hw : (missingExport module' name' arity').Plain)
    (h : (missingExport module name arity).paragraph =
      (missingExport module' name' arity').paragraph) :
    missingExport module name arity = missingExport module' name' arity' := by
  have hchars := congrArg String.toList h
  unfold paragraph at hchars
  simp only [String.toList_append, List.append_assoc] at hchars
  have hslashed {name : String} {arity : Int} (hname : PlainName name) :
      '\x60' ∉ (name ++ "/" ++ Text.integer arity).toList := by
    have harity : '\x60' ∉ (Text.integer arity).toList :=
      fun hmem => absurd (Text.mem_integer hmem) (by decide)
    simp [hname.notMem, harity]
  obtain ⟨hexport, hin⟩ := eq_of_ticked_append (hslashed hv.2) (hslashed hw.2)
    (List.append_cancel_left hchars)
  obtain ⟨rfl, rfl⟩ := eq_of_slashed hexport
  obtain rfl := ticked_injective (String.toList_inj.mp (List.append_cancel_left hin))
  rfl

theorem eq_of_moduleNotFound {module module' : String}
    (h : (moduleNotFound module).paragraph = (moduleNotFound module').paragraph) :
    moduleNotFound module = moduleNotFound module' := by
  have hchars := congrArg String.toList h
  unfold paragraph at hchars
  simp only [String.toList_append, List.append_assoc] at hchars
  have hmodule := List.append_cancel_right (List.append_cancel_left hchars)
  obtain rfl := ticked_injective (String.toList_inj.mp hmodule)
  rfl

/-- A path is told by the end of its line, since a backtick may stand in it. -/
theorem eq_of_loadFailure {path path' detail detail' : String} {reason reason' : LoadReason}
    (hv : (loadFailure path reason detail).Plain) (hw : (loadFailure path' reason' detail').Plain)
    (h : (loadFailure path reason detail).paragraph =
      (loadFailure path' reason' detail').paragraph) :
    loadFailure path reason detail = loadFailure path' reason' detail' := by
  have hchars := congrArg String.toList h
  unfold paragraph at hchars
  simp only [String.toList_append, List.append_assoc] at hchars
  have hreason : reason = reason' := by
    have hletter := congrArg List.head? (List.append_cancel_left hchars)
    cases reason <;> cases reason' <;> simp [LoadReason.text] at hletter ⊢
  subst hreason
  have hline {path : String} (hpath : '\n' ∉ path.toList) : '\n' ∉ (ticked path).toList := by
    simp [toList_ticked, hpath]
  obtain ⟨hpath, hdetail⟩ := eq_of_notMem_append (hline hv.1) (hline hw.1)
    (List.append_cancel_left (List.append_cancel_left (List.append_cancel_left hchars)))
  obtain rfl := ticked_injective (String.toList_inj.mp hpath)
  obtain rfl := String.toList_inj.mp (List.append_cancel_left hdetail)
  rfl

theorem eq_of_paragraph_eq {v w : Violation} (hv : v.Plain) (hw : w.Plain)
    (h : v.paragraph = w.paragraph) : v = w := by
  have hletter := letter_eq h
  cases v with
  | missingFunction =>
    cases w with
    | missingFunction => exact eq_of_missingFunction hv hw h
    | _ => simp [kind, Kind.letter] at hletter
  | parameterMismatch =>
    cases w with
    | parameterMismatch => exact eq_of_parameterMismatch hv hw h
    | _ => simp [kind, Kind.letter] at hletter
  | missingType =>
    cases w with
    | missingType => exact eq_of_missingType hv hw h
    | typeMismatch => exact absurd h (missingType_ne_typeMismatch hv hw)
    | _ => simp [kind, Kind.letter] at hletter
  | typeMismatch =>
    cases w with
    | missingType => exact absurd h.symm (missingType_ne_typeMismatch hw hv)
    | typeMismatch => exact eq_of_typeMismatch hv hw h
    | _ => simp [kind, Kind.letter] at hletter
  | missingExport =>
    cases w with
    | missingExport => exact eq_of_missingExport hv hw h
    | _ => simp [kind, Kind.letter] at hletter
  | moduleNotFound =>
    cases w with
    | moduleNotFound => exact eq_of_moduleNotFound h
    | _ => simp [kind, Kind.letter] at hletter
  | loadFailure =>
    cases w with
    | loadFailure => exact eq_of_loadFailure hv hw h
    | _ => simp [kind, Kind.letter] at hletter

/-! ### Lines -/

theorem newline_notMem_ticked {name : String} (h : '\n' ∉ name.toList) :
    '\n' ∉ (ticked name).toList := by
  simp [toList_ticked, h]

theorem newline_notMem_bracketed {labels : List String} (h : ∀ l ∈ labels, PlainName l) :
    '\n' ∉ (bracketed labels).toList := by
  have hlabels : '\n' ∉ [',', ' '].intercalate (labels.map String.toList) :=
    notMem_intercalate (by decide) (forall_mem_labels h (by decide))
  simp [toList_bracketed, hlabels]

/-- A line and indented ones after it. -/
theorem whole_lines {line rest : List Char} (hline : '\n' ∉ line) (hindent : rest.head? = some ' ')
    (hrest : Whole '\n' '\n' rest) : Whole '\n' '\n' (line ++ '\n' :: rest) := by
  obtain ⟨rest, rfl⟩ := List.head?_eq_some_iff.mp hindent
  exact .append hline (by decide) hrest

/-- No empty line stands in a paragraph, and no paragraph ends in a line end. -/
theorem whole_paragraph {v : Violation} (hv : v.Plain) : Whole '\n' '\n' v.paragraph.toList := by
  have hplain {name : String} (h : PlainName name) : '\n' ∉ (ticked name).toList :=
    newline_notMem_ticked (h.notMem (by decide))
  unfold paragraph
  cases v with
  | missingFunction source target name =>
    obtain ⟨hsource, htarget, hname⟩ := hv
    exact .of_notMem (by simp [hplain hsource, hplain htarget, hplain hname])
  | parameterMismatch module function expected actual =>
    obtain ⟨hmodule, hfunction, hexpected, hactual⟩ := hv
    have hname : '\n' ∉ (ticked (module ++ "." ++ function)).toList :=
      newline_notMem_ticked (by simp [hmodule.notMem, hfunction.notMem])
    have hfirst : '\n' ∉ ("FAIL: Parameter mismatch in " ++
        ticked (module ++ "." ++ function)).toList := by simp [hname]
    have hsecond : '\n' ∉ ("  expected: " ++ bracketed expected).toList := by
      simp [newline_notMem_bracketed hexpected]
    have hthird : '\n' ∉ ("  actual:   " ++ bracketed actual).toList := by
      simp [newline_notMem_bracketed hactual]
    have hrest := whole_lines hsecond (by simp) (.of_notMem hthird)
    simpa using whole_lines hfirst (by simp) hrest
  | missingType module name =>
    exact .of_notMem (by simp [hplain hv.1, hplain hv.2])
  | typeMismatch moduleA moduleB name reason =>
    obtain ⟨hmoduleA, hmoduleB, hname, hreason⟩ := hv
    have hfirst : '\n' ∉ ("FAIL: Type " ++ ticked name ++ " differs between " ++ ticked moduleA
        ++ " and " ++ ticked moduleB).toList := by
      simp [hplain hmoduleA, hplain hmoduleB, hplain hname]
    have hsecond : '\n' ∉ ("  reason: " ++ reason).toList := by simp [hreason]
    simpa using whole_lines hfirst (by simp) (.of_notMem hsecond)
  | missingExport module name arity =>
    have harity : '\n' ∉ (Text.integer arity).toList :=
      fun hmem => absurd (Text.mem_integer hmem) (by decide)
    have hexport : '\n' ∉ (ticked (name ++ "/" ++ Text.integer arity)).toList :=
      newline_notMem_ticked (by simp [hv.2.notMem, harity])
    exact .of_notMem (by simp [hplain hv.1, hexport])
  | moduleNotFound module =>
    exact .of_notMem (by simp [hplain hv])
  | loadFailure path reason detail =>
    have hreason : '\n' ∉ reason.text.toList := by cases reason <;> decide
    have hfirst : '\n' ∉ ("FAIL: Could not " ++ reason.text ++ " package interface "
        ++ ticked path).toList := by
      simp [hreason, newline_notMem_ticked hv.1]
    have hsecond : '\n' ∉ ("  " ++ detail).toList := by simp [hv.2]
    simpa using whole_lines hfirst (by simp) (.of_notMem hsecond)

end Violation

/-! ### Reports -/

theorem toList_reportText {vs : List Violation} (h : vs ≠ []) : (reportText vs).toList =
    ['\n', '\n'].intercalate (vs.map fun v => v.paragraph.toList) := by
  simp [reportText, paragraphs, h, Function.comp_def]

theorem splitAtPair_reportText {vs : List Violation} (hne : vs ≠ []) (h : ∀ v ∈ vs, v.Plain) :
    splitAtPair '\n' '\n' (reportText vs).toList = vs.map fun v => v.paragraph.toList := by
  rw [toList_reportText hne]
  refine splitAtPair_intercalate (mt List.map_eq_nil_iff.mp hne) fun p hp => ?_
  obtain ⟨v, hv, rfl⟩ := List.mem_map.mp hp
  exact Violation.whole_paragraph (h v hv)

theorem reportText_eq_pass_iff {vs : List Violation} :
    reportText vs = "PASS: all surface contracts hold" ↔ vs = [] := by
  refine ⟨fun h => ?_, fun h => by rw [h]; rfl⟩
  cases vs with
  | nil => rfl
  | cons v vs =>
    obtain ⟨r, hr⟩ := v.paragraph_begins
    have hchars := toList_reportText (List.cons_ne_nil v vs)
    rw [h, List.map_cons, intercalate_cons, ← hr, List.append_assoc, List.append_assoc] at hchars
    have hhead := congrArg List.head? hchars
    simp at hhead

theorem eq_of_map_paragraph_eq {vs ws : List Violation} (hvs : ∀ v ∈ vs, v.Plain)
    (hws : ∀ w ∈ ws, w.Plain)
    (h : vs.map (fun v => v.paragraph.toList) = ws.map fun w => w.paragraph.toList) : vs = ws := by
  induction vs generalizing ws with
  | nil => exact (List.map_eq_nil_iff.mp h.symm).symm
  | cons v vs ih =>
    cases ws with
    | nil => cases h
    | cons w ws =>
      obtain ⟨hv, hvs⟩ := List.forall_mem_cons.mp hvs
      obtain ⟨hw, hws⟩ := List.forall_mem_cons.mp hws
      obtain ⟨hparagraph, hrest⟩ := List.cons.inj h
      rw [Violation.eq_of_paragraph_eq hv hw (String.toList_inj.mp hparagraph), ih hvs hws hrest]

theorem eq_of_reportText_eq {vs ws : List Violation} (hvs : ∀ v ∈ vs, v.Plain)
    (hws : ∀ w ∈ ws, w.Plain) (h : reportText vs = reportText ws) : vs = ws := by
  by_cases hv : vs = []
  · rw [reportText_eq_pass_iff.mpr hv] at h
    rw [hv, reportText_eq_pass_iff.mp h.symm]
  · have hw : ws ≠ [] := fun hw =>
      hv (reportText_eq_pass_iff.mp (h.trans (reportText_eq_pass_iff.mpr hw)))
    have hsplit := congrArg (fun text : String => splitAtPair '\n' '\n' text.toList) h
    rw [splitAtPair_reportText hv hvs, splitAtPair_reportText hw hws] at hsplit
    exact eq_of_map_paragraph_eq hvs hws hsplit

theorem paragraph_begins_fail (v : Violation) : "FAIL:".toList <+: v.paragraph.toList := by
  have hword : "FAIL:".toList <+: "FAIL: ".toList ++ [v.kind.letter] :=
    List.IsPrefix.trans (by decide) (List.prefix_append _ _)
  exact hword.trans v.paragraph_begins

/-- A report can be written exactly if every violation can, and only a report on none says that all
contracts hold. On plain violations it tells what they are: no other such violations have the same
report. At its empty lines it splits into their paragraphs. -/
theorem writeReport_readable (vs : List Violation) :
    ((∃ text, writeReport vs = .ok text) ↔ ∀ v ∈ vs, v.IsWritable) ∧
    (writeReport vs = .ok "PASS: all surface contracts hold" ↔ vs = []) ∧
    ∀ text, writeReport vs = .ok text → (∀ v ∈ vs, v.Plain) →
      (∀ ws, (∀ w ∈ ws, w.Plain) → writeReport ws = .ok text → vs = ws) ∧
      (vs ≠ [] → List.Forall₂
        (fun v piece => v.write = .ok (String.ofList piece) ∧ "FAIL:".toList <+: piece)
        vs (splitAtPair '\n' '\n' text.toList)) := by
  simp only [writeReport_eq_ok_iff]
  refine ⟨⟨fun ⟨_, h, _⟩ => h, fun h => ⟨_, h, rfl⟩⟩, ?_, ?_⟩
  · rw [reportText_eq_pass_iff]
    refine ⟨And.right, fun h => ⟨?_, h⟩⟩
    rw [h]
    exact List.forall_mem_nil _
  rintro _ ⟨hwritable, rfl⟩ hvs
  constructor
  · rintro ws hws ⟨-, htext⟩
    exact eq_of_reportText_eq hvs hws htext.symm
  · intro hne
    rw [splitAtPair_reportText hne hvs, List.forall₂_map_right_iff, List.forall₂_same]
    intro v hv
    rw [String.ofList_toList]
    exact ⟨Violation.write_eq_ok_iff.mpr ⟨hwritable v hv, rfl⟩, paragraph_begins_fail v⟩

/-! ### One of each kind -/

def findings : List Violation := [
  .missingFunction "ui/icon" "ui/themed/icon" "icon", .parameterMismatch "m" "f" ["theme", "_"] [],
  .missingType "m" "T", .typeMismatch "a" "b" "T" "definitions differ",
  .missingExport "ui/button" "on/2" 2, .moduleNotFound "gone",
  .loadFailure "a\x60.json" .decode ""]

/-- The findings are told from every other list, as that with the arity in the name. -/
theorem findings_readable :
    (∀ v ∈ findings, v.Plain) ∧
    ∃ text, writeReport findings = .ok text ∧
      List.Forall₂ (fun v piece => v.write = .ok (String.ofList piece) ∧ "FAIL:".toList <+: piece)
        findings (splitAtPair '\n' '\n' text.toList) ∧
      (∀ ws, (∀ w ∈ ws, w.Plain) → writeReport ws = .ok text → findings = ws) ∧
      text ≠ "PASS: all surface contracts hold" ∧
      writeReport [.missingExport "m" "on/2" 2] ≠ writeReport [.missingExport "m" "on" 2] := by
  have hplain : ∀ v ∈ findings, v.Plain := by decide
  obtain ⟨hwritten, hpass, htold⟩ := writeReport_readable findings
  obtain ⟨text, htext⟩ := hwritten.mpr (by decide +kernel)
  obtain ⟨honly, hsplit⟩ := htold text htext hplain
  refine ⟨hplain, text, htext, hsplit (by decide), honly, ?_, fun h => ?_⟩
  · rintro rfl
    exact absurd (hpass.mp htext) (by decide)
  · obtain ⟨hwritten, -, htold⟩ := writeReport_readable [.missingExport "m" "on/2" 2]
    obtain ⟨text, htext⟩ := hwritten.mpr (by decide +kernel)
    have hsame := (htold text htext (by decide)).1 [.missingExport "m" "on" 2] (by decide)
      (h.symm.trans htext)
    exact absurd hsame (by decide)

/-- An export of so many parameters that their number cannot be written. -/
def hugeExport : Violation := .missingExport "m" "f" ((10 ^ Text.maxDigits : Nat) : Int)

/-- A plain violation on which there is no report, and so no paragraph. -/
theorem hugeExport_unwritten :
    hugeExport.Plain ∧ (∀ text, hugeExport.write ≠ .ok text) ∧
    ∀ text, writeReport [hugeExport] ≠ .ok text := by
  have hhuge : ¬ hugeExport.IsWritable := Violation.not_isWritable_pow "m" "f"
  refine ⟨⟨by decide, by decide⟩, fun text h => ?_, fun text h => ?_⟩
  · exact hhuge (Violation.write_eq_ok_iff.mp h).1
  · exact hhuge ((writeReport_eq_ok_iff.mp h).1 _ (.head _))

end ApiConformance
