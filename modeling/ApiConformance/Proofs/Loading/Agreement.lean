import ApiConformance.Proofs.Json.Lines
import ApiConformance.Proofs.Loading.Interface

/-!
Loading a file agrees with loading the text in it, where there is as much room. The line ends of a
file are made alike before its text is read, and to the reader of JSON they are alike wherever they
stand.
-/
namespace ApiConformance

/-- Two loads give the same interface, or neither text decodes. -/
inductive Interface.LoadedAlike (source source' : String) :
    Except LoadError Interface → Except LoadError Interface → Prop where
  | loaded (i : Interface) : LoadedAlike source source' (.ok i) (.ok i)
  | undecodable {fault fault' : LoadFault} (h : fault.reason = .decode)
      (h' : fault'.reason = .decode) :
      LoadedAlike source source' (.error (.failure source fault)) (.error (.failure source' fault'))

/-! ### Texts -/

section

variable {text text' : List Char} (h : Text.SameLines text text') {room : Nat}

include h

theorem Json.read_ok_sameLines {v : Value} (hread : Json.read text room = .ok v) :
    Json.read text' room = .ok v := by
  have hsame := Json.read_sameLines h room
  rw [hread] at hsame
  cases hread' : Json.read text' room with
  | error => rw [hread'] at hsame; cases hsame
  | ok w => rw [hread'] at hsame; rw [Except.ok.inj hsame]

theorem Json.stopsAt_sameLines {s : Json.Stop} (hstops : Json.StopsAt text room s) :
    Json.StopsAt text' room s := by
  obtain ⟨offset, hread⟩ := hstops
  have hsame := Json.read_sameLines h room
  rw [hread] at hsame
  cases hread' : Json.read text' room with
  | ok => rw [hread'] at hsame; cases hsame
  | error f =>
    rw [hread'] at hsame
    obtain ⟨cause, place⟩ := f
    obtain rfl : cause = .stop s :=
      Failure.stop?_eq_some.mp (Except.error.inj hsame).symm
    exact ⟨place, hread'⟩

theorem Interface.ofText_ok_sameLines {source source' : String} {i : Interface}
    (hi : Interface.ofText text source room = .ok i) :
    Interface.ofText text' source' room = .ok i := by
  obtain ⟨v, hread, hv⟩ := ofText_eq_ok_iff.mp hi
  exact ofText_eq_ok_iff.mpr ⟨v, Json.read_ok_sameLines h hread, hv⟩

theorem Interface.ofText_loadedAlike (source source' : String)
    (hstops : ∀ s, ¬ Json.StopsAt text room s) :
    LoadedAlike source source' (ofText text source room) (ofText text' source' room) := by
  cases hof : ofText text source room with
  | ok i =>
    rw [ofText_ok_sameLines h hof]
    exact .loaded i
  | error e =>
    cases hof' : ofText text' source' room with
    | ok i =>
      rw [ofText_ok_sameLines h.symm hof'] at hof
      cases hof
    | error e' =>
      obtain ⟨s, hs⟩ | ⟨fault, hreason, rfl⟩ := ofText_error hof
      · exact absurd hs (hstops s)
      obtain ⟨s, hs⟩ | ⟨fault', hreason', rfl⟩ := ofText_error hof'
      · exact absurd (Json.stopsAt_sameLines h.symm hs) (hstops s)
      exact .undecodable hreason hreason'

end

/-! ### Files -/

def letterText : String := "\x7b\r\n\x22name\x22\r:\n\x22post\x22\r\n\x7d\r"

def tornText : String := "\x7b\x22name\x22: \x22po\\\rst\x22\x7d"

def longText : String := String.ofList ('1' :: List.replicate Json.maxIntegerDigits '1' ++ ['\n'])

def satchel : System := .ofFiles ⟨[
  (["letter.json"], .file (Text.Utf8.encode letterText)),
  (["torn.json"], .file (Text.Utf8.encode tornText)),
  (["long.json"], .file (Text.Utf8.encode longText))], []⟩

theorem longText_stops (room : Nat) :
    Json.StopsAt longText.toList room (.integerDigits (Json.maxIntegerDigits + 1)) := by
  have hdigits : ∀ c ∈ '1' :: List.replicate Json.maxIntegerDigits '1', Text.isDigit c = true := by
    intro c hc
    rw [← List.replicate_succ] at hc
    rw [List.eq_of_mem_replicate hc]
    decide
  have hend : Json.EndsInteger '\n' := by
    unfold Json.EndsInteger
    decide
  have hlength : ('1' :: List.replicate Json.maxIntegerDigits '1').length =
      Json.maxIntegerDigits + 1 := by rw [List.length_cons, List.length_replicate]
  have hread : Json.readValue longText.toList room =
      .error ⟨.stop (.integerDigits (Json.maxIntegerDigits + 1)), 0⟩ := by
    rw [longText, String.toList_ofList, Json.readValue,
      Json.tokens_of_overlong (by decide) hdigits hend (by omega), hlength]
    rfl
  refine ⟨0, ?_⟩
  rw [Json.read_eq_readValue, hread]
  intro rest hmark
  rw [longText, String.toList_ofList, List.cons_append] at hmark
  exact absurd (List.cons.inj hmark).1 (by decide)

end ApiConformance
