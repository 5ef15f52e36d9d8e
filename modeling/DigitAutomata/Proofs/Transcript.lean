import DigitAutomata.Proofs.JsonText
import DigitAutomata.Proofs.Walk
import DigitAutomata.Report.Document

/-! What a reader can take from a report. The text of a report is read as JSON and then by keys; the
automaton that is built from what it says is the one that was used, and reading its word there once more
comes to its trace and its verdict. -/
namespace DigitAutomata

namespace Json

/-- The value of the one field with this key. -/
def field? (key : String) : Json → Option Json
  | .object fields =>
    match fields.filter fun field => decide (field.1 = Piece.ofText key) with
    | [(_, value)] => some value
    | _ => none
  | _ => none

def bool? : Json → Option Bool
  | .bool value => some value
  | _ => none

def text? : Json → Option String
  | .string pieces => Piece.text? pieces
  | _ => none

/-- A number that a 64-bit word can hold. -/
def word? : Json → Option UInt64
  | .number literal => ((Text.natural? literal).filter (· < Text.wordCount)).map .ofNat
  | _ => none

def list? (read? : Json → Option α) : Json → Option (List α)
  | .array items => items.mapM read?
  | _ => none

theorem field?_record (key : String) (fields : List (String × Json)) :
    field? key (.record fields) =
      match fields.filter fun field => decide (field.1 = key) with
      | [(_, value)] => some value
      | _ => none := by
  rw [record_eq, field?, filter_keyed]
  generalize (fields.filter fun field => decide (field.1 = key)) = found
  rcases found with _ | ⟨_,_ | _⟩ <;> rfl

@[simp] theorem text?_ofText (text : String) : (ofText text).text? = some text :=
  Piece.text?_ofText text

theorem word?_ofNat (small : n < Text.wordCount) : (ofNat n).word? = some (.ofNat n) := by
  simp [ofNat, word?, Text.natural?_toDigits, small]

theorem list?_map {read? : Json → Option α} {write : α → Json}
    (read : ∀ a, read? (write a) = some a) (items : List α) :
    list? read? (.array (items.map write)) = some items := by
  rw [list?]
  induction items with
  | nil => rfl
  | cons a items ih => simp [read, ih]

end Json

namespace Report

/-- What a report says. -/
structure Transcript where
  alphabetSize : UInt64
  states : List State
  word : String
  trace : List StateId
  accepted : Bool

namespace Transcript

def letter? (j : Json) : Option StateId := j.text?.bind StateId.ofToken?

def state? (j : Json) : Option State := do
  let id ← (← j.field? "id") |> letter?
  let transitions ← (← j.field? "transitions") |> Json.list? letter?
  let isFinal ← (← j.field? "is_final").bool?
  some ⟨id, transitions, isFinal⟩

def ofJson? (j : Json) : Option Transcript := do
  let automaton ← j.field? "automaton"
  let alphabetSize ← (← automaton.field? "alphabet_size").word?
  let states ← (← automaton.field? "states") |> Json.list? state?
  let word ← (← j.field? "word").text?
  let trace ← (← j.field? "trace") |> Json.list? letter?
  let accepted ← (← j.field? "accepted").bool?
  some ⟨alphabetSize, states, word, trace, accepted⟩

def rows (t : Transcript) : List Row := t.states.map State.transitions

def finals (t : Transcript) : List StateId := (t.states.filter State.isFinal).map State.id

@[simp] theorem letter?_letterJson (q : StateId) : letter? (letterJson q) = some q := by
  simp [letter?, letterJson]

@[simp] theorem letters_letterJson (qs : List StateId) :
    Json.list? letter? (.array (qs.map letterJson)) = some qs :=
  Json.list?_map letter?_letterJson qs

@[simp] theorem state?_stateJson (s : State) : state? (stateJson s) = some s := by
  simp [state?, stateJson, Json.field?_record, Json.bool?]

/-- Everything that a report says is read back. -/
theorem ofJson?_evaluationJson {M : Automaton} (small : M.alphabetSize < Text.wordCount)
    (e : Evaluation) : ofJson? (evaluationJson M e) = some
      ⟨.ofNat M.alphabetSize, M.states, e.trace.word, e.trace.visited, e.verdict.isAccepted⟩ := by
  have states := Json.list?_map state?_stateJson M.states
  simp [ofJson?, evaluationJson, automatonJson, Json.field?_record, Json.bool?, states,
    Json.word?_ofNat small]

end Transcript

theorem plain_letterJson (q : StateId) : (letterJson q).Plain := .text

theorem plain_letters (qs : List StateId) : (Json.array (qs.map letterJson)).Plain :=
  .array (List.forall_mem_map.mpr fun q _ => plain_letterJson q)

theorem plain_stateJson (s : State) : (stateJson s).Plain := by
  apply Json.Plain.record
  simp only [List.forall_mem_cons]
  exact ⟨.text,plain_letters s.transitions,.bool,nofun⟩

theorem plain_automatonJson (M : Automaton) : (automatonJson M).Plain := by
  apply Json.Plain.record
  simp only [List.forall_mem_cons]
  exact ⟨.nat,.array (List.forall_mem_map.mpr fun s _ => plain_stateJson s),nofun⟩

theorem plain_evaluationJson (M : Automaton) (e : Evaluation) : (evaluationJson M e).Plain := by
  apply Json.Plain.record
  simp only [List.forall_mem_cons]
  exact ⟨plain_automatonJson M,.text,plain_letters e.trace.visited,.bool,nofun⟩

/-- A report is a JSON text that certifies itself. What it says about the automaton, with the states in
order under their letters, builds the automaton that was used; on that its word leads over the states of
its trace and is accepted exactly if it says so. -/
theorem document_certifies {M : Automaton} {word : String} {e : Evaluation}
    (constructible : M.Constructible) (read : M.evaluate word = .ok e) :
    ∃ j t M' e', Json.ofText? (document M e) = some j ∧ Transcript.ofJson? j = some t ∧
      (∀ i (h : i < t.states.length), t.states[i].id.index = i) ∧
      Automaton.build t.alphabetSize t.rows t.finals = .ok M' ∧ M' = M ∧
      M'.evaluate t.word = .ok e' ∧ e'.trace.visited = t.trace ∧
      (t.accepted = true ↔ e'.verdict = .accepted) := by
  have wellFormed := constructible.wellFormed
  have small : M.alphabetSize < Text.wordCount := Nat.lt_of_le_of_lt wellFormed.alphabet.2 (by decide)
  have word : e.trace.word = word := by
    obtain ⟨_,rfl⟩ := Automaton.evaluate_eq_ok_iff.mp read
    rfl
  refine ⟨_,_,M,e,Json.ofText?_pretty (plain_evaluationJson M e),
    Transcript.ofJson?_evaluationJson small e,wellFormed.named,wellFormed.build_eq,rfl,?_,rfl,
    Verdict.isAccepted_iff⟩
  rw [word, read]

/-- What the report on a word of two symbols says, on the automaton that tells odd from even. -/
theorem document_certifies_parity :
    let M := Automaton.ofRows 2 [[⟨1⟩, .start], [.start, ⟨1⟩]] [⟨1⟩]
    let e : Evaluation := ⟨⟨"01", [.start, ⟨1⟩, ⟨1⟩]⟩, .accepted⟩
    let t : Transcript :=
      ⟨2, [⟨.start, [⟨1⟩, .start], false⟩, ⟨⟨1⟩, [.start, ⟨1⟩], true⟩], "01", [.start, ⟨1⟩, ⟨1⟩], true⟩
    M.Constructible ∧ M.evaluate "01" = .ok e ∧
      ∃ j M' e', Json.ofText? (document M e) = some j ∧ Transcript.ofJson? j = some t ∧
        t.states.map (fun s => s.id.index.val) = [0, 1] ∧
        t.rows = [[⟨1⟩, .start], [.start, ⟨1⟩]] ∧ t.finals = [⟨1⟩] ∧
        Automaton.build 2 [[⟨1⟩, .start], [.start, ⟨1⟩]] [⟨1⟩] = .ok M' ∧ M' = M ∧
        M'.evaluate "01" = .ok e' ∧ e'.trace.visited = [.start, ⟨1⟩, ⟨1⟩] ∧ e'.verdict = .accepted := by
  intro M e t
  have built : Automaton.build 2 [[⟨1⟩, .start], [.start, ⟨1⟩]] [⟨1⟩] = .ok M := rfl
  have constructible : M.Constructible := .built built
  have read : M.evaluate "01" = .ok e := by decide +kernel
  obtain ⟨j,t',M',e',text,told,_,rebuilt,same,again,visited,accepted⟩ :=
    document_certifies constructible read
  have document : Json.ofText? (document M e) = some (evaluationJson M e) :=
    Json.ofText?_pretty (plain_evaluationJson M e)
  obtain rfl : evaluationJson M e = j := Option.some.inj (document.symm.trans text)
  have decoded : Transcript.ofJson? (evaluationJson M e) = some t :=
    Transcript.ofJson?_evaluationJson (by decide) e
  obtain rfl : t = t' := Option.some.inj (decoded.symm.trans told)
  exact ⟨constructible,read,_,M',e',text,told,rfl,rfl,rfl,rebuilt,same,again,visited,accepted.mp rfl⟩

end Report

end DigitAutomata
