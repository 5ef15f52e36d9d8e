import DigitAutomata.Proofs.Colour
import DigitAutomata.Proofs.Columns
import DigitAutomata.Proofs.Transcript

/-! What a printed automaton tells. Its listing, its table and its record in JSON each name every state
with its destinations and its finality, and none of them can be taken for those of other states: a line
is cut into cells from the left, and what may follow the cells does not look like one. The states make
the automaton, since each has a destination for each symbol. -/
namespace DigitAutomata

open Text (Palette Unbroken unstyled)

namespace Report

/-- What follows the destinations of a line does not begin like one more. -/
def Closes (tail : List Char) : Prop := ∀ q : StateId, ∀ rest, tail ≠ ' ' :: q.letter :: rest

def finalMark (isFinal : Bool) : List Char := if isFinal then " (final)".toList else []

/-- The line of a state in the listing. -/
def entryText (s : State) : String :=
  String.ofList (s.id.letter :: ':' :: (stateCells s.transitions ++ finalMark s.isFinal))

variable {M N : Automaton} {p : Palette} {row row' : Row} {tail tail' : List Char} {s : State}

theorem closes_nil : Closes [] := fun _ _ same => nomatch same

theorem closes_finalMark (isFinal : Bool) : Closes (finalMark isFinal) := by
  cases isFinal with
  | false => exact closes_nil
  | true =>
    intro q rest same
    have letter : '(' = q.letter := (List.cons.inj (List.cons.inj same).2).1
    have place := congrArg Char.toNat letter
    rw [StateId.letter_toNat] at place
    have : '('.toNat = 40 := rfl
    omega

/-- The destinations are read off a line up to where it closes. -/
theorem row_of_stateCells (closes : Closes tail) (closes' : Closes tail')
    (same : stateCells row ++ tail = stateCells row' ++ tail') : row = row' ∧ tail = tail' := by
  induction row generalizing row' with
  | nil =>
    cases row' with
    | nil => exact ⟨rfl,same⟩
    | cons q' row' => exact absurd same (closes q' _)
  | cons q row ih =>
    cases row' with
    | nil => exact absurd same.symm (closes' q _)
    | cons q' row' =>
      obtain ⟨letter,rest⟩ := List.cons.inj (List.cons.inj same).2
      obtain ⟨rows,tails⟩ := ih rest
      exact ⟨List.cons_eq_cons.mpr ⟨StateId.letter_injective _ _ letter,rows⟩,tails⟩

theorem entryText_injective : Function.Injective entryText := by
  intro s s' same
  obtain ⟨letter,rest⟩ := List.cons.inj (String.ofList_inj.mp same)
  obtain ⟨rows,marks⟩ := row_of_stateCells (closes_finalMark s.isFinal) (closes_finalMark s'.isFinal)
    (List.cons.inj rest).2
  have finals : ∀ a b, finalMark a = finalMark b → a = b := by decide
  exact State.mk.injEq .. ▸ ⟨StateId.letter_injective _ _ letter,rows,finals _ _ marks⟩

theorem stateText_injective : Function.Injective stateText := by
  intro s s' same
  obtain ⟨names,cells⟩ := List.append_inj (String.ofList_inj.mp same) rfl
  have ends : stateCells s.transitions ++ [] = stateCells s'.transitions ++ [] := by
    rw [cells]
  obtain ⟨rows,_⟩ := row_of_stateCells closes_nil closes_nil ends
  simp only [stateName, List.cons.injEq, true_and, and_true] at names
  obtain ⟨_,letter,star⟩ := names
  have stars : ∀ a b : Bool, (if a then '*' else ' ') = (if b then '*' else ' ') → a = b := by decide
  exact State.mk.injEq .. ▸ ⟨StateId.letter_injective _ _ letter,rows,stars _ _ star⟩

theorem toText_state (s : State) : s.toText = entryText s ++ "\n" := by
  apply String.toList_inj.mp
  rw [State.toText, join_destinations]
  cases final : s.isFinal <;> simp [entryText, finalMark, final, toString]

theorem unbroken_entryText (s : State) : Unbroken (entryText s) := by
  have mark : ∀ isFinal, ∀ c ∈ finalMark isFinal, 32 ≤ c.toNat := by
    intro isFinal
    cases isFinal <;> simp [finalMark]
  apply unbroken_of_visible
  rw [entryText, String.toList_ofList]
  simp only [List.forall_mem_cons, List.forall_mem_append]
  exact ⟨visible_letter s.id,by decide,visible_stateCells s.transitions,mark s.isFinal⟩

theorem lines_toText (M : Automaton) : Text.lines M.toText = M.states.map entryText := by
  have entries : State.toText = fun s => entryText s ++ "\n" := funext toText_state
  have listing : M.toText = String.join ((M.states.map entryText).map (· ++ "\n")) := by
    rw [Automaton.toText, entries, List.map_map]
    rfl
  rw [listing]
  exact Text.lines_join (List.forall_mem_map.mpr fun s _ => unbroken_entryText s)

theorem states_of_toText (same : M.toText = N.toText) : M.states = N.states := by
  have lines := congrArg Text.lines same
  rw [lines_toText, lines_toText] at lines
  exact List.map_injective_iff.mpr entryText_injective lines

/-- In colour or without, the table shows the states. -/
theorem states_of_automatonTable (small : M.alphabetSize ≤ 10) (small' : N.alphabetSize ≤ 10)
    (same : automatonTable p M = automatonTable p N) : M.states = N.states := by
  have plain := congrArg unstyled same
  rw [(shows_automatonTable p M).unstyled_eq, (shows_automatonTable p N).unstyled_eq] at plain
  have lines := congrArg Text.lines plain
  rw [lines_automatonTable small, lines_automatonTable small'] at lines
  exact List.map_injective_iff.mpr stateText_injective (List.cons.inj lines).2

/-- The states are read from the record as they are read from a report. -/
theorem states_of_automatonJson (same : automatonJson M = automatonJson N) :
    M.states = N.states := by
  have read : ∀ L : Automaton, ((automatonJson L).field? "states").bind
      (Json.list? Transcript.state?) = some L.states := by
    intro L
    simp [automatonJson, Json.field?_record, Json.list?_map Transcript.state?_stateJson]
  have states := read M
  rw [same, read N] at states
  exact (Option.some.inj states).symm

theorem automatonJson_of_pretty (same : (automatonJson M).pretty = (automatonJson N).pretty) :
    automatonJson M = automatonJson N := by
  have values := congrArg Json.ofText? same
  rw [Json.ofText?_pretty (plain_automatonJson M), Json.ofText?_pretty (plain_automatonJson N)] at values
  exact Option.some.inj values

end Report

namespace Automaton

variable {M N : Automaton}

/-- The alphabet is as large as the row of any state. -/
theorem WellFormed.eq_of_states (left : M.WellFormed) (right : N.WellFormed)
    (same : M.states = N.states) : M = N := by
  have first := List.getElem_mem left.count.1
  have alphabet : M.alphabetSize = N.alphabetSize :=
    (left.width _ first).symm.trans (right.width _ (same ▸ first))
  cases M
  cases N
  simp_all

/-- No two automata that can be constructed are printed alike: not in their listings, not in their
tables, with colours or without, and not in JSON, be it as a record or as its text. -/
theorem eq_of_views (left : M.Constructible) (right : N.Constructible) (p : Palette)
    (same : M.toText = N.toText ∨ Report.automatonTable p M = Report.automatonTable p N ∨
      Report.automatonJson M = Report.automatonJson N ∨
      (Report.automatonJson M).pretty = (Report.automatonJson N).pretty) : M = N := by
  apply left.wellFormed.eq_of_states right.wellFormed
  rcases same with listing | table | record | text
  · exact Report.states_of_toText listing
  · exact Report.states_of_automatonTable left.wellFormed.alphabet.2 right.wellFormed.alphabet.2 table
  · exact Report.states_of_automatonJson record
  · exact Report.states_of_automatonJson (Report.automatonJson_of_pretty text)

/-- The final state is named once or twice: what is printed in colour is the same, and so is the
automaton. With the finality moved to the other state the listing tells. -/
theorem eq_of_views_parity :
    let rows := [[⟨1⟩, StateId.start], [.start, ⟨1⟩]]
    let M := ofRows 2 rows [⟨1⟩]
    let N := ofRows 2 rows [⟨1⟩, ⟨1⟩]
    M.Constructible ∧ N.Constructible ∧
      Report.automatonTable .ansi M = Report.automatonTable .ansi N ∧ M = N ∧
      M.toText = "A: B A\nB: A B (final)\n" ∧
      (ofRows 2 rows [.start]).toText = "A: B A (final)\nB: A B\n" := by
  intro rows M N
  have once : build 2 rows [⟨1⟩] = .ok M := by decide +kernel
  have twice : build 2 rows [⟨1⟩, ⟨1⟩] = .ok N := by decide +kernel
  have table : Report.automatonTable .ansi M = Report.automatonTable .ansi N := by decide +kernel
  exact ⟨.built once,.built twice,table,eq_of_views (.built once) (.built twice) .ansi (.inr (.inl table)),
    by decide +kernel,by decide +kernel⟩

end Automaton

end DigitAutomata
