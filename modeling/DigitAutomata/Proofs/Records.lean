import DigitAutomata.Proofs.Grammar
import DigitAutomata.Proofs.Steps

/-! What the journal tells of a run. Loading a table leaves one record for each line that is taken, with
the stage it leads to, and one more for the automaton; so the records of a table that is loaded are known
from its size. Evaluating a word leaves one record for each step of its trace and one for how it ends. -/
namespace DigitAutomata

open Text (solid tokens)

namespace Progress

/-- The record of a line that leads to this stage. -/
def record (p : Progress) : Record := ⟨.debug, .tableLine, s!"loader phase -> {p.name}"⟩

/-- `Passes p given stages`: from `p` on the lines, which are not blank, lead over these stages, one for
each line up to the first that breaks a rule or to the one that completes the table. -/
inductive Passes : Progress → List String → List Progress → Prop where
  | ended : Passes p [] []
  | settled : Passes (complete M) given []
  | refused : p.advance line = .error e → Passes p (line :: rest) []
  | taken : p.isComplete = false → p.advance line = .ok next → Passes next rest stages →
      Passes p (line :: rest) (next :: stages)

variable {p next : Progress} {line : String} {given rest : List String} {stages : List Progress}
  {size : Dimensions} {rows : List Row} {M : Automaton} {e : TableError}

theorem records_read_blank (p : Progress) (blank : tokens line = []) : (p.read line).records = [] := by
  rw [read, advance_blank p blank]
  simp [blank]

theorem records_read_refused (step : p.advance line = .error e) : (p.read line).records = [] := by
  rw [read, step]
  rfl

theorem records_read_taken (some : tokens line ≠ []) (unfinished : p.isComplete = false)
    (step : p.advance line = .ok next) : (p.read line).records = [next.record] := by
  rw [read, step]
  simp [some, unfinished, record]

theorem Passes.of_nil (passes : p.Passes [] stages) : stages = [] := by
  cases passes <;> rfl

theorem Passes.of_complete (passes : (complete M).Passes given stages) : stages = [] := by
  cases passes with
  | ended | settled | refused => rfl
  | taken unfinished => contradiction

/-- In a load that succeeds each line up to the one that completes the table is taken. -/
theorem Passes.of_cons (passes : p.Passes (line :: rest) stages) (unfinished : p.isComplete = false)
    (done : p.outcome (line :: rest) = .ok M) : ∃ next later, stages = next :: later ∧
      Step (tokens line) p next ∧ next.Passes rest later ∧ next.outcome rest = .ok M := by
  cases passes with
  | settled => contradiction
  | refused step =>
    rw [outcome_error step] at done
    contradiction
  | taken _ step later =>
    rw [outcome_ok step] at done
    exact ⟨_,_,rfl,advance_eq_ok_iff.mp step,later,done⟩

/-- The names of the stages after the number of final states: the list is read if a line is left for it. -/
def lastNames (given : List String) : List String := if given = [] then [] else ["done"]

theorem names_beforeFinals {declared : Nat} (some : ∀ line ∈ given, tokens line ≠ [])
    (passes : (beforeFinals size rows declared).Passes given stages)
    (done : (beforeFinals size rows declared).outcome given = .ok M) :
    stages.map name = lastNames given := by
  cases given with
  | nil => rw [passes.of_nil]; rfl
  | cons line rest =>
    obtain ⟨next,later,rfl,step,passes,_⟩ := passes.of_cons rfl done
    have words := some line List.mem_cons_self
    generalize tokens line = ws at step words
    cases step with
    | blank => contradiction
    | finals => rw [passes.of_complete]; rfl

theorem names_afterRows (some : ∀ line ∈ given, tokens line ≠ [])
    (passes : (afterRows size rows 0).Passes given stages)
    (done : (afterRows size rows 0).outcome given = .ok M) :
    stages.map name = "expect-final-list" :: lastNames (given.drop 1) := by
  cases given with
  | nil => contradiction
  | cons line rest =>
    obtain ⟨next,later,rfl,step,passes,done⟩ := passes.of_cons rfl done
    obtain ⟨words,some⟩ := List.forall_mem_cons.mp some
    generalize tokens line = ws at step words
    cases step with
    | blank => contradiction
    | surplus =>
      obtain ⟨actual,_,failed⟩ := outcome_surplus size rows 1 Nat.one_pos rest
      rw [failed] at done
      contradiction
    | count =>
      rw [List.map_cons, names_beforeFinals some passes done]
      rfl

/-- The induction is on the lines; `more` rows are due after the next one. -/
theorem names_inRows {more : Nat} (due : rows.length + (more + 1) = size.stateCount)
    (some : ∀ line ∈ given, tokens line ≠ []) (passes : (inRows size rows).Passes given stages)
    (done : (inRows size rows).outcome given = .ok M) :
    stages.map name = List.replicate more "expect-transition-row" ++
      "expect-final-count" :: "expect-final-list" :: lastNames (given.drop (more + 2)) := by
  induction given generalizing rows more stages with
  | nil => contradiction
  | cons line rest ih =>
    obtain ⟨next,later,rfl,step,passes,done⟩ := passes.of_cons rfl done
    obtain ⟨words,some⟩ := List.forall_mem_cons.mp some
    generalize tokens line = ws at step words
    cases step with
    | blank => contradiction
    | @row _ _ _ row =>
      have length : (rows ++ [row]).length + more = size.stateCount := by
        rw [List.length_append, List.length_singleton]
        omega
      -- The last row that is due leads on to the number of final states, any other one to the next row.
      cases more with
      | zero =>
        have full : holding size (rows ++ [row]) = afterRows size (rows ++ [row]) 0 := if_pos length
        rw [full] at passes done ⊢
        rw [List.map_cons, names_afterRows some passes done]
        rfl
      | succ more =>
        have inside : holding size (rows ++ [row]) = inRows size (rows ++ [row]) := if_neg (by omega)
        rw [inside] at passes done ⊢
        rw [List.map_cons, ih length some passes done]
        rfl

theorem names_start (some : ∀ line ∈ given, tokens line ≠ []) (passes : start.Passes given stages)
    (done : start.outcome given = .ok M) :
    stages.map name = List.replicate M.states.length "expect-transition-row" ++
      "expect-final-count" :: "expect-final-list" ::
        lastNames (given.drop (M.states.length + 2)) := by
  cases given with
  | nil => contradiction
  | cons line rest =>
    obtain ⟨next,later,rfl,step,passes,done⟩ := passes.of_cons rfl done
    obtain ⟨words,some⟩ := List.forall_mem_cons.mp some
    generalize tokens line = ws at step words
    cases step with
    | blank => contradiction
    | @header _ size isHeader =>
      have range := isHeader.inRange
      obtain ⟨last,fed,finished⟩ := outcome_feed done
      have filled := finish_fills range (feed_holds range (holds_header range) fed) finished
      obtain ⟨more,count⟩ := Nat.exists_eq_add_of_le' range.states.1
      have due : ([] : List Row).length + (more + 1) = size.stateCount := by simp [count]
      rw [filled.count, count, List.map_cons, names_inRows due some passes done]
      rfl

end Progress

def Step.record (s : Step) : Record := ⟨.trace, .word, s.toText⟩

namespace Automaton

open Progress
open Trace (stepsOf)

/-- The record that ends a load which succeeds. -/
def closing (origin : String) : Except TableError Automaton → List Record
  | .ok M => [⟨.debug, .table,
      s!"loaded automaton from {origin}: {M.states.length} state(s), alphabet size {M.alphabetSize}"⟩]
  | .error _ => []

/-- The record of a word that is read to its end, with the state that this is in and the verdict. -/
def ending (word : String) (last : StateId) (verdict : Verdict) : Record :=
  let name := match verdict with
    | .accepted => "Accepted"
    | .rejected => "Rejected"
  ⟨.debug, .word, "word \"" ++ word ++ s!"\" ends in {last}: {name}"⟩

/-- The record of a word that is refused for this character. -/
def rejection (c : Char) (place : Nat) : Record :=
  ⟨.debug, .word, s!"rejecting symbol {Text.quoted c} at position {place}"⟩

variable {M : Automaton} {p : Progress} {q next : StateId} {position place : Nat} {c : Char}
  {cs rest : List Char} {word : String}

theorem ending_eq (word : String) (last : StateId) (verdict : Verdict) :
    ending word last verdict =
      ⟨.debug, .word, "word \"" ++ word ++ s!"\" ends in {last}: {verdict.title}"⟩ := by
  cases verdict <;> rfl

theorem records_conclude (origin : String) (p : Progress) :
    (conclude origin p).records = closing origin (conclude origin p).value := by
  rw [value_conclude, conclude]
  cases p.finish <;> rfl

/-- The lines read before the first failure of the device are the ones that count. -/
theorem records_loadFrom (origin : String) (unfinished : p.isComplete = false)
    (readings : List Reading) : ∃ stages, p.Passes (solid (Reading.sound readings)) stages ∧
      (loadFrom origin p readings).records =
        stages.map Progress.record ++ closing origin (loadFrom origin p readings).value := by
  induction readings generalizing p with
  | nil => exact ⟨[],.ended,records_conclude origin p⟩
  | cons reading rest ih =>
    cases reading with
    | failure cause => exact ⟨[],.ended,rfl⟩
    | line text =>
      rw [Reading.sound, loadFrom, Journaled.records_bind, Journaled.value_bind, value_read]
      -- A blank line leaves no record and is not among the lines that the stages belong to.
      by_cases blank : tokens text = []
      · obtain ⟨stages,passes,records⟩ := ih unfinished
        rw [Text.solid_blank blank, records_read_blank p blank, advance_blank p blank]
        exact ⟨stages,passes,by simpa [unfinished] using records⟩
      rw [Text.solid_cons blank]
      cases step : p.advance text with
      | error e =>
        rw [records_read_refused step]
        exact ⟨[],.refused step,rfl⟩
      | ok next =>
        rw [records_read_taken blank unfinished step]
        by_cases complete : next.isComplete = true
        · obtain ⟨M,rfl⟩ := isComplete_iff.mp complete
          refine ⟨[.complete M],.taken unfinished step .settled,?_⟩
          simp only [if_pos complete, records_conclude, List.map_singleton]
        · obtain ⟨stages,passes,records⟩ := ih (p := next) (by simpa using complete)
          refine ⟨next :: stages,.taken unfinished step passes,?_⟩
          simp only [if_neg complete, records, List.map_cons, List.cons_append, List.nil_append]

theorem records_walk_stop (stuck : (symbolIndex? c M.alphabetSize).bind (M.next? q) = none) :
    (M.walk q position (c :: rest)).records = [rejection c position] := by
  simp [walk, stuck, rejection]

theorem records_walk_step (step : (symbolIndex? c M.alphabetSize).bind (M.next? q) = some next) :
    (M.walk q position (c :: rest)).records =
      Step.record ⟨q, c, next⟩ :: (M.walk next (position + 1) rest).records := by
  simp [walk, step, Step.record]

theorem records_of_clear (clear : (M.walk q position cs).value.fault = none) :
    (M.walk q position cs).records =
      (stepsOf (M.walk q position cs).value.visited cs).map Step.record := by
  induction cs generalizing q position with
  | nil => rfl
  | cons c cs ih =>
    cases taken : (symbolIndex? c M.alphabetSize).bind (M.next? q) with
    | none =>
      rw [walk_stop taken] at clear
      contradiction
    | some next =>
      rw [walk_step taken] at clear
      rw [records_walk_step taken, walk_step taken, ih clear,
        (path_of_clear clear).stepsOf_cons, List.map_cons]

/-- A walk that stops follows a path over the characters before the one it stops at. -/
theorem records_of_fault (stuck : (M.walk q position cs).value.fault = some (c, place)) :
    ∃ front rest, cs = front ++ c :: rest ∧ place = position + front.length ∧
      M.Path q front (M.walk q position cs).value.visited (M.walk q position cs).value.last ∧
      (M.walk q position cs).records =
        (stepsOf (M.walk q position cs).value.visited front).map Step.record ++
          [rejection c place] := by
  induction cs generalizing q position with
  | nil => contradiction
  | cons d cs ih =>
    cases taken : (symbolIndex? d M.alphabetSize).bind (M.next? q) with
    | none =>
      rw [walk_stop taken] at stuck ⊢
      obtain ⟨rfl,rfl⟩ := Prod.mk.inj (Option.some.inj stuck)
      exact ⟨[],cs,rfl,rfl,.nil,records_walk_stop taken⟩
    | some next =>
      rw [walk_step taken] at stuck ⊢
      obtain ⟨front,rest,split,located,path,records⟩ := ih stuck
      obtain ⟨i,known,step⟩ := Option.bind_eq_some_iff.mp taken
      refine ⟨d :: front,rest,?_,?_,.of_next? (symbolIndex?_eq_some_iff.mp known).1 step path,?_⟩
      · rw [split, List.cons_append]
      · rw [List.length_cons]
        omega
      · rw [records_walk_step taken, records, path.stepsOf_cons, List.map_cons, List.cons_append]

/-- The journal tells a run exactly. A source leaves one record for each stage that its lines lead over and,
if it is loaded, one more; the stages of a loaded table follow from its number of states and from whether
a line is left for the list of final states. A word leaves the steps of its trace and then how it ends, a
refused word the steps before the character at fault and then that character. -/
theorem records_exact :
    (∀ source, ∃ stages, start.Passes (solid (Text.lines source)) stages ∧
      (ofText source).records = stages.map Progress.record ++ closing "<string>" (parse source) ∧
      ∀ M, parse source = .ok M → stages.map name =
        List.replicate M.states.length "expect-transition-row" ++
          "expect-final-count" :: "expect-final-list" ::
            lastNames ((solid (Text.lines source)).drop (M.states.length + 2))) ∧
    (∀ M word e, evaluate M word = .ok e → ∃ last, e.trace.last? = some last ∧
      M.Leads .start e.trace.steps last ∧ e.trace.steps.map Step.symbol = word.toList ∧
      (M.run word).records = e.trace.steps.map Step.record ++ [ending word last e.verdict]) ∧
    ∀ M word e, evaluate M word = .error e → ∃ front rest last,
      word.toList = front ++ e.symbol :: rest ∧ front.length = e.position ∧
      M.Leads .start (stepsOf e.visited front) last ∧
      (stepsOf e.visited front).map Step.symbol = front ∧
      (stepsOf e.visited front).length = e.visited.length - 1 ∧
      (M.run word).records =
        (stepsOf e.visited front).map Step.record ++ [rejection e.symbol e.position] := by
  refine ⟨?_,?_,?_⟩
  · intro source
    obtain ⟨stages,passes,records⟩ :=
      records_loadFrom (p := .start) "<string>" rfl (Reading.ofText source)
    rw [Reading.ofText, Reading.sound_lines] at passes
    refine ⟨stages,passes,records,fun M loaded => ?_⟩
    rw [parse_eq_outcome, ← outcome_solid] at loaded
    exact names_start (fun line member => Text.tokens_of_mem_solid member) passes loaded
  · intro M word e read
    obtain ⟨clear,rfl⟩ := evaluate_eq_ok_iff.mp read
    have path := path_of_clear clear
    refine ⟨_,path.getLast?_visited,path.leads,path.symbols_stepsOf,?_⟩
    simp only [run, Journaled.records_bind, clear, records_of_clear clear, ending_eq]
    rfl
  · intro M word e refused
    obtain ⟨c,place,stuck,rfl⟩ := evaluate_eq_error_iff.mp refused
    obtain ⟨front,rest,split,rfl,path,records⟩ := records_of_fault stuck
    have symbols := path.symbols_stepsOf
    refine ⟨front,rest,_,split,(Nat.zero_add _).symm,path.leads,symbols,?_,?_⟩
    · rw [path.length, ← List.length_map, symbols]
      rfl
    · simp only [run, Journaled.records_bind, stuck, records]
      exact List.append_nil _

/-- A table with blank lines and with a line after its end, a word that it accepts, one that it rejects and
one with a bad character. -/
theorem records_exact_parity :
    let source := "2 2\n\nB A\nA B\n 1\nB\n2 2"
    let M := ofRows 2 [[⟨1⟩, .start], [.start, ⟨1⟩]] [⟨1⟩]
    (parse source = .ok M ∧ ∃ stages, start.Passes (solid (Text.lines source)) stages ∧
      (ofText source).records = stages.map Progress.record ++ closing "<string>" (.ok M) ∧
      stages.map name = ["expect-transition-row", "expect-transition-row", "expect-final-count",
        "expect-final-list", "done"]) ∧
    (evaluate M "01" = .ok ⟨⟨"01", [.start, ⟨1⟩, ⟨1⟩]⟩, .accepted⟩ ∧
      (M.run "01").records = [⟨.trace, .word, "A --0--> B"⟩, ⟨.trace, .word, "B --1--> B"⟩,
        ⟨.debug, .word, "word \"01\" ends in B: Accepted"⟩]) ∧
    (evaluate M "00" = .ok ⟨⟨"00", [.start, ⟨1⟩, .start]⟩, .rejected⟩ ∧
      (M.run "00").records = [⟨.trace, .word, "A --0--> B"⟩, ⟨.trace, .word, "B --0--> A"⟩,
        ⟨.debug, .word, "word \"00\" ends in A: Rejected"⟩]) ∧
    evaluate M "0x1" = .error ⟨'x', 1, 2, [.start, ⟨1⟩]⟩ ∧
      (M.run "0x1").records = [⟨.trace, .word, "A --0--> B"⟩,
        ⟨.debug, .word, "rejecting symbol 'x' at position 1"⟩] := by
  intro source M
  have loaded : parse source = .ok M := by decide +kernel
  have read : evaluate M "01" = .ok ⟨⟨"01", [.start, ⟨1⟩, ⟨1⟩]⟩, .accepted⟩ := by decide +kernel
  have rejected : evaluate M "00" = .ok ⟨⟨"00", [.start, ⟨1⟩, .start]⟩, .rejected⟩ := by
    decide +kernel
  have refused : evaluate M "0x1" = .error ⟨'x', 1, 2, [.start, ⟨1⟩]⟩ := by decide +kernel
  obtain ⟨loads,reads,refuses⟩ := records_exact
  obtain ⟨stages,passes,records,names⟩ := loads source
  obtain ⟨last,known,_,_,told⟩ := reads M "01" _ read
  obtain ⟨last',known',_,_,told'⟩ := reads M "00" _ rejected
  obtain ⟨front,rest,_,split,length,_,_,_,kept⟩ := refuses M "0x1" _ refused
  obtain rfl : ⟨1⟩ = last := Option.some.inj known
  obtain rfl : StateId.start = last' := Option.some.inj known'
  have cut : ['0'] ++ ['x', '1'] = front ++ 'x' :: rest := split
  obtain ⟨rfl,_⟩ := List.append_inj cut length.symm
  rw [loaded] at records
  exact ⟨⟨loaded,stages,passes,records,(names M loaded).trans (by decide +kernel)⟩,
    ⟨read,told.trans (by decide +kernel)⟩,⟨rejected,told'.trans (by decide +kernel)⟩,
    refused,kept.trans (by decide +kernel)⟩

end Automaton

end DigitAutomata
