import DigitAutomata.Proofs.Walk
import DigitAutomata.Report.Console

/-! The steps of a trace. A word that is read to its end leaves one step for each of its characters, and
the steps are transitions taken one after the other from the start state. The printed trace is the same
at a terminal without colours as anywhere else, and it tells the word and the states from one another:
each step is printed in nine characters, two of which vary. -/
namespace DigitAutomata

theorem StateId.toList_toString (q : StateId) : (toString q).toList = [q.letter] :=
  String.toList_singleton q.letter

namespace Trace

/-- A step as it is printed behind the state that it is taken in. -/
def stepCells (s : Step) : List Char :=
  [' ', '-', '-', s.symbol, '-', '-', '>', ' ', s.target.letter]

theorem toList_toText (word : String) (first : StateId) (later : List StateId) :
    (toText ⟨word, first :: later⟩).toList =
      first.letter :: (stepsOf (first :: later) word.toList).flatMap stepCells := by
  have cell : ∀ s : Step, (s!" --{s.symbol}--> {s.target}").toList = stepCells s := by
    intro s
    simp [stepCells, toString]
  simp only [toText, steps, String.toList_append, String.toList_join, List.flatMap_map, cell,
    StateId.toList_toString, List.singleton_append]

/-- Equal texts fall into the same steps, since all steps are printed in one width. -/
theorem steps_of_stepCells {steps steps' : List Step}
    (same : steps.flatMap stepCells = steps'.flatMap stepCells) :
    steps.map Step.symbol = steps'.map Step.symbol ∧
      steps.map Step.target = steps'.map Step.target := by
  induction steps generalizing steps' with
  | nil =>
    cases steps' with
    | nil => exact ⟨rfl,rfl⟩
    | cons s steps' => contradiction
  | cons s steps ih =>
    cases steps' with
    | nil => contradiction
    | cons s' steps' =>
      obtain ⟨cell,rest⟩ := List.append_inj same rfl
      simp only [stepCells, List.cons.injEq, true_and, and_true] at cell
      obtain ⟨symbol,letter⟩ := cell
      obtain ⟨symbols,targets⟩ := ih rest
      have target := StateId.letter_injective _ _ letter
      exact ⟨List.cons_eq_cons.mpr ⟨symbol,symbols⟩,List.cons_eq_cons.mpr ⟨target,targets⟩⟩

end Trace

theorem Report.traceLine_plain (t : Trace) : traceLine .plain t = t.toText := by
  have step : ∀ s : Step, " " ++ s!"--{s.symbol}-->" ++ " " ++ toString s.target =
      s!" --{s.symbol}--> {s.target}" := by
    intro s
    apply String.toList_inj.mp
    simp [toString]
  cases visited : t.visited with
  | nil => simp only [traceLine, Trace.toText, visited]
  | cons first later =>
    simp only [traceLine, Trace.toText, visited, Text.Palette.paint_plain, step]

namespace Automaton

open Trace (stepsOf)

/-- `Leads M q steps target`: each step is a transition of the automaton on its symbol, taken in the
state where the step before it ended; the first is taken in `q` and the last ends in `target`. -/
inductive Leads (M : Automaton) : StateId → List Step → StateId → Prop where
  | nil : Leads M q [] q
  | cons : IsDigit c d → M.next? q d = some next → Leads M next steps target →
      Leads M q (⟨q, c, next⟩ :: steps) target

variable {M N : Automaton} {q q' next target target' : StateId} {cs : List Char}
  {visited visited' : List StateId} {position : Nat} {word word' : String} {e : Evaluation}

/-- A walk without a fault is a path over all of its characters. -/
theorem path_of_clear (clear : (M.walk q position cs).value.fault = none) :
    M.Path q cs (M.walk q position cs).value.visited (M.walk q position cs).value.last := by
  induction cs generalizing q position with
  | nil => exact .nil
  | cons c cs ih =>
    cases taken : (symbolIndex? c M.alphabetSize).bind (M.next? q) with
    | none =>
      rw [walk_stop taken] at clear
      contradiction
    | some next =>
      rw [walk_step taken] at clear ⊢
      obtain ⟨d,known,step⟩ := Option.bind_eq_some_iff.mp taken
      exact .of_next? (symbolIndex?_eq_some_iff.mp known).1 step (ih clear)

theorem path_of_evaluate (read : M.evaluate word = .ok e) :
    ∃ target, e.trace.word = word ∧ M.Path .start word.toList e.trace.visited target := by
  obtain ⟨clear,rfl⟩ := evaluate_eq_ok_iff.mp read
  exact ⟨_,rfl,path_of_clear clear⟩

theorem Path.visited_eq (path : M.Path q cs visited target) : ∃ later, visited = q :: later := by
  cases path with
  | nil => exact ⟨[],rfl⟩
  | cons => exact ⟨_,rfl⟩

theorem Path.stepsOf_cons (path : M.Path next cs visited target) (q : StateId) (c : Char) :
    stepsOf (q :: visited) (c :: cs) = ⟨q, c, next⟩ :: stepsOf visited cs := by
  obtain ⟨later,rfl⟩ := path.visited_eq
  rfl

theorem Path.getLast?_visited (path : M.Path q cs visited target) :
    visited.getLast? = some target := by
  induction path with
  | nil => rfl
  | cons _ _ _ path ih =>
    obtain ⟨later,rfl⟩ := path.visited_eq
    rw [List.getLast?_cons_cons, ih]

theorem Path.leads (path : M.Path q cs visited target) : M.Leads q (stepsOf visited cs) target := by
  induction path with
  | nil => exact .nil
  | cons digit found taken path ih =>
    rw [path.stepsOf_cons]
    exact .cons digit (next?_eq_some_iff.mpr ⟨_,found,taken⟩) ih

/-- No character is left without its step. -/
theorem Path.symbols_stepsOf (path : M.Path q cs visited target) :
    (stepsOf visited cs).map Step.symbol = cs := by
  induction path with
  | nil => rfl
  | cons _ _ _ path ih => rw [path.stepsOf_cons, List.map_cons, ih]

theorem Path.targets_stepsOf (path : M.Path q cs visited target) :
    visited = q :: (stepsOf visited cs).map Step.target := by
  induction path with
  | nil => rfl
  | cons _ _ _ path ih => rw [path.stepsOf_cons, List.map_cons, ← ih]

/-- Two traces of words that were read to their ends print alike only if they are the same. -/
theorem Path.eq_of_toText (path : M.Path q word.toList visited target)
    (path' : N.Path q' word'.toList visited' target')
    (same : Trace.toText ⟨word, visited⟩ = Trace.toText ⟨word', visited'⟩) :
    word = word' ∧ visited = visited' := by
  have chars := congrArg String.toList same
  rw [path.targets_stepsOf, path'.targets_stepsOf] at chars ⊢
  rw [Trace.toList_toText, Trace.toList_toText, ← path.targets_stepsOf,
    ← path'.targets_stepsOf] at chars
  obtain ⟨letter,rest⟩ := List.cons.inj chars
  obtain ⟨symbols,targets⟩ := Trace.steps_of_stepCells rest
  rw [path.symbols_stepsOf, path'.symbols_stepsOf] at symbols
  have first := StateId.letter_injective _ _ letter
  exact ⟨String.toList_inj.mp symbols,List.cons_eq_cons.mpr ⟨first,targets⟩⟩

/-- What the trace of a word that was read to its end says. It has one step for each character of the
word, and these are transitions of the automaton taken one after the other from the start state to the
last state of the trace. Without colours it is printed as it is written, and no other word and no other
states are printed so, on this automaton or on another. -/
theorem evaluate_steps (read : M.evaluate word = .ok e) :
    e.trace.word = word ∧
    (∃ last, e.trace.last? = some last ∧ e.trace.steps.map Step.symbol = word.toList ∧
      M.Leads .start e.trace.steps last) ∧
    Report.traceLine .plain e.trace = e.trace.toText ∧
    ∀ N word' e', Automaton.evaluate N word' = .ok e' → e'.trace.toText = e.trace.toText →
      word' = word ∧ e'.trace.visited = e.trace.visited := by
  obtain ⟨last,rfl,path⟩ := path_of_evaluate read
  refine ⟨rfl,⟨last,path.getLast?_visited,path.symbols_stepsOf,path.leads⟩,
    Report.traceLine_plain e.trace,?_⟩
  intro N word' e' read' same
  obtain ⟨last',rfl,path'⟩ := path_of_evaluate read'
  exact path'.eq_of_toText path same

/-- The trace of a word of three symbols, on the automaton that tells odd from even. -/
theorem evaluate_steps_parity :
    let M := ofRows 2 [[⟨1⟩, .start], [.start, ⟨1⟩]] [⟨1⟩]
    let e : Evaluation := ⟨⟨"010", [.start, ⟨1⟩, ⟨1⟩, .start]⟩, .rejected⟩
    M.evaluate "010" = .ok e ∧
      e.trace.steps = [⟨.start, '0', ⟨1⟩⟩, ⟨⟨1⟩, '1', ⟨1⟩⟩, ⟨⟨1⟩, '0', .start⟩] ∧
      M.Leads .start e.trace.steps .start ∧
      Report.traceLine .plain e.trace = "A --0--> B --1--> B --0--> A" ∧
      ∀ N word' e', Automaton.evaluate N word' = .ok e' →
        e'.trace.toText = "A --0--> B --1--> B --0--> A" → word' = "010" := by
  intro M e
  have read : M.evaluate "010" = .ok e := by decide +kernel
  have printed : e.trace.toText = "A --0--> B --1--> B --0--> A" := by decide +kernel
  obtain ⟨_,⟨last,known,_,leads⟩,plain,only⟩ := evaluate_steps read
  obtain rfl : StateId.start = last := Option.some.inj known
  exact ⟨read,by decide,leads,plain.trans printed,fun N word' e' read' same =>
    (only N word' e' read' (same.trans printed.symm)).1⟩

end Automaton

end DigitAutomata
