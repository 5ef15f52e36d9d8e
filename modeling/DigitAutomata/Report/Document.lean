import DigitAutomata.Json.Printer
import DigitAutomata.Word.Evaluation

/-! The report on a word as one JSON document. It holds the whole automaton, so that a reader can
repeat the evaluation. -/
namespace DigitAutomata.Report

def letterJson (q : StateId) : Json := .ofText (toString q)

def stateJson (s : State) : Json := .record [
  ("id", letterJson s.id),
  ("transitions", .array (s.transitions.map letterJson)),
  ("is_final", .bool s.isFinal)]

def automatonJson (M : Automaton) : Json := .record [
  ("alphabet_size", .ofNat M.alphabetSize),
  ("states", .array (M.states.map stateJson))]

def evaluationJson (M : Automaton) (e : Evaluation) : Json := .record [
  ("automaton", automatonJson M),
  ("word", .ofText e.trace.word),
  ("trace", .array (e.trace.visited.map letterJson)),
  ("accepted", .bool e.verdict.isAccepted)]

def document (M : Automaton) (e : Evaluation) : String := (evaluationJson M e).pretty

end DigitAutomata.Report
