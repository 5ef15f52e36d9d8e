import DigitAutomata.StateId

/-! The states visited while a word is read, the start state first. A trace of a word of `n` symbols
has `n + 1` states and `n` steps. -/
namespace DigitAutomata

structure Trace where
  word : String
  visited : List StateId
deriving DecidableEq

structure Step where
  source : StateId
  symbol : Char
  target : StateId
deriving DecidableEq

namespace Step

def toText (s : Step) : String := s!"{s.source} --{s.symbol}--> {s.target}"

end Step

namespace Trace

/-- Each symbol with the states before and after it. -/
def stepsOf : List StateId → List Char → List Step
  | p :: q :: rest, c :: cs => ⟨p, c, q⟩ :: stepsOf (q :: rest) cs
  | _, _ => []

def steps (t : Trace) : List Step := stepsOf t.visited t.word.toList

def last? (t : Trace) : Option StateId := t.visited.getLast?

def toText (t : Trace) : String :=
  match t.visited with
  | [] => ""
  | first :: _ =>
    toString first ++ String.join (t.steps.map fun s => s!" --{s.symbol}--> {s.target}")

end Trace

end DigitAutomata
