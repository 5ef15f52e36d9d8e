import DigitAutomata.StateId

/-! Deterministic automata over the digits below an alphabet size. States are kept in order of
declaration and a transition is a state's identifier, so a cycle needs no sharing. The data type
itself promises nothing; `WellFormed` is what validated construction guarantees. -/
namespace DigitAutomata

/-- The destinations of one state, by symbol. -/
abbrev Row := List StateId

structure State where
  id : StateId
  transitions : Row
  isFinal : Bool
deriving DecidableEq

def State.next? (s : State) (symbol : Nat) : Option StateId := s.transitions[symbol]?

structure Automaton where
  alphabetSize : Nat
  states : List State
deriving DecidableEq

namespace Automaton

/-- Row by row, each under the identifier of its place. A row past the last letter has none and is
left out. -/
def ofRows (alphabetSize : Nat) (rows : List Row) (finals : List StateId) : Automaton :=
  ⟨alphabetSize, StateId.all.zipWith (fun id row => ⟨id, row, finals.contains id⟩) rows⟩

def state? (M : Automaton) (q : StateId) : Option State := M.states[q.index.val]?

def start? (M : Automaton) : Option State := M.state? .start

/-- A state that was not declared is not final. -/
def isFinal (M : Automaton) (q : StateId) : Bool := (M.state? q).any State.isFinal

/-- The final states in order of declaration. -/
def finals (M : Automaton) : List StateId := (M.states.filter State.isFinal).map State.id

def next? (M : Automaton) (q : StateId) (symbol : Nat) : Option StateId :=
  (M.state? q).bind (·.next? symbol)

structure WellFormed (M : Automaton) : Prop where
  alphabet : 1 ≤ M.alphabetSize ∧ M.alphabetSize ≤ 10
  count : 1 ≤ M.states.length ∧ M.states.length ≤ maxStates
  named : ∀ i (h : i < M.states.length), M.states[i].id.index = i
  width : ∀ s ∈ M.states, s.transitions.length = M.alphabetSize
  closed : ∀ s ∈ M.states, ∀ q ∈ s.transitions, q.index < M.states.length

end Automaton

def State.toText (s : State) : String :=
  toString s.id ++ ":" ++ String.join (s.transitions.map fun q => " " ++ toString q) ++
    (if s.isFinal then " (final)" else "") ++ "\n"

/-- One line for each state: its letter, its destinations and whether it is final. -/
def Automaton.toText (M : Automaton) : String := String.join (M.states.map State.toText)

end DigitAutomata
