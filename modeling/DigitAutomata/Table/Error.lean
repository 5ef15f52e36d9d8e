import DigitAutomata.Files.Error
import DigitAutomata.StateId

/-! The rules of an automaton table and how each can be broken. An error names one rule and carries
what is needed to find the place; `tag` is the rule's short name and `message` the full sentence. -/
namespace DigitAutomata

/-- Where a token that names no declared state was found. -/
inductive Site
  | transition (source : StateId) (symbol : Nat)
  | finalList
deriving DecidableEq

inductive TableError
  | unreadable (origin : String) (cause : FileError)
  | missingHeader
  | malformedHeader (line : String)
  | invalidAlphabetSize (value : Int)
  | invalidStateCount (value : Int)
  | rowWidth (state : StateId) (actual expected : Nat)
  | unknownState (token : String) (site : Site)
  | stateCountMismatch (actual expected : Nat)
  | missingFinalCount
  | invalidFinalCount (token : String)
  | finalCountMismatch (declared actual : Nat)
deriving DecidableEq

namespace TableError

def tag : TableError → String
  | .unreadable .. => "source-unreadable"
  | .missingHeader => "missing-header"
  | .malformedHeader .. => "malformed-header"
  | .invalidAlphabetSize .. => "invalid-alphabet-size"
  | .invalidStateCount .. => "invalid-state-count"
  | .rowWidth .. => "transition-row-shape-mismatch"
  | .unknownState .. => "unknown-state-reference"
  | .stateCountMismatch .. => "state-count-mismatch"
  | .missingFinalCount => "missing-final-count"
  | .invalidFinalCount .. => "invalid-final-count"
  | .finalCountMismatch .. => "final-count-mismatch"

def message : TableError → String
  | .unreadable origin cause => s!"cannot read source {origin}: {cause.message}"
  | .missingHeader => "source is empty: expected a header line `<alphabet size> <state count>`"
  | .malformedHeader line =>
    s!"malformed header `{line}`: expected `<alphabet size> <state count>`"
  | .invalidAlphabetSize value => s!"alphabet size {value} is out of range (expected 1..=10)"
  | .invalidStateCount value => s!"state count {value} is out of range (expected 1..=26)"
  | .rowWidth state actual expected =>
    s!"state {state} has {actual} transition(s), expected {expected}"
  | .unknownState token (.transition source symbol) =>
    s!"unknown state `{token}` in transition of state {source} on symbol {symbol}"
  | .unknownState token .finalList => s!"unknown final state `{token}`"
  | .stateCountMismatch actual expected =>
    s!"found {actual} transition row(s) but the header declares {expected} state(s)"
  | .missingFinalCount => "missing final-state count line after the transition rows"
  | .invalidFinalCount token => s!"final-state count `{token}` is not a valid count"
  | .finalCountMismatch declared actual =>
    s!"final-state count is {declared} but {actual} final state(s) are listed"

end TableError

end DigitAutomata
