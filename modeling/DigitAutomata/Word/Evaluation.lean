import DigitAutomata.Automaton.Basic
import DigitAutomata.Journal
import DigitAutomata.Word.Error
import DigitAutomata.Word.Trace

/-! Reading a word. The walk starts in the start state and takes one transition for each symbol; it
ends with the word, or at the first character that has no transition. -/
namespace DigitAutomata

/-- The number of a symbol: a digit `0` to `9` below the alphabet size. -/
def symbolIndex? (c : Char) (alphabetSize : Nat) : Option Nat :=
  if c.isDigit ∧ c.toNat - 48 < alphabetSize then some (c.toNat - 48) else none

inductive Verdict
  | accepted | rejected
deriving DecidableEq

def Verdict.ofFinal (isFinal : Bool) : Verdict := if isFinal then .accepted else .rejected

def Verdict.isAccepted : Verdict → Bool
  | .accepted => true
  | .rejected => false

theorem Verdict.isAccepted_iff {verdict : Verdict} :
    verdict.isAccepted = true ↔ verdict = .accepted := by
  cases verdict <;> decide

def Verdict.title : Verdict → String
  | .accepted => "Accepted"
  | .rejected => "Rejected"

structure Evaluation where
  trace : Trace
  verdict : Verdict
deriving DecidableEq

/-- How far a word leads: the states visited, the last of them, and the character it stops at, with
its place, if it does not lead to the end. -/
structure Walk where
  visited : List StateId
  last : StateId
  fault : Option (Char × Nat)

namespace Automaton

/-- The walk from `q`; `position` is the place in the word of the first character. -/
def walk (M : Automaton) (q : StateId) (position : Nat) : List Char → Journaled Walk
  | [] => pure ⟨[q], q, none⟩
  | c :: cs =>
    match (symbolIndex? c M.alphabetSize).bind (M.next? q) with
    | none => do
      Journaled.note .debug .word s!"rejecting symbol {Text.quoted c} at position {position}"
      pure ⟨[q], q, some (c, position)⟩
    | some target => do
      Journaled.note .trace .word (Step.toText ⟨q, c, target⟩)
      let rest ← M.walk target (position + 1) cs
      pure { rest with visited := q :: rest.visited }

/-- Evaluates a word, with a record of each step and of the outcome. A word that is read to its end
holds digits only, so it is quoted as it is. -/
def run (M : Automaton) (word : String) : Journaled (Except WordError Evaluation) := do
  let walk ← M.walk .start 0 word.toList
  match walk.fault with
  | some (symbol, position) =>
    pure (.error ⟨symbol, position, M.alphabetSize, walk.visited⟩)
  | none =>
    let verdict := Verdict.ofFinal (M.isFinal walk.last)
    Journaled.note .debug .word
      ("word \"" ++ word ++ s!"\" ends in {walk.last}: {verdict.title}")
    pure (.ok ⟨⟨word, walk.visited⟩, verdict⟩)

/-- The trace of a word and whether it ends in a final state. -/
def evaluate (M : Automaton) (word : String) : Except WordError Evaluation := (M.run word).value

def accepts (M : Automaton) (word : String) : Except WordError Bool :=
  (M.evaluate word).map fun e => e.verdict.isAccepted

end Automaton

end DigitAutomata
