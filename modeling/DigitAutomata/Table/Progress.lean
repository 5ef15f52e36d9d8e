import DigitAutomata.Automaton.Build
import DigitAutomata.Text.Blank
import DigitAutomata.Text.Decimal

/-! Reading a table line by line. A table is a header with the alphabet size and the number of
states, one row for each state, the number of final states and, unless it is 0, their list. Progress
holds what has been read and says what must come next; `advance` takes one line and `finish` the end
of the source. Only the words of a line count, but for the text of a malformed header. -/
namespace DigitAutomata

open Text (Numeral tokens)

/-- What the header declares. -/
structure Dimensions where
  alphabetSize : Nat
  stateCount : Nat
deriving DecidableEq

inductive Progress
  /-- Nothing read yet. -/
  | start
  /-- Some rows of the declared number are still to come. -/
  | inRows (size : Dimensions) (rows : List Row)
  /-- All rows read, and `surplus` lines after them that are no count. -/
  | afterRows (size : Dimensions) (rows : List Row) (surplus : Nat)
  /-- The number of final states is read and their list is not. -/
  | beforeFinals (size : Dimensions) (rows : List Row) (declared : Nat)
  | complete (automaton : Automaton)
deriving DecidableEq

/-- The reading of a line that is one integer and so cannot be a row. -/
inductive Count
  | value (n : Nat)
  /-- Signed with a minus, or too large for a 64-bit word. -/
  | outOfRange
deriving DecidableEq

def Count.ofNumeral (n : Numeral) : Count :=
  if n.sign = .minus ∨ Text.wordCount ≤ n.magnitude then .outOfRange else .value n.magnitude

def Count.ofTokens? : List String → Option Count
  | [token] => (Numeral.ofToken? token).map ofNumeral
  | _ => none

namespace Dimensions

/-- Both words must be integers before the range of either is looked at. -/
def ofTokens (line : String) : List String → Except TableError Dimensions
  | [first, second] =>
    match Numeral.ofToken? first, Numeral.ofToken? second with
    | some alphabet, some states => do
      let alphabetSize ← Automaton.checkAlphabetSize (Text.clampSigned alphabet.value)
      let stateCount ← Automaton.checkStateCount (Text.clampSigned states.value)
      .ok ⟨alphabetSize, stateCount⟩
    | _, _ => .error (.malformedHeader (Text.trim line))
  | _ => .error (.malformedHeader (Text.trim line))

/-- Every declared state can be named before its row is read. -/
def resolve? (size : Dimensions) (token : String) : Option StateId :=
  (StateId.ofToken? token).filter fun q => q.index < size.stateCount

/-- The states that the tokens name; `site i` is the place of the `i`-th token. -/
def resolveAll (size : Dimensions) (site : Nat → Site) :
    Nat → List String → Except TableError (List StateId)
  | _, [] => .ok []
  | i, token :: rest =>
    match size.resolve? token with
    | none => .error (.unknownState token (site i))
    | some q => (size.resolveAll site (i + 1) rest).map (q :: ·)

/-- The row of the state declared at `index`. A place without a letter can only come from a state
count out of range. -/
def readRow (size : Dimensions) (index : Nat) (tokens : List String) : Except TableError Row :=
  match StateId.ofIndex? index with
  | none => .error (.invalidStateCount (Text.clampSigned size.stateCount))
  | some q =>
    if tokens.length ≠ size.alphabetSize then
      .error (.rowWidth q tokens.length size.alphabetSize)
    else size.resolveAll (.transition q) 0 tokens

def readFinals (size : Dimensions) (declared : Nat) (tokens : List String) :
    Except TableError (List StateId) :=
  if tokens.length ≠ declared then .error (.finalCountMismatch declared tokens.length)
  else size.resolveAll (fun _ => .finalList) 0 tokens

end Dimensions

namespace Progress

def name : Progress → String
  | .start => "expect-header"
  | .inRows .. => "expect-transition-row"
  | .afterRows .. => "expect-final-count"
  | .beforeFinals .. => "expect-final-list"
  | .complete _ => "done"

def isComplete : Progress → Bool
  | .complete _ => true
  | _ => false

/-- Takes a line that is not blank, as its words. -/
def take (line : String) (words : List String) : Progress → Except TableError Progress
  | .start => do
    let size ← Dimensions.ofTokens line words
    .ok (.inRows size [])
  | .inRows size rows =>
    match Count.ofTokens? words with
    | some _ => .error (.stateCountMismatch rows.length size.stateCount)
    | none => do
      let row ← size.readRow rows.length words
      if rows.length + 1 = size.stateCount then .ok (.afterRows size (rows ++ [row]) 0)
      else .ok (.inRows size (rows ++ [row]))
  | .afterRows size rows surplus =>
    match Count.ofTokens? words with
    | none => .ok (.afterRows size rows (surplus + 1))
    | some count =>
      if 0 < surplus then .error (.stateCountMismatch (size.stateCount + surplus) size.stateCount)
      else match count with
        | .outOfRange => .error (.invalidFinalCount (words.headD ""))
        | .value declared => .ok (.beforeFinals size rows declared)
  | .beforeFinals size rows declared => do
    let finals ← size.readFinals declared words
    .ok (.complete (.ofRows size.alphabetSize rows finals))
  | .complete automaton => .ok (.complete automaton)

/-- A blank line changes nothing, and after the final list no line does. -/
def advance (p : Progress) (line : String) : Except TableError Progress :=
  match tokens line with
  | [] => .ok p
  | words => p.take line words

/-- A count of 0 needs no list after it. -/
def finish : Progress → Except TableError Automaton
  | .complete automaton => .ok automaton
  | .start => .error .missingHeader
  | .inRows size rows => .error (.stateCountMismatch rows.length size.stateCount)
  | .afterRows size _ surplus =>
    if 0 < surplus then .error (.stateCountMismatch (size.stateCount + surplus) size.stateCount)
    else .error .missingFinalCount
  | .beforeFinals size rows declared =>
    if declared = 0 then .ok (.ofRows size.alphabetSize rows [])
    else .error (.finalCountMismatch declared 0)

end Progress

end DigitAutomata
