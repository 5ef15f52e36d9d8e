import DigitAutomata.Automaton.Basic
import DigitAutomata.Table.Error
import DigitAutomata.Text.Decimal

/-! Validated construction from rows and final states. The rules are checked in a fixed order: the
alphabet size, the number of rows, each row's width and then its destinations, and last the final
states; the first broken one is reported. -/
namespace DigitAutomata.Automaton

/-- A size from one up to the most there may be. -/
def checkSize (most : Nat) (fault : Int → TableError) (value : Int) : Except TableError Nat :=
  if 1 ≤ value ∧ value ≤ most then .ok value.toNat else .error (fault value)

def checkAlphabetSize : Int → Except TableError Nat := checkSize 10 .invalidAlphabetSize

def checkStateCount : Int → Except TableError Nat := checkSize maxStates .invalidStateCount

/-- The first rule that the row of `source` breaks in a table of `count` states. -/
def rowFault? (alphabetSize count : Nat) (source : StateId) (row : Row) : Option TableError :=
  if row.length ≠ alphabetSize then some (.rowWidth source row.length alphabetSize)
  else (row.zipIdx.find? fun (q, _) => decide (count ≤ q.index)).map fun (q, symbol) =>
    .unknownState (toString q) (.transition source symbol)

/-- A size is a 64-bit word and is judged, and reported, by its signed value. -/
def build (alphabetSize : UInt64) (rows : List Row) (finals : List StateId) :
    Except TableError Automaton := do
  let size ← checkAlphabetSize (Text.signedValue alphabetSize)
  let count ← checkStateCount rows.length
  match (StateId.all.zip rows).findSome? fun (q, row) => rowFault? size count q row with
  | some fault => .error fault
  | none =>
    match finals.find? fun q => decide (count ≤ q.index) with
    | some q => .error (.unknownState (toString q) .finalList)
    | none => .ok (ofRows size rows finals)

end DigitAutomata.Automaton
