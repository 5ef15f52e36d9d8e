import DigitAutomata.StateId
import DigitAutomata.Text.Quoted

/-! The one way in which reading a word fails: a character that is no symbol of the alphabet. -/
namespace DigitAutomata

/-- The first such character, where it stands, and the states visited up to it. -/
structure WordError where
  symbol : Char
  position : Nat
  alphabetSize : Nat
  visited : List StateId
deriving DecidableEq

namespace WordError

def tag (_ : WordError) : String := "invalid-symbol"

def message (e : WordError) : String :=
  s!"invalid symbol {Text.quoted e.symbol} at position {e.position} (alphabet is 0..{e.alphabetSize})"

end WordError

end DigitAutomata
