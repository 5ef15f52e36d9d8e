/-! What can be asked for on the command line. -/
namespace DigitAutomata

inductive OutputFormat
  | text | json
deriving DecidableEq

namespace OutputFormat

def name : OutputFormat → String
  | .text => "text"
  | .json => "json"

def ofName? (name : String) : Option OutputFormat :=
  if name = "text" then some .text else if name = "json" then some .json else none

@[simp] theorem ofName?_name (f : OutputFormat) : ofName? f.name = some f := by
  cases f <;> rfl

end OutputFormat

structure Options where
  file : Option String := none
  word : Option String := none
  config : Option String := none
  output : Option OutputFormat := none
  quiet : Bool := false
  noColor : Bool := false
deriving DecidableEq

end DigitAutomata
