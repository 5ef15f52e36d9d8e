import DigitAutomata.Options.Basic

/-! Settings that outlive a run. Each may be absent, which is not the same as its default: an absent
setting stays absent when it is saved, and takes its default only where it is used. -/
namespace DigitAutomata

structure Settings where
  defaultFile : Option String
  output : Option OutputFormat
  color : Option Bool
  showAutomaton : Option Bool
deriving DecidableEq

namespace Settings

/-- The settings where none have been saved. -/
def default : Settings := ⟨none, some .text, some true, some true⟩

def effectiveOutput (s : Settings) : OutputFormat := s.output.getD .text
def effectiveColor (s : Settings) : Bool := s.color.getD true
def effectiveShow (s : Settings) : Bool := s.showAutomaton.getD true

/-- The command line goes before what is saved. -/
def merge (s : Settings) (o : Options) : Settings where
  defaultFile := o.file <|> s.defaultFile
  output := o.output <|> s.output
  color := if o.noColor then some false else s.color
  showAutomaton := if o.quiet then some false else s.showAutomaton

end Settings

end DigitAutomata
