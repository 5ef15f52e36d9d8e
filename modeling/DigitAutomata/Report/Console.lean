import DigitAutomata.Table.Error
import DigitAutomata.Text.Style
import DigitAutomata.Word.Evaluation

/-! What a reader at a terminal sees: the automaton as a table, the trace of a word, the verdict on it
and, when something is wrong, the error with its tag. -/
namespace DigitAutomata.Report

open Text (Palette)

/-- Fills with blanks on the left up to two characters. -/
def column (text : String) : String :=
  String.ofList (List.replicate (2 - text.length) ' ') ++ text

/-- An arrow at the start state, a star behind a final one, and the destinations. -/
def stateLine (p : Palette) (s : State) : String :=
  let marker := if s.id = .start then "→" else " "
  let name := if s.isFinal then p.paint .boldGreen s!"{s.id} *" else s!"{s.id}  "
  s!"{marker} {name} " ++ String.join (s.transitions.map fun q => s!" {q}") ++ "\n"

/-- A head line with the symbols, then one line for each state. -/
def automatonTable (p : Palette) (M : Automaton) : String :=
  let symbols := (List.range M.alphabetSize).map fun symbol =>
    " " ++ p.paint .bold (column (toString symbol))
  "      " ++ String.join symbols ++ "\n" ++ String.join (M.states.map (stateLine p))

def traceLine (p : Palette) (t : Trace) : String :=
  match t.visited with
  | [] => ""
  | first :: _ =>
    p.paint .boldCyan (toString first) ++ String.join (t.steps.map fun s =>
      " " ++ p.paint .dimmed s!"--{s.symbol}-->" ++ " " ++ p.paint .boldCyan (toString s.target))

def verdictLine (p : Palette) (word : String) (verdict : Verdict) : String :=
  let name := match verdict with
    | .accepted => p.paint .boldGreen "accepted"
    | .rejected => p.paint .boldRed "rejected"
  "The word " ++ p.paint .bold ("\"" ++ word ++ "\"") ++ " is " ++ name ++ "."

def tableError (p : Palette) (e : TableError) : String :=
  s!"{e.message} [" ++ p.paint .yellow e.tag ++ "]"

def wordError (p : Palette) (e : WordError) : String :=
  s!"{e.message} [" ++ p.paint .yellow e.tag ++ "]\n  visited before failure: " ++
    String.intercalate " " (e.visited.map toString)

end DigitAutomata.Report
