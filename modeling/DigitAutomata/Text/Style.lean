/-! Text styles of a terminal. A style is set by a control sequence before the text and ended by the
reset sequence after it. A reset inside the text would end the style too soon, so the style is set
again behind each; without styles the text is left as it is. -/
namespace DigitAutomata.Text

inductive Palette
  | plain | ansi
deriving DecidableEq

/-- The parameters of a control sequence. -/
structure Style where
  parameters : String
deriving DecidableEq

namespace Style

def bold : Style := ⟨"1"⟩
def dimmed : Style := ⟨"2"⟩
def yellow : Style := ⟨"33"⟩
def boldRed : Style := ⟨"1;31"⟩
def boldGreen : Style := ⟨"1;32"⟩
def boldCyan : Style := ⟨"1;36"⟩

def opening (s : Style) : List Char := '\x1b' :: '[' :: s.parameters.toList ++ ['m']

end Style

def reset : List Char := ['\x1b', '[', '0', 'm']

/-- Puts `again` behind every reset sequence. -/
def reopen (again : List Char) : List Char → List Char
  | '\x1b' :: '[' :: '0' :: 'm' :: cs => reset ++ again ++ reopen again cs
  | c :: cs => c :: reopen again cs
  | [] => []

namespace Palette

def paint (p : Palette) (style : Style) (text : String) : String :=
  match p with
  | .plain => text
  | .ansi => String.ofList (style.opening ++ reopen style.opening text.toList ++ reset)

@[simp] theorem paint_plain (style : Style) (text : String) :
    paint .plain style text = text := rfl

end Palette

end DigitAutomata.Text
