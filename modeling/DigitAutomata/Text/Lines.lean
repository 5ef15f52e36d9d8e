import DigitAutomata.Text.Blank

/-! Lines of a text or of a byte sequence. A line feed ends a line, and a carriage return directly
before it belongs to that end; a carriage return anywhere else is part of its line. What follows the
last line feed is a line of its own unless it is empty. -/
namespace DigitAutomata.Text

/-- The lines that are ended, and what follows the last line end. -/
structure Lines (α : Type) where
  ended : List (List α)
  rest : List α

namespace Lines

variable {α : Type} [DecidableEq α]

def split (feed ret : α) : List α → Lines α
  | [] => ⟨[], []⟩
  | x :: xs =>
    let tail := split feed ret xs
    if x = feed then ⟨[] :: tail.ended, tail.rest⟩
    else if x = ret ∧ xs.head? = some feed then tail
    else match tail.ended with
      | [] => ⟨[], x :: tail.rest⟩
      | line :: lines => ⟨(x :: line) :: lines, tail.rest⟩

def all (ls : Lines α) : List (List α) :=
  if ls.rest = [] then ls.ended else ls.ended ++ [ls.rest]

end Lines

def lines (text : String) : List String :=
  (Lines.split '\n' '\r' text.toList).all.map String.ofList

def byteLines (bytes : List UInt8) : Lines UInt8 := Lines.split 10 13 bytes

/-- The text that a byte sequence encodes in UTF-8, if it does. -/
def decode? (bytes : List UInt8) : Option String := String.fromUTF8? bytes.toByteArray

def encode (text : String) : List UInt8 := text.toByteArray.data.toList

end DigitAutomata.Text
