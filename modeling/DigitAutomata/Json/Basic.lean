/-! JSON values. Objects keep their fields in the order of the text, repeated keys included, and a
number keeps the digits it was written with. -/
namespace DigitAutomata

/-- A piece of a JSON string. An escape can name half of a surrogate pair; with its other half missing
it stands for no character. -/
inductive Piece
  | char (c : Char)
  | half (code : Nat)
deriving DecidableEq

namespace Piece

def ofText (text : String) : List Piece := text.toList.map .char

def chars? : List Piece → Option (List Char)
  | [] => some []
  | .char c :: pieces => (chars? pieces).map (c :: ·)
  | .half _ :: _ => none

/-- The text of a string all of whose pieces are characters. -/
def text? (pieces : List Piece) : Option String := (chars? pieces).map String.ofList

@[simp] theorem chars?_map_char (cs : List Char) : chars? (cs.map .char) = some cs := by
  induction cs with
  | nil => rfl
  | cons c cs ih => simp [chars?, ih]

@[simp] theorem text?_ofText (text : String) : text? (ofText text) = some text := by
  simp [text?, ofText]

end Piece

inductive Json
  | null
  | bool (value : Bool)
  | number (literal : List Char)
  | string (pieces : List Piece)
  | array (items : List Json)
  | object (fields : List (List Piece × Json))

namespace Json

def ofText (text : String) : Json := .string (Piece.ofText text)

def ofNat (n : Nat) : Json := .number (Nat.toDigits 10 n)

/-- An object from keys and values. -/
def record (fields : List (String × Json)) : Json :=
  .object (fields.map fun (key, value) => (Piece.ofText key, value))

end Json

end DigitAutomata
