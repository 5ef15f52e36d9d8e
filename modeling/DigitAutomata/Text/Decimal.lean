/-! Integers written in decimal: an optional sign and one or more of the digits `0` to `9`, of any
length. -/
namespace DigitAutomata.Text

/-- The number that a non-empty run of digits denotes. -/
def natural? (digits : List Char) : Option Nat :=
  if digits ≠ [] ∧ digits.all Char.isDigit then some (Nat.ofDigitChars 10 digits 0) else none

inductive Sign
  | minus | plus | absent
deriving DecidableEq

/-- A written integer keeps its sign apart from its magnitude: `-0` is not `0` as text. -/
structure Numeral where
  sign : Sign
  magnitude : Nat
deriving DecidableEq

namespace Numeral

def ofToken? (token : String) : Option Numeral :=
  match token.toList with
  | '-' :: digits => (natural? digits).map (⟨.minus, ·⟩)
  | '+' :: digits => (natural? digits).map (⟨.plus, ·⟩)
  | digits => (natural? digits).map (⟨.absent, ·⟩)

def value (n : Numeral) : Int :=
  match n.sign with
  | .minus => -n.magnitude
  | .plus | .absent => n.magnitude

end Numeral

/-- The number of 64-bit words. -/
def wordCount : Nat := 18446744073709551616

/-- The number of 64-bit words that are not negative when they are read with a sign. -/
def halfCount : Nat := 9223372036854775808

/-- The nearest integer that a signed 64-bit word can hold. -/
def clampSigned (value : Int) : Int :=
  if value < -halfCount then -halfCount
  else if halfCount ≤ value then halfCount - 1
  else value

/-- A 64-bit word read with a sign. -/
def signedValue (word : UInt64) : Int :=
  if word.toNat < halfCount then word.toNat else word.toNat - wordCount

end DigitAutomata.Text
