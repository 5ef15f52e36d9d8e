/-! Sets of characters, given by ranges of scalar values. -/
namespace DigitAutomata.Text

/-- Inclusive ranges of scalar values, ascending. -/
abbrev Ranges := List (Nat × Nat)

def Ranges.covers (ranges : Ranges) (c : Char) : Bool :=
  ranges.any fun (low, high) => low ≤ c.toNat && c.toNat ≤ high

end DigitAutomata.Text
