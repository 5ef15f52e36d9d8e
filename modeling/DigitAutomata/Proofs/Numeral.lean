import DigitAutomata.Text.Decimal
import Mathlib.Data.List.Induction

/-! The grammar of written integers, beside the reader: a numeral is read from a token exactly if the
grammar derives it. The digits may be any number, leading zeros included. -/
namespace DigitAutomata.Text

/-- One or more of the digits `0` to `9` and the number that they denote. -/
inductive Decimal : List Char → Nat → Prop where
  | digit : c.isDigit = true → Decimal [c] (c.toNat - 48)
  | snoc : Decimal digits n → c.isDigit = true → Decimal (digits ++ [c]) (10 * n + (c.toNat - 48))

def Sign.mark : Sign → List Char
  | .minus => ['-']
  | .plus => ['+']
  | .absent => []

/-- The token is the numeral's sign followed by digits that denote its magnitude. -/
def Spells (token : String) (n : Numeral) : Prop :=
  ∃ digits, token.toList = n.sign.mark ++ digits ∧ Decimal digits n.magnitude

theorem natural?_snoc (symbol : c.isDigit = true) (known : natural? digits = some n) :
    natural? (digits ++ [c]) = some (10 * n + (c.toNat - 48)) := by
  simp only [natural?] at known ⊢
  split at known
  next run =>
    have denoted := Option.some.inj known
    rw [if_pos ⟨by simp, by simp [run.2, symbol]⟩, Nat.ofDigitChars_append, denoted]
    simp [Nat.ofDigitChars_cons]
  next => contradiction

/-- The induction is on the end of the run, where the value grows by one digit. -/
theorem natural?_eq_some_iff : natural? digits = some n ↔ Decimal digits n := by
  constructor
  · intro known
    induction digits using List.reverseRecOn generalizing n with
    | nil => simp [natural?] at known
    | append_singleton front c ih =>
      have run : front ++ [c] ≠ [] ∧ (front ++ [c]).all Char.isDigit := by
        by_contra bad
        simp only [natural?, if_neg bad, reduceCtorEq] at known
      have symbol : c.isDigit = true := by
        have all := run.2
        simp only [List.all_append, Bool.and_eq_true] at all
        simpa using all.2
      by_cases single : front = []
      · subst single
        have value : c.toNat - 48 = n := by
          simpa [natural?, symbol, Nat.ofDigitChars_cons] using known
        exact value ▸ .digit symbol
      · have digits : front.all Char.isDigit := by
          have all := run.2
          simp only [List.all_append, Bool.and_eq_true] at all
          exact all.1
        have before : natural? front = some (Nat.ofDigitChars 10 front 0) := by
          simp only [natural?, if_pos (And.intro single digits)]
        have value := Option.some.inj ((natural?_snoc symbol before).symm.trans known)
        exact value ▸ .snoc (ih before) symbol
  · intro derived
    induction derived with
    | digit symbol => simp [natural?, symbol, Nat.ofDigitChars_cons]
    | snoc _ symbol ih => exact natural?_snoc symbol ih

theorem Decimal.ne_nil (derived : Decimal digits n) : digits ≠ [] := by
  cases derived <;> simp

theorem Decimal.isDigit (derived : Decimal digits n) (member : c ∈ digits) : c.isDigit = true := by
  induction derived with
  | digit symbol => simpa [List.mem_singleton.mp member] using symbol
  | snoc _ symbol ih =>
    rcases List.mem_append.mp member with front | last
    · exact ih front
    · simpa [List.mem_singleton.mp last] using symbol

/-- Reading a numeral and deriving it are the same; a sign is never taken for a digit. -/
theorem Numeral.ofToken?_eq_some_iff : Numeral.ofToken? token = some n ↔ Spells token n := by
  constructor
  · intro known
    simp only [Numeral.ofToken?] at known
    split at known
    next digits text =>
      obtain ⟨magnitude,read,rfl⟩ := Option.map_eq_some_iff.mp known
      exact ⟨digits,text,natural?_eq_some_iff.mp read⟩
    next digits text =>
      obtain ⟨magnitude,read,rfl⟩ := Option.map_eq_some_iff.mp known
      exact ⟨digits,text,natural?_eq_some_iff.mp read⟩
    next =>
      obtain ⟨magnitude,read,rfl⟩ := Option.map_eq_some_iff.mp known
      exact ⟨token.toList,rfl,natural?_eq_some_iff.mp read⟩
  · rintro ⟨digits,text,derived⟩
    have read := natural?_eq_some_iff.mpr derived
    obtain ⟨sign,magnitude⟩ := n
    cases sign with
    | minus => simp [ofToken?, text, Sign.mark, read]
    | plus => simp [ofToken?, text, Sign.mark, read]
    | absent =>
      simp only [Sign.mark, List.nil_append] at text
      subst text
      simp only [ofToken?]
      split
      next rest signed =>
        rw [signed] at derived
        exact absurd (derived.isDigit List.mem_cons_self) (by decide)
      next rest signed =>
        rw [signed] at derived
        exact absurd (derived.isDigit List.mem_cons_self) (by decide)
      next => simp [read]

/-- Signs and digits come before the letters. -/
theorem Spells.toNat_lt (spells : Spells token n) (member : c ∈ token.toList) : c.toNat < 58 := by
  obtain ⟨digits,text,derived⟩ := spells
  rw [text] at member
  rcases List.mem_append.mp member with signed | digit
  · cases sign : n.sign <;> simp [sign, Sign.mark] at signed <;> subst signed <;> decide
  · have range := Char.isDigit_iff_toNat.mp (derived.isDigit digit)
    have last : '9'.toNat = 57 := rfl
    omega

theorem natural?_toDigits (n : Nat) : natural? (Nat.toDigits 10 n) = some n := by
  have nonempty : Nat.toDigits 10 n ≠ [] := List.ne_nil_of_length_pos Nat.length_toDigits_pos
  have run : (Nat.toDigits 10 n).all Char.isDigit = true :=
    List.all_eq_true.mpr fun c member => Nat.isDigit_of_mem_toDigits (by decide) (by decide) member
  simp [natural?, nonempty, run]

/-- A number is written without a sign and read back as it is. -/
theorem Numeral.ofToken?_toString (n : Nat) : Numeral.ofToken? (toString n) = some ⟨.absent, n⟩ := by
  have digits : (toString n).toList = Nat.toDigits 10 n := by simp
  apply ofToken?_eq_some_iff.mpr
  exact ⟨_,digits,natural?_eq_some_iff.mp (natural?_toDigits n)⟩

theorem clampSigned_of_lt (small : n < halfCount) : clampSigned n = n := by
  unfold clampSigned halfCount at *
  split <;> omega

theorem clampSigned_of_le (large : halfCount ≤ n) : clampSigned n = halfCount - 1 := by
  unfold clampSigned halfCount at *
  split <;> omega

/-- A small number can only come from itself: what is clamped is far away from it. -/
theorem clampSigned_eq_iff {value : Int} (small : n + 1 < halfCount) :
    clampSigned value = n ↔ value = n := by
  unfold clampSigned halfCount at *
  split
  next => omega
  next => split <;> omega

theorem signedValue_eq_iff (word : UInt64) (small : n < halfCount) :
    signedValue word = n ↔ word.toNat = n := by
  have bound := word.toNat_lt
  unfold signedValue halfCount wordCount at *
  split <;> omega

end DigitAutomata.Text
