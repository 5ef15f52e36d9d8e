/-! State identifiers. A state is known by its place in the declaration, and a place is written as a
letter from `A` to `Z`; reading a letter undoes writing it. -/
namespace DigitAutomata

/-- The most states that letters can name. -/
def maxStates : Nat := 26

structure StateId where
  index : Fin 26
deriving DecidableEq

namespace StateId

/-- Every word is read from the state declared first. -/
def start : StateId := ⟨0⟩

def ofIndex? (i : Nat) : Option StateId :=
  if h : i < 26 then some ⟨⟨i, h⟩⟩ else none

def letter (q : StateId) : Char := Char.ofNat (65 + q.index)

def ofLetter? (c : Char) : Option StateId :=
  if 65 ≤ c.toNat then ofIndex? (c.toNat - 65) else none

/-- A token names a state if it is a single capital letter. -/
def ofToken? (token : String) : Option StateId :=
  match token.toList with
  | [c] => ofLetter? c
  | _ => none

def ofChar (c : Char) : Except String StateId :=
  match ofLetter? c with
  | some q => .ok q
  | none => .error s!"`{c}` is not a state identifier"

/-- All identifiers in order of declaration. -/
def all : List StateId := (List.finRange 26).map StateId.mk

instance : ToString StateId := ⟨fun q => String.singleton q.letter⟩

@[simp] theorem ofIndex?_index (q : StateId) : ofIndex? q.index = some q := by
  simp [ofIndex?]

theorem ofIndex?_eq_some_iff : ofIndex? i = some q ↔ q.index.val = i := by
  unfold ofIndex?
  split
  next h => simp only [Option.some.injEq]; exact ⟨fun e => by rw [← e], fun e => by subst e; rfl⟩
  next h => simp only [reduceCtorEq, false_iff]; have := q.index.isLt; omega

@[simp] theorem letter_toNat (q : StateId) : q.letter.toNat = 65 + q.index := by
  obtain ⟨i⟩ := q
  revert i; decide

@[simp] theorem ofLetter?_letter (q : StateId) : ofLetter? q.letter = some q := by
  simp [ofLetter?]

theorem letter_injective (p q : StateId) (h : p.letter = q.letter) : p = q := by
  have := ofLetter?_letter q
  rw [← h, ofLetter?_letter] at this
  exact Option.some.inj this

@[simp] theorem ofToken?_toString (q : StateId) : ofToken? (toString q) = some q := by
  simp [toString, ofToken?]

end StateId

end DigitAutomata
