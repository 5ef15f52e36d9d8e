/-! Blank characters and the words between them. Words are found by one pass from the left; a text
without a word is a blank text. -/
namespace DigitAutomata.Text

/-- The characters with Unicode's property White_Space. -/
def isBlank (c : Char) : Bool :=
  let n := c.toNat
  (9 ≤ n && n ≤ 13) || n == 0x20 || n == 0x85 || n == 0xA0 || n == 0x1680 ||
    (0x2000 ≤ n && n ≤ 0x200A) || n == 0x2028 || n == 0x2029 || n == 0x202F || n == 0x205F ||
    n == 0x3000

/-- Puts an item in front of the first list; of no lists it makes one. -/
def consHead (x : α) : List (List α) → List (List α)
  | [] => [[x]]
  | xs :: rest => (x :: xs) :: rest

@[simp] theorem consHead_nil (x : α) : consHead x [] = [[x]] := rfl
@[simp] theorem consHead_cons (x : α) (xs : List α) (rest : List (List α)) :
    consHead x (xs :: rest) = (x :: xs) :: rest := rfl

/-- The maximal runs without a blank. -/
def words : List Char → List (List Char)
  | [] => []
  | c :: cs =>
    if isBlank c then words cs
    else if cs.head?.all isBlank then [c] :: words cs
    else consHead c (words cs)

@[simp] theorem words_nil : words [] = [] := rfl

theorem words_blank (h : isBlank c = true) : words (c :: cs) = words cs := by simp [words, h]

theorem mem_consHead (h : w ∈ consHead x ws) :
    w = [x] ∨ (∃ v ∈ ws, w = x :: v) ∨ w ∈ ws := by
  cases ws with
  | nil => exact .inl (by simpa using h)
  | cons v vs =>
    rcases List.mem_cons.mp h with rfl | tail
    · exact .inr (.inl ⟨v, by simp, rfl⟩)
    · exact .inr (.inr (by simp [tail]))

/-- A word is not empty and holds no blank. -/
theorem mem_words (h : w ∈ words cs) : w ≠ [] ∧ ∀ c ∈ w, isBlank c = false := by
  induction cs generalizing w with
  | nil => simp at h
  | cons c cs ih =>
    by_cases blank : isBlank c = true
    · exact ih (by rwa [words_blank blank] at h)
    · have solid : isBlank c = false := by simpa using blank
      have single : [c] ≠ [] ∧ ∀ d ∈ [c], isBlank d = false := by simp [solid]
      by_cases last : cs.head?.all isBlank = true
      · rw [words, if_neg blank, if_pos last] at h
        rcases List.mem_cons.mp h with rfl | tail
        · exact single
        · exact ih tail
      · rw [words, if_neg blank, if_neg last] at h
        rcases mem_consHead h with rfl | ⟨v, member, rfl⟩ | tail
        · exact single
        · refine ⟨by simp, fun d member' => ?_⟩
          rcases List.mem_cons.mp member' with rfl | inside
          · exact solid
          · exact (ih member).2 d inside
        · exact ih tail

/-- Only a text of blanks has no words. -/
theorem words_eq_nil_iff : words cs = [] ↔ ∀ c ∈ cs, isBlank c = true := by
  induction cs with
  | nil => simp
  | cons c cs ih =>
    by_cases blank : isBlank c = true
    · simp [words_blank blank, ih, blank]
    · have some : words (c :: cs) ≠ [] := by
        rw [words, if_neg blank]
        split
        · simp
        · cases words cs <;> simp
      simp [some, blank]

/-- The words of a line. -/
def tokens (line : String) : List String := (words line.toList).map String.ofList

def trimLeft (cs : List Char) : List Char := cs.dropWhile isBlank

/-- The text without the blanks around it. -/
def trim (text : String) : String :=
  String.ofList (trimLeft (trimLeft text.toList).reverse).reverse

end DigitAutomata.Text
