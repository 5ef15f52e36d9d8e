import DigitAutomata.Proofs.Layout
import DigitAutomata.Proofs.Walk
import DigitAutomata.Report.Console

/-! Where things stand in the printed table of an automaton. In the head line each symbol takes three
characters, in the line of a state each destination takes two, since a state's letter is not filled up
to the width of its column. So a destination stands under its symbol nowhere, and the lines of a table
are not all of one length. -/
namespace DigitAutomata.Report

open Text (Unbroken)

/-- The line has this character in this column, counted from 0. -/
def StandsAt (line : String) (column : Nat) (c : Char) : Prop := line.toList[column]? = some c

def OneLength (table : List String) : Prop :=
  ∀ line ∈ table, ∀ other ∈ table, line.length = other.length

/-- Each destination stands in the column in which its symbol stands in the head line. -/
def UnderSymbols (M : Automaton) (table : List String) : Prop :=
  ∀ (i symbol : Nat) (s : State) (q : StateId) (head line : String), M.states[i]? = some s →
    s.transitions[symbol]? = some q → table[0]? = some head → table[i + 1]? = some line →
      ∃ column, StandsAt head column symbol.digitChar ∧ StandsAt line column q.letter

/-- A head line with one line for each state below it, in columns of one width. -/
structure Aligned (M : Automaton) (table : List String) : Prop where
  count : table.length = M.states.length + 1
  even : OneLength table
  under : UnderSymbols M table

/-- The symbols, each behind two blanks. -/
def headCells (symbols : Nat) : List Char :=
  (List.range symbols).flatMap fun symbol => [' ', ' ', symbol.digitChar]

/-- The destinations, each behind one blank. -/
def stateCells (row : Row) : List Char := row.flatMap fun q => [' ', q.letter]

/-- What stands in front of the destinations. -/
def stateName (s : State) : List Char :=
  [if s.id = .start then '→' else ' ', ' ', s.id.letter, ' ', if s.isFinal then '*' else ' ', ' ']

def headText (symbols : Nat) : String := String.ofList (List.replicate 6 ' ' ++ headCells symbols)

def stateText (s : State) : String := String.ofList (stateName s ++ stateCells s.transitions)

variable {α : Type} {M : Automaton} {s : State} {symbols symbol place i j : Nat} {c : Char}
  {q : StateId}

theorem column_symbol (small : symbol < 10) :
    (column (toString symbol)).toList = [' ', symbol.digitChar] := by
  have written : (toString symbol).toList = [symbol.digitChar] := by
    simp [Nat.toDigits_of_lt_base small]
  rw [column, ← String.length_toList, String.toList_append, written]
  simp

theorem headText_eq (small : symbols ≤ 10) :
    "      " ++ String.join ((List.range symbols).map fun symbol =>
      " " ++ column (toString symbol)) = headText symbols := by
  have cells : String.join ((List.range symbols).map fun symbol => " " ++ column (toString symbol)) =
      String.ofList (headCells symbols) := by
    apply String.toList_inj.mp
    rw [String.toList_join, List.flatMap_map, String.toList_ofList]
    apply List.flatMap_congr
    intro symbol member
    have digit : symbol < 10 := Nat.lt_of_lt_of_le (List.mem_range.mp member) small
    rw [String.toList_append, column_symbol digit]
    rfl
  rw [cells, headText, String.ofList_append]
  rfl

theorem join_destinations (row : Row) :
    String.join (row.map fun q => " " ++ toString q) = String.ofList (stateCells row) := by
  apply String.toList_inj.mp
  simp [String.toList_join, List.flatMap_map, stateCells, toString]

theorem stateLine_plain (s : State) : stateLine .plain s = stateText s ++ "\n" := by
  have cells : String.join (s.transitions.map fun q => s!" {q}") =
      String.ofList (stateCells s.transitions) := join_destinations s.transitions
  apply String.toList_inj.mp
  rw [stateLine, cells]
  by_cases first : s.id = .start <;> cases final : s.isFinal <;>
    simp [stateText, stateName, first, final, toString]

/-- Without colours a table is its lines, each ended by a line feed. -/
theorem automatonTable_plain (small : M.alphabetSize ≤ 10) : automatonTable .plain M =
    String.join ((headText M.alphabetSize :: M.states.map stateText).map (· ++ "\n")) := by
  have rows : M.states.map (stateLine .plain) = (M.states.map stateText).map (· ++ "\n") := by
    simp [stateLine_plain]
  simp only [automatonTable, Text.Palette.paint_plain, rows, headText_eq small, List.map_cons,
    String.join_cons]

theorem unbroken_of_visible {line : String} (visible : ∀ c ∈ line.toList, 32 ≤ c.toNat) :
    Unbroken line := by
  constructor
  · intro member
    exact absurd (visible _ member) (by decide)
  · intro member
    exact absurd (visible _ member) (by decide)

theorem unbroken_headText (small : symbols ≤ 10) : Unbroken (headText symbols) := by
  have digits : ∀ d < 10, 32 ≤ (Nat.digitChar d).toNat := by decide
  apply unbroken_of_visible
  intro c member
  rw [headText, String.toList_ofList, List.mem_append] at member
  rcases member with blank | cell
  · rw [List.eq_of_mem_replicate blank]
    decide
  · obtain ⟨d,known,member⟩ := List.mem_flatMap.mp cell
    simp only [List.mem_cons, List.not_mem_nil, or_false] at member
    rcases member with rfl | rfl | rfl
    · decide
    · decide
    · exact digits d (Nat.lt_of_lt_of_le (List.mem_range.mp known) small)

theorem visible_letter (q : StateId) : 32 ≤ q.letter.toNat := by
  rw [StateId.letter_toNat]
  omega

theorem visible_stateCells (row : Row) : ∀ c ∈ stateCells row, 32 ≤ c.toNat := by
  simp only [stateCells, List.forall_mem_flatMap, List.forall_mem_cons]
  exact fun q _ => ⟨by decide,visible_letter q,nofun⟩

theorem unbroken_stateText (s : State) : Unbroken (stateText s) := by
  have marks : ∀ (mark : Char) (marked : Prop) [Decidable marked], 32 ≤ mark.toNat →
      32 ≤ (if marked then mark else ' ').toNat := by
    intro mark marked _ visible
    split
    next => exact visible
    next => decide
  apply unbroken_of_visible
  rw [stateText, String.toList_ofList]
  simp only [List.forall_mem_append, stateName, List.forall_mem_cons]
  exact ⟨⟨marks _ _ (by decide),by decide,visible_letter s.id,by decide,marks _ _ (by decide),
    by decide,nofun⟩,visible_stateCells s.transitions⟩

theorem lines_automatonTable (small : M.alphabetSize ≤ 10) :
    Text.lines (automatonTable .plain M) = headText M.alphabetSize :: M.states.map stateText := by
  rw [automatonTable_plain small]
  apply Text.lines_join
  rw [List.forall_mem_cons, List.forall_mem_map]
  exact ⟨unbroken_headText small,fun s _ => unbroken_stateText s⟩

/-- Cells of one width stand side by side. -/
theorem getElem?_cells {cell : α → List Char} (width : Nat) (even : ∀ a, (cell a).length = width)
    (inside : j < width) (items : List α) (i : Nat) :
    (items.flatMap cell)[width * i + j]? = items[i]?.bind fun a => (cell a)[j]? := by
  induction items generalizing i with
  | nil => simp
  | cons a items ih =>
    rw [List.flatMap_cons]
    cases i with
    | zero =>
      rw [Nat.mul_zero, Nat.zero_add, List.getElem?_append_left (by rw [even a]; exact inside)]
      rfl
    | succ i =>
      have beyond : (cell a).length ≤ width * (i + 1) + j := by
        rw [even a, Nat.mul_succ]
        omega
      have place : width * (i + 1) + j - (cell a).length = width * i + j := by
        rw [even a, Nat.mul_succ]
        omega
      rw [List.getElem?_append_right beyond, place, ih]
      rfl

theorem length_headText (symbols : Nat) : (headText symbols).length = 6 + 3 * symbols := by
  simp [headText, headCells, ← String.length_toList, List.length_flatMap]
  omega

theorem length_stateText (s : State) : (stateText s).length = 6 + 2 * s.transitions.length := by
  simp [stateText, stateName, stateCells, ← String.length_toList, List.length_flatMap]
  omega

theorem getElem?_headText (symbols i : Nat) (inside : j < 3) :
    (headText symbols).toList[6 + (3 * i + j)]? =
      (List.range symbols)[i]?.bind fun symbol => [' ', ' ', symbol.digitChar][j]? := by
  rw [headText, String.toList_ofList, List.getElem?_append_right (by simp), List.length_replicate,
    Nat.add_sub_cancel_left]
  exact getElem?_cells 3 (fun _ => rfl) inside _ i

theorem getElem?_stateText (s : State) (i : Nat) (inside : j < 2) :
    (stateText s).toList[6 + (2 * i + j)]? =
      s.transitions[i]?.bind fun q => [' ', q.letter][j]? := by
  have name : (stateName s).length = 6 := rfl
  rw [stateText, String.toList_ofList, List.getElem?_append_right (by omega), name,
    Nat.add_sub_cancel_left]
  exact getElem?_cells 2 (fun _ => rfl) inside _ i

/-- In the head line a symbol stands in one column only. -/
theorem standsAt_headText_iff (small : symbols ≤ 10) (inside : symbol < symbols) :
    StandsAt (headText symbols) place symbol.digitChar ↔ place = 8 + 3 * symbol := by
  have digits : ∀ d < 10, ∀ e < 10, Nat.digitChar d ≠ ' ' ∧ (Nat.digitChar e = Nat.digitChar d →
    e = d) := by decide
  obtain ⟨visible,_⟩ := digits symbol (by omega) 0 (by decide)
  constructor
  · intro stands
    by_cases front : place < 6
    · have blank : (headText symbols).toList[place]? = some ' ' := by
        rw [headText, String.toList_ofList, List.getElem?_append_left (by simpa using front),
          List.getElem?_replicate_of_lt front]
      exact absurd (Option.some.inj (stands.symm.trans blank)) visible
    obtain ⟨i,j,short,rfl⟩ : ∃ i j, j < 3 ∧ place = 6 + (3 * i + j) :=
      ⟨(place - 6) / 3,(place - 6) % 3,Nat.mod_lt _ (by decide),by omega⟩
    rw [StandsAt, getElem?_headText symbols i short, Option.bind_eq_some_iff] at stands
    obtain ⟨other,known,stands⟩ := stands
    obtain ⟨within,rfl⟩ := List.getElem?_eq_some_iff.mp known
    simp only [List.length_range, List.getElem_range] at within stands
    match j, stands with
    | 0, stands => exact absurd (Option.some.inj stands).symm visible
    | 1, stands => exact absurd (Option.some.inj stands).symm visible
    | 2, stands =>
      obtain rfl := (digits symbol (by omega) i (by omega)).2 (Option.some.inj stands)
      omega
  · rintro rfl
    have place : 8 + 3 * symbol = 6 + (3 * symbol + 2) := by omega
    rw [StandsAt, place, getElem?_headText symbols symbol (by decide), List.getElem?_range inside]
    rfl

theorem standsAt_stateText (known : s.transitions[symbol]? = some q) :
    StandsAt (stateText s) (7 + 2 * symbol) q.letter := by
  have place : 7 + 2 * symbol = 6 + (2 * symbol + 1) := by omega
  rw [StandsAt, place, getElem?_stateText s symbol (by decide), known]
  rfl

/-- What stands under the first symbol is the blank before the second destination, or nothing. -/
theorem not_standsAt_first (s : State) (q : StateId) : ¬StandsAt (stateText s) 8 q.letter := by
  intro stands
  have blank : (stateText s).toList[8]? = s.transitions[1]?.bind fun _ => some ' ' :=
    getElem?_stateText s 1 (j := 0) (by decide)
  rw [StandsAt, blank, Option.bind_eq_some_iff] at stands
  obtain ⟨_,_,same⟩ := stands
  have letter := congrArg Char.toNat (Option.some.inj same)
  rw [StateId.letter_toNat] at letter
  have : ' '.toNat = 32 := rfl
  omega

/-- How the table of an automaton is laid out. There is one line more than there are states. The head
line gives three characters to each symbol and the line of a state two to each destination, so the
destination on a symbol stands as far to the left of it as the symbol's number and one more. The lines
differ in length, and what is printed under a symbol is not its destination. -/
theorem automatonTable_columns (constructible : M.Constructible) :
    let table := Text.lines (automatonTable .plain M)
    table.length = M.states.length + 1 ∧
    (∃ head, table[0]? = some head ∧ head.length = 6 + 3 * M.alphabetSize ∧
      ∀ symbol < M.alphabetSize, ∀ column,
        StandsAt head column symbol.digitChar ↔ column = 8 + 3 * symbol) ∧
    (∀ i s, M.states[i]? = some s → ∃ line, table[i + 1]? = some line ∧
      line.length = 6 + 2 * M.alphabetSize ∧
      ∀ symbol q, s.transitions[symbol]? = some q → StandsAt line (7 + 2 * symbol) q.letter) ∧
    ¬OneLength table ∧ ¬UnderSymbols M table := by
  have wellFormed := constructible.wellFormed
  have small := wellFormed.alphabet.2
  intro table
  have lines : table = headText M.alphabetSize :: M.states.map stateText :=
    lines_automatonTable small
  have width : ∀ s ∈ M.states, (stateText s).length = 6 + 2 * M.alphabetSize := by
    intro s member
    rw [length_stateText, wellFormed.width s member]
  -- Some state has a destination on the first symbol, since neither is missing.
  obtain ⟨s,declared⟩ : ∃ s, M.states[0]? = some s :=
    ⟨_,List.getElem?_eq_getElem wellFormed.count.1⟩
  have member : s ∈ M.states := List.mem_of_getElem? declared
  obtain ⟨q,known⟩ : ∃ q, s.transitions[0]? = some q := by
    have one : 0 < s.transitions.length := wellFormed.width s member ▸ wellFormed.alphabet.1
    exact ⟨_,List.getElem?_eq_getElem one⟩
  refine ⟨by simp [lines],⟨headText M.alphabetSize,by rw [lines]; rfl,length_headText _,
    fun symbol inside column => standsAt_headText_iff small inside⟩,fun i s declared => ?_,
    fun even => ?_,fun under => ?_⟩
  · refine ⟨stateText s,by rw [lines]; simp [declared],width s (List.mem_of_getElem? declared),?_⟩
    exact fun symbol q known => standsAt_stateText known
  · have same := even (headText M.alphabetSize) (by simp [lines]) (stateText s)
      (by rw [lines]; exact List.mem_cons_of_mem _ (List.mem_map_of_mem member))
    rw [length_headText, width s member] at same
    have := wellFormed.alphabet.1
    omega
  · obtain ⟨column,above,below⟩ := under 0 0 s q (headText M.alphabetSize) (stateText s) declared known
      (by rw [lines]; rfl) (by rw [lines]; simp [declared])
    rw [standsAt_headText_iff small wellFormed.alphabet.1] at above
    subst above
    exact not_standsAt_first s q below

/-- The table of the automaton that tells odd from even. -/
theorem automatonTable_columns_parity :
    let M := Automaton.ofRows 2 [[⟨1⟩, .start], [.start, ⟨1⟩]] [⟨1⟩]
    let table := Text.lines (automatonTable .plain M)
    M.Constructible ∧ table = ["        0  1", "→ A    B A", "  B *  A B"] ∧
      table.length = M.states.length + 1 ∧ ¬OneLength table ∧ ¬UnderSymbols M table := by
  intro M table
  have built : Automaton.build 2 [[⟨1⟩, .start], [.start, ⟨1⟩]] [⟨1⟩] = .ok M := rfl
  have constructible : M.Constructible := .built built
  have printed : table = ["        0  1", "→ A    B A", "  B *  A B"] := by decide +kernel
  obtain ⟨count,_,_,uneven,apart⟩ := automatonTable_columns constructible
  exact ⟨constructible,printed,count,uneven,apart⟩

/-- The head line of this automaton's table has two characters more than its other lines. -/
theorem not_aligned_parity :
    ¬∀ M : Automaton, M.Constructible → Aligned M (Text.lines (automatonTable .plain M)) := by
  intro aligned
  have built : Automaton.build 2 [[⟨1⟩, .start], [.start, ⟨1⟩]] [⟨1⟩] =
    .ok (Automaton.ofRows 2 [[⟨1⟩, .start], [.start, ⟨1⟩]] [⟨1⟩]) := rfl
  have even := (aligned _ (.built built)).even "        0  1" (by decide +kernel) "→ A    B A"
    (by decide +kernel)
  contradiction

end DigitAutomata.Report
