import DigitAutomata.Proofs.Step

/-! Written tables. A table that is written line by line and read back meets the same rules in the same
order as the rows and final states themselves under validated construction: the first one that is
broken is reported alike, and an automaton is the same. -/
namespace DigitAutomata

open Text (Numeral IsWord Unbroken Consists tokens)

def writtenStates (states : List StateId) : String := " ".intercalate (states.map toString)

/-- The lines of a table: the header, the rows, the number of final states and their list. -/
def writtenLines (symbols : Nat) (rows : List Row) (finals : List StateId) : List String :=
  " ".intercalate [toString symbols, toString rows.length] ::
    (rows.map writtenStates ++ [toString finals.length, writtenStates finals])

namespace Text

theorem isBlank_of_range (above : 33 ≤ c.toNat) (below : c.toNat ≤ 126) : isBlank c = false := by
  simp only [isBlank, Bool.or_eq_false_iff, Bool.and_eq_false_iff, decide_eq_false_iff_not,
    beq_eq_false_iff_ne]
  omega

theorem IsWord.unbroken (word : IsWord token) : Unbroken token := by
  constructor
  · intro member
    exact absurd (word.2 _ member) (by decide)
  · intro member
    exact absurd (word.2 _ member) (by decide)

theorem unbroken_intercalate (words : ∀ token ∈ parts, IsWord token) :
    Unbroken (" ".intercalate parts) := by
  induction parts with
  | nil => simp [Unbroken]
  | cons token rest ih =>
    have word := (words token (by simp)).unbroken
    have later := ih fun token member => words token (List.mem_cons_of_mem _ member)
    cases rest with
    | nil => simpa using word
    | cons next rest =>
      rw [String.intercalate_cons_cons]
      simp only [Unbroken] at *
      simp only [String.toList_append, List.mem_append, not_or]
      exact ⟨⟨⟨word.1,by decide⟩,later.1⟩,⟨⟨word.2,by decide⟩,later.2⟩⟩

theorem isWord_number (n : Nat) : IsWord (toString n) := by
  obtain ⟨digits,text,derived⟩ := Numeral.ofToken?_eq_some_iff.mp (Numeral.ofToken?_toString n)
  simp only [Sign.mark, List.nil_append] at text
  constructor
  · rw [text]
    exact derived.ne_nil
  · intro c member
    have range := Char.isDigit_iff_toNat.mp (derived.isDigit (text ▸ member))
    have first : '0'.toNat = 48 := rfl
    have last : '9'.toNat = 57 := rfl
    exact isBlank_of_range (by omega) (by omega)

end Text

namespace StateId

theorem isWord (q : StateId) : IsWord (toString q) := by
  have letter : (toString q).toList = [q.letter] := by simp [toString]
  have range := q.letter_toNat
  have last := q.index.isLt
  simp only [IsWord]
  rw [letter]
  refine ⟨by simp,fun c member => ?_⟩
  rw [List.mem_singleton.mp member]
  exact Text.isBlank_of_range (by omega) (by omega)

end StateId

theorem isWord_of_mem_letters {states : List StateId} (member : token ∈ states.map toString) :
    IsWord token := by
  obtain ⟨q,_,rfl⟩ := List.mem_map.mp member
  exact q.isWord

@[simp] theorem tokens_writtenStates (states : List StateId) :
    tokens (writtenStates states) = states.map toString :=
  Text.tokens_intercalate fun _ member => isWord_of_mem_letters member

theorem unbroken_writtenLines (member : line ∈ writtenLines symbols rows finals) :
    Unbroken line := by
  have states (states : List StateId) : Unbroken (writtenStates states) :=
    Text.unbroken_intercalate fun _ member => isWord_of_mem_letters member
  simp only [writtenLines, List.mem_cons, List.mem_append, List.mem_map, List.not_mem_nil,
    or_false] at member
  rcases member with rfl | ⟨row,_,rfl⟩ | rfl | rfl
  · apply Text.unbroken_intercalate
    intro token member
    simp only [List.mem_cons, List.not_mem_nil, or_false] at member
    rcases member with rfl | rfl <;> exact Text.isWord_number _
  · exact states row
  · exact (Text.isWord_number _).unbroken
  · exact states finals

namespace Dimensions

variable {size : Dimensions} {rows : List Row} {finals : List StateId}

/-- Letters fail to resolve exactly where a destination is not declared. -/
theorem resolveAll_letters (size : Dimensions) (site : Nat → Site) (i : Nat)
    (states : List StateId) :
    size.resolveAll site i (states.map toString) =
      match (states.zipIdx i).find? fun (q, _) => decide (size.stateCount ≤ q.index) with
      | some (q, j) => .error (.unknownState (toString q) (site j))
      | none => .ok states := by
  induction states generalizing i with
  | nil => rfl
  | cons q states ih =>
    rw [List.map_cons, resolveAll, List.zipIdx_cons]
    by_cases declared : size.stateCount ≤ q.index
    · have unknown : size.resolve? (toString q) = none := by
        cases known : size.resolve? (toString q) with
        | none => rfl
        | some other =>
          obtain ⟨same,inside⟩ := resolve?_eq_some_iff.mp known
          have eq := StateId.ofToken?_eq_some_iff.mpr same
          rw [StateId.ofToken?_toString] at eq
          rw [← Option.some.inj eq] at inside
          omega
      simp [unknown, declared]
    · have known : size.resolve? (toString q) = some q :=
        resolve?_eq_some_iff.mpr ⟨rfl,by omega⟩
      rw [List.find?_cons_of_neg (by simpa using declared)]
      simp only [known, ih (i + 1)]
      split <;> rfl

theorem readRow_letters (size : Dimensions) (q : StateId) (row : Row) :
    size.readRow q.index (row.map toString) =
      match Automaton.rowFault? size.alphabetSize size.stateCount q row with
      | some fault => .error fault
      | none => .ok row := by
  simp only [readRow, StateId.ofIndex?_index, List.length_map, Automaton.rowFault?]
  split
  next => rfl
  next =>
    rw [resolveAll_letters]
    split
    next found => simp [found]
    next none => simp [none]

theorem readFinals_letters (size : Dimensions) (finals : List StateId) :
    size.readFinals finals.length (finals.map toString) =
      match finals.find? fun q => decide (size.stateCount ≤ q.index) with
      | some q => .error (.unknownState (toString q) .finalList)
      | none => .ok finals := by
  have indexed : finals.find? (fun q => decide (size.stateCount ≤ q.index)) =
      (finals.zipIdx.find? fun (q, _) => decide (size.stateCount ≤ q.index)).map Prod.fst := by
    conv => lhs; rw [← List.zipIdx_map_fst 0 finals, List.find?_map]
    rfl
  simp only [readFinals, List.length_map, ne_eq, not_true, if_false, resolveAll_letters, indexed]
  split
  next found => simp [found]
  next none => simp [none]

end Dimensions

namespace Count

theorem ofTokens?_letters (states : List StateId) : ofTokens? (states.map toString) = none := by
  simp only [ofTokens?]
  split
  next token single =>
    have letter : token ∈ states.map toString := by simp [single]
    obtain ⟨q,_,rfl⟩ := List.mem_map.mp letter
    simp [q.not_numeral]
  next => rfl

theorem ofTokens?_number (small : n < Text.wordCount) :
    ofTokens? [toString n] = some (.value n) := by
  have count : ofNumeral ⟨.absent, n⟩ = .value n := by simp [ofNumeral, small]
  rw [ofTokens?, Numeral.ofToken?_toString, Option.map_some, count]

end Count

namespace Progress

variable {size : Dimensions} {rows : List Row}

theorem advance_row (size : Dimensions) {row : Row} (nonempty : row ≠ []) {q : StateId}
    (place : q.index = rows.length) :
    (inRows size rows).advance (writtenStates row) =
      match Automaton.rowFault? size.alphabetSize size.stateCount q row with
      | some fault => .error fault
      | none => .ok (holding size (rows ++ [row])) := by
  have words : tokens (writtenStates row) ≠ [] := by simpa using nonempty
  have read := size.readRow_letters q row
  rw [place] at read
  rw [advance_solid _ words, tokens_writtenStates]
  cases found : Automaton.rowFault? size.alphabetSize size.stateCount q row with
  | some fault => simp only [take, Count.ofTokens?_letters, read, found, bind, Except.bind]
  | none =>
    simp only [take, Count.ofTokens?_letters, read, found, bind, Except.bind, holding,
      List.length_append, List.length_singleton]
    split <;> rfl

/-- The induction is on the rows still to come; each is judged under the letter of its place. -/
theorem outcome_rows (size : Dimensions) (rows further : List Row)
    (nonempty : ∀ row ∈ further, row ≠ [])
    (count : rows.length + further.length = size.stateCount) (few : size.stateCount ≤ maxStates)
    (rest : List String) :
    (holding size rows).outcome (further.map writtenStates ++ rest) =
      match ((StateId.all.drop rows.length).zip further).findSome? fun (q, row) =>
        Automaton.rowFault? size.alphabetSize size.stateCount q row with
      | some fault => .error fault
      | none => (afterRows size (rows ++ further) 0).outcome rest := by
  induction further generalizing rows with
  | nil =>
    have full : holding size rows = afterRows size rows 0 := if_pos (by simpa using count)
    simp [full]
  | cons row further ih =>
    simp only [List.length_cons] at count
    have due : holding size rows = inRows size rows := if_neg (by omega)
    obtain ⟨q,place,letters⟩ : ∃ q : StateId, q.index = rows.length ∧
        StateId.all.drop rows.length = q :: StateId.all.drop (rows.length + 1) := by
      have letter : rows.length < StateId.all.length := by
        simp only [StateId.length_all]
        exact Nat.lt_of_lt_of_le (by omega) few
      exact ⟨StateId.all[rows.length],by simp,List.drop_eq_getElem_cons letter⟩
    have step := advance_row size (nonempty row (by simp)) place
    rw [due, List.map_cons, List.cons_append, letters, List.zip_cons_cons, List.findSome?_cons]
    cases found : Automaton.rowFault? size.alphabetSize size.stateCount q row with
    | some fault =>
      rw [found] at step
      rw [outcome_error step]
      simp only [found]
    | none =>
      have later := ih (rows ++ [row])
        (fun row member => nonempty row (List.mem_cons_of_mem _ member))
        (by simp only [List.length_append, List.length_singleton]; omega)
      rw [found] at step
      rw [outcome_ok step, later]
      simp only [found, List.length_append, List.length_singleton, List.append_assoc,
        List.singleton_append]

theorem outcome_ending (size : Dimensions) (rows : List Row) (finals : List StateId)
    (countable : finals.length < Text.wordCount) :
    (afterRows size rows 0).outcome [toString finals.length, writtenStates finals] =
      match finals.find? fun q => decide (size.stateCount ≤ q.index) with
      | some q => .error (.unknownState (toString q) .finalList)
      | none => .ok (.ofRows size.alphabetSize rows finals) := by
  have number : tokens (toString finals.length) = [toString finals.length] :=
    Text.tokens_word (Text.isWord_number _)
  have counted : (afterRows size rows 0).advance (toString finals.length) =
      .ok (beforeFinals size rows finals.length) :=
    advance_eq_ok_iff.mpr (number ▸ .count (Count.ofTokens?_number countable))
  rw [outcome_ok counted]
  by_cases omitted : finals = []
  · subst omitted
    rfl
  · have words : tokens (writtenStates finals) ≠ [] := by simpa using omitted
    have listed : (beforeFinals size rows finals.length).advance (writtenStates finals) =
        (size.readFinals finals.length (finals.map toString)).bind fun found =>
          .ok (complete (.ofRows size.alphabetSize rows found)) := by
      rw [advance_solid _ words, tokens_writtenStates]
      rfl
    rw [Dimensions.readFinals_letters] at listed
    split at listed
    next q found => rw [outcome_error listed]
    next none =>
      rw [outcome_ok listed, outcome_complete]

theorem advance_header (symbols count : Nat) :
    start.advance (" ".intercalate [toString symbols, toString count]) =
      (Automaton.checkAlphabetSize (Text.clampSigned symbols)).bind fun a =>
        (Automaton.checkStateCount (Text.clampSigned count)).bind fun n =>
          .ok (inRows ⟨a, n⟩ []) := by
  have words : tokens (" ".intercalate [toString symbols, toString count]) =
      [toString symbols, toString count] := by
    apply Text.tokens_intercalate
    intro token member
    simp only [List.mem_cons, List.not_mem_nil, or_false] at member
    rcases member with rfl | rfl <;> exact Text.isWord_number _
  have some : tokens (" ".intercalate [toString symbols, toString count]) ≠ [] := by
    rw [words]
    exact List.cons_ne_nil _ _
  rw [advance_solid start some, words]
  simp only [take, Dimensions.ofTokens, Numeral.ofToken?_toString, Numeral.value, bind]
  cases Automaton.checkAlphabetSize (Text.clampSigned symbols) with
  | error e => rfl
  | ok a => cases Automaton.checkStateCount (Text.clampSigned count) <;> rfl

end Progress

namespace Automaton

/-- What becomes of rows and final states once the dimensions are sound. -/
def judge (size : Dimensions) (rows : List Row) (finals : List StateId) :
    Except TableError Automaton :=
  match (StateId.all.zip rows).findSome? fun (q, row) =>
    rowFault? size.alphabetSize size.stateCount q row with
  | some fault => .error fault
  | none =>
    match finals.find? fun q => decide (size.stateCount ≤ q.index) with
    | some q => .error (.unknownState (toString q) .finalList)
    | none => .ok (ofRows size.alphabetSize rows finals)

/-- Validated construction by the value that the alphabet size is judged by, whether it was a word or
was read. -/
def buildFrom (value : Int) (rows : List Row) (finals : List StateId) :
    Except TableError Automaton := do
  let alphabetSize ← checkAlphabetSize value
  let stateCount ← checkStateCount rows.length
  judge ⟨alphabetSize, stateCount⟩ rows finals

variable {rows : List Row} {finals : List StateId}

theorem build_eq_buildFrom (word : UInt64) (rows : List Row) (finals : List StateId) :
    build word rows finals = buildFrom (Text.signedValue word) rows finals := rfl

theorem buildFrom_invalid {value : Int} (invalid : ¬(1 ≤ value ∧ value ≤ 10)) :
    buildFrom value rows finals = .error (.invalidAlphabetSize value) := by
  have refused : checkAlphabetSize value = .error (.invalidAlphabetSize value) := if_neg invalid
  rw [buildFrom, refused]
  rfl

/-- After a sound header the rows and then the final states are judged as they are in construction. -/
theorem outcome_judge (size : Dimensions) (nonempty : ∀ row ∈ rows, row ≠ [])
    (count : rows.length = size.stateCount)
    (range : 1 ≤ size.stateCount ∧ size.stateCount ≤ maxStates)
    (finalsFit : finals.length < Text.wordCount) :
    (Progress.inRows size []).outcome
      (rows.map writtenStates ++ [toString finals.length, writtenStates finals]) =
        judge size rows finals := by
  have begun : Progress.holding size [] = .inRows size [] :=
    if_neg (by simp only [List.length_nil]; omega)
  have judged := Progress.outcome_rows size [] rows nonempty (by simpa using count) range.2
    [toString finals.length, writtenStates finals]
  rw [begun, List.nil_append, Progress.outcome_ending _ _ _ finalsFit] at judged
  exact judged

/-- The header is judged as in construction too, by the clamped value of what is written there. -/
theorem outcome_writtenLines (symbols : Nat) (nonempty : ∀ row ∈ rows, row ≠ [])
    (rowsFit : rows.length < Text.halfCount) (finalsFit : finals.length < Text.wordCount) :
    Progress.start.outcome (writtenLines symbols rows finals) =
      buildFrom (Text.clampSigned symbols) rows finals := by
  have header := Progress.advance_header symbols rows.length
  rw [Text.clampSigned_of_lt rowsFit] at header
  simp only [writtenLines, buildFrom]
  cases alphabet : checkAlphabetSize (Text.clampSigned symbols) with
  | error e =>
    rw [alphabet] at header
    exact Progress.outcome_error header
  | ok size =>
    cases states : checkStateCount rows.length with
    | error e =>
      rw [alphabet, states] at header
      exact Progress.outcome_error header
    | ok n =>
      obtain ⟨same,range⟩ := checkSize_eq_ok_iff.mp states
      have count : rows.length = n := by omega
      rw [alphabet, states] at header
      rw [Progress.outcome_ok header, outcome_judge ⟨size,n⟩ nonempty count range finalsFit]
      rfl

theorem parse_consists (consists : Consists source (writtenLines symbols rows finals)) :
    parse source = Progress.start.outcome (writtenLines symbols rows finals) := by
  rw [parse_eq_outcome, ← Progress.outcome_solid,
    Text.solid_lines (fun _ member => unbroken_writtenLines member) consists,
    Progress.outcome_solid]

/-- Reading a written table and constructing it from its rows come to the same automaton or to the
same error. For a size from 2^63 on both refuse it, but one reports it clamped and the other as the
signed value. The bounds on the lengths hold of all lists that fit into memory. -/
theorem parse_written (word : UInt64) (rows : List Row) (finals : List StateId) (source : String)
    (nonempty : ∀ row ∈ rows, row ≠ []) (rowsFit : rows.length < Text.halfCount)
    (finalsFit : finals.length < Text.wordCount)
    (consists : Consists source (writtenLines word.toNat rows finals)) :
    (word.toNat < Text.halfCount → parse source = build word rows finals) ∧
    (Text.halfCount ≤ word.toNat →
      parse source = .error (.invalidAlphabetSize (Text.halfCount - 1)) ∧
      build word rows finals = .error (.invalidAlphabetSize (word.toNat - Text.wordCount))) := by
  have bound := word.toNat_lt
  rw [parse_consists consists, outcome_writtenLines word.toNat nonempty rowsFit finalsFit,
    build_eq_buildFrom]
  constructor
  · intro small
    have same := (Text.signedValue_eq_iff word small).mpr rfl
    rw [Text.clampSigned_of_lt small, same]
  · intro large
    have wrapped : Text.signedValue word = word.toNat - Text.wordCount := if_neg (by omega)
    rw [Text.clampSigned_of_le large, wrapped]
    constructor
    · apply buildFrom_invalid
      simp only [Text.halfCount]
      omega
    · apply buildFrom_invalid
      simp only [Text.wordCount]
      omega

/-- Three rules are broken here, the last one by an undeclared final state. Both name the first. -/
theorem parse_written_faults :
    let rows : List Row := [[⟨2⟩], [⟨0⟩, ⟨1⟩]]
    let source := "1 2\nC\nA B\n1\nQ\n"
    (∀ row ∈ rows, row ≠ []) ∧ Consists source (writtenLines 1 rows [⟨16⟩]) ∧
      parse source = build 1 rows [⟨16⟩] ∧
      build 1 rows [⟨16⟩] = .error (.unknownState "C" (.transition .start 0)) := by
  intro rows source
  have nonempty : ∀ row ∈ rows, row ≠ [] := by decide
  have consists : Consists source (writtenLines 1 rows [⟨16⟩]) := .inr (by decide)
  have same := (parse_written 1 rows [⟨16⟩] source nonempty (by decide) (by decide) consists).1
    (by decide)
  exact ⟨nonempty,consists,same,rfl⟩

end Automaton

end DigitAutomata
