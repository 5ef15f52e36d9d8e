import DigitAutomata.Proofs.Fault

/-! The grammar of tables, over the words of the lines that are not blank. Each stage of the reader has
a nonterminal that says what the rest of the source has to be. From that stage the reader succeeds
exactly if the rest is derived, and then it holds the automaton that was described. -/
namespace DigitAutomata

open Text (Numeral Spells tokens solid)

namespace Dimensions

/-- What follows a declared number of final states: their list, and then any lines. The list of no
states is not written, and then nothing may follow. -/
inductive IsFinalList (size : Dimensions) : Nat → List StateId → List (List String) → Prop where
  | omitted : IsFinalList size 0 [] []
  | written : 1 ≤ declared → words.length = declared → List.Forall₂ size.Names words finals →
      IsFinalList size declared finals (words :: anything)

/-- What follows the rows: a number without a minus that fits a 64-bit word, and the final states. -/
inductive IsEnding (size : Dimensions) (finals : List StateId) : List (List String) → Prop where
  | count : Spells token n → n.sign ≠ .minus → n.magnitude < Text.wordCount →
      size.IsFinalList n.magnitude finals rest → IsEnding size finals ([token] :: rest)

end Dimensions

/-- The lines, as their words, of a table with these dimensions, rows and final states. -/
inductive IsTable (size : Dimensions) (rows : List Row) (finals : List StateId) :
    List (List String) → Prop where
  | lines : size.IsHeader header → rowLines.length = size.stateCount →
      List.Forall₂ size.IsRow rowLines rows → size.IsEnding finals ending →
      IsTable size rows finals (header :: (rowLines ++ ending))

/-- The words of the lines of a text that are not blank. -/
def tokenLines (source : String) : List (List String) := (solid (Text.lines source)).map tokens

namespace Progress

variable {size : Dimensions} {rows : List Row} {M : Automaton} {given : List String}

theorem outcome_cons_iff {p : Progress} : p.outcome (line :: rest) = .ok M ↔
    ∃ next, Step (tokens line) p next ∧ next.outcome rest = .ok M := by
  constructor
  · intro done
    obtain ⟨next,step,done⟩ := outcome_cons done
    exact ⟨next,advance_eq_ok_iff.mp step,done⟩
  · rintro ⟨next,step,done⟩
    rw [outcome_ok (advance_eq_ok_iff.mpr step), done]

theorem outcome_beforeFinals (some : ∀ line ∈ given, tokens line ≠ []) {declared : Nat} :
    (beforeFinals size rows declared).outcome given = .ok M ↔
      ∃ finals, size.IsFinalList declared finals (given.map tokens) ∧
        M = .ofRows size.alphabetSize rows finals := by
  cases given with
  | nil =>
    by_cases zero : declared = 0
    · subst zero
      simp only [outcome_nil, finish, if_pos, Except.ok.injEq, List.map_nil]
      constructor
      · rintro rfl
        exact ⟨[],.omitted,rfl⟩
      · rintro ⟨_,_ | _,rfl⟩
        rfl
    · simp only [outcome_nil, finish, if_neg zero, reduceCtorEq, List.map_nil, false_iff]
      rintro ⟨_,_ | _,_⟩
      exact zero rfl
  | cons line rest =>
    obtain ⟨words,_⟩ := List.forall_mem_cons.mp some
    rw [outcome_cons_iff, List.map_cons]
    generalize tokens line = ws at words ⊢
    constructor
    · rintro ⟨next,step,done⟩
      cases step with
      | blank => contradiction
      | finals _ length names =>
        rw [outcome_complete, Except.ok.injEq] at done
        have positive := List.length_pos_iff.mpr words
        exact ⟨_,.written (by omega) length names,done.symm⟩
    · rintro ⟨finals,_ | ⟨_,length,names⟩,rfl⟩
      exact ⟨_,.finals words length names,outcome_complete ..⟩

/-- Lines beyond the rows are only counted, so nothing that follows makes up for one. -/
theorem outcome_surplus (size : Dimensions) (rows : List Row) (surplus : Nat)
    (more : 0 < surplus) (given : List String) :
    ∃ actual, size.stateCount + surplus ≤ actual ∧ (afterRows size rows surplus).outcome given =
      .error (.stateCountMismatch actual size.stateCount) := by
  induction given generalizing surplus with
  | nil => exact ⟨size.stateCount + surplus,Nat.le_refl _,by simp [finish, more]⟩
  | cons line rest ih =>
    by_cases blank : tokens line = []
    · rw [outcome_ok (advance_blank _ blank)]
      exact ih surplus more
    · cases count : Count.ofTokens? (tokens line) with
      | none =>
        rw [outcome_ok (advance_eq_ok_iff.mpr (.surplus blank count))]
        obtain ⟨actual,more,failed⟩ := ih (surplus + 1) (Nat.succ_pos surplus)
        exact ⟨actual,by omega,failed⟩
      | some n =>
        have integer := Count.exists_ofTokens?_iff.mp ⟨n,count⟩
        exact ⟨size.stateCount + surplus,Nat.le_refl _,
          outcome_error (advance_eq_error_iff.mpr (.surplus more integer))⟩

theorem outcome_afterRows (some : ∀ line ∈ given, tokens line ≠ []) :
    (afterRows size rows 0).outcome given = .ok M ↔
      ∃ finals, size.IsEnding finals (given.map tokens) ∧
        M = .ofRows size.alphabetSize rows finals := by
  cases given with
  | nil =>
    have failed : (afterRows size rows 0).outcome [] = .error .missingFinalCount := rfl
    simp only [failed, reduceCtorEq, List.map_nil, false_iff]
    rintro ⟨_,ends,_⟩
    cases ends
  | cons line rest =>
    obtain ⟨words,later⟩ := List.forall_mem_cons.mp some
    rw [outcome_cons_iff, List.map_cons]
    generalize tokens line = ws at words ⊢
    constructor
    · rintro ⟨next,step,done⟩
      cases step with
      | blank => contradiction
      | surplus =>
        obtain ⟨actual,_,failed⟩ := outcome_surplus size rows 1 (by decide) rest
        rw [failed] at done
        contradiction
      | count known =>
        obtain ⟨token,n,rfl,spells,unsigned,small,rfl⟩ := Count.ofTokens?_eq_value_iff.mp known
        obtain ⟨finals,list,built⟩ := (outcome_beforeFinals later).mp done
        exact ⟨finals,.count spells unsigned small list,built⟩
    · rintro ⟨finals,⟨spells,unsigned,small,list⟩,built⟩
      have known := Count.ofTokens?_eq_value_iff.mpr ⟨_,_,rfl,spells,unsigned,small,rfl⟩
      exact ⟨_,.count known,(outcome_beforeFinals later).mpr ⟨finals,list,built⟩⟩

/-- The induction is on the lines, with the rows read so far left open: each line but the last row
comes back to the same stage with one row more. -/
theorem outcome_inRows (rows : List Row) (some : ∀ line ∈ given, tokens line ≠ [])
    (few : size.stateCount ≤ maxStates) (due : rows.length < size.stateCount) :
    (inRows size rows).outcome given = .ok M ↔
      ∃ rowLines further ending finals, given.map tokens = rowLines ++ ending ∧
        List.Forall₂ size.IsRow rowLines further ∧
        rows.length + further.length = size.stateCount ∧ size.IsEnding finals ending ∧
        M = .ofRows size.alphabetSize (rows ++ further) finals := by
  induction given generalizing rows with
  | nil =>
    simp only [outcome_nil, finish, reduceCtorEq, List.map_nil, false_iff]
    rintro ⟨rowLines,further,ending,finals,split,_,_,ends,_⟩
    obtain ⟨_,rfl⟩ := List.append_eq_nil_iff.mp split.symm
    cases ends
  | cons line rest ih =>
    obtain ⟨words,later⟩ := List.forall_mem_cons.mp some
    rw [outcome_cons_iff, List.map_cons]
    generalize tokens line = ws at words ⊢
    constructor
    · rintro ⟨next,step,done⟩
      cases step with
      | blank => contradiction
      | row _ _ isRow =>
        simp only [holding] at done
        split at done
        next last =>
          obtain ⟨finals,ends,built⟩ := (outcome_afterRows later).mp done
          refine ⟨[ws],[_],_,finals,rfl,.cons isRow .nil,?_,ends,built⟩
          simpa using last
        next inside =>
          simp only [List.length_append, List.length_singleton] at inside
          obtain ⟨rowLines,further,ending,finals,split,areRows,count,ends,built⟩ :=
            (ih _ later (by simp; omega)).mp done
          refine ⟨ws :: rowLines,_ :: further,ending,finals,?_,.cons isRow areRows,?_,ends,?_⟩
          · rw [split, List.cons_append]
          · simp only [List.length_append, List.length_singleton] at count
            simp only [List.length_cons]
            omega
          · rw [built, List.append_assoc, List.singleton_append]
    · rintro ⟨rowLines,further,ending,finals,split,areRows,count,ends,built⟩
      cases areRows with
      | nil =>
        simp only [List.length_nil] at count
        omega
      | @cons _ row rowLines further isRow areRows =>
        obtain ⟨rfl,others⟩ := List.cons.inj split
        refine ⟨_,.row words (Nat.lt_of_lt_of_le due few) isRow,?_⟩
        simp only [List.length_cons] at count
        simp only [holding]
        split
        next last =>
          simp only [List.length_append, List.length_singleton] at last
          have none : further = [] := List.length_eq_zero_iff.mp (by omega)
          subst none
          cases areRows
          exact (outcome_afterRows later).mpr ⟨finals,others ▸ ends,built⟩
        next inside =>
          simp only [List.length_append, List.length_singleton] at inside
          refine (ih _ later (by simp; omega)).mpr
            ⟨rowLines,further,ending,finals,others,areRows,?_,ends,?_⟩
          · simp only [List.length_append, List.length_singleton]
            omega
          · rw [built, List.append_assoc, List.singleton_append]

/-- A table is a header and what `outcome_inRows` says of the lines after it. -/
theorem outcome_start (some : ∀ line ∈ given, tokens line ≠ []) :
    start.outcome given = .ok M ↔ ∃ size rows finals, IsTable size rows finals (given.map tokens) ∧
      M.Realizes size rows finals := by
  cases given with
  | nil =>
    simp only [outcome_nil, finish, reduceCtorEq, List.map_nil, false_iff]
    rintro ⟨_,_,_,table,_⟩
    cases table
  | cons line rest =>
    obtain ⟨words,later⟩ := List.forall_mem_cons.mp some
    rw [outcome_cons_iff, List.map_cons]
    generalize tokens line = ws at words ⊢
    constructor
    · rintro ⟨next,step,done⟩
      cases step with
      | blank => contradiction
      | header isHeader =>
        have range := isHeader.inRange
        obtain ⟨rowLines,rows,ending,finals,split,areRows,count,ends,built⟩ :=
          (outcome_inRows [] later range.states.2 range.states.1).mp done
        simp only [List.length_nil, Nat.zero_add] at count
        refine ⟨_,rows,finals,?_,(Automaton.realizes_iff count range.states.2).mpr built⟩
        rw [split]
        exact .lines isHeader (areRows.length_eq.trans count) areRows ends
    · rintro ⟨size,rows,finals,table,realizes⟩
      generalize lines : ws :: rest.map tokens = all at table
      obtain ⟨isHeader,count,areRows,ends⟩ := table
      obtain ⟨rfl,split⟩ := List.cons.inj lines
      have range := isHeader.inRange
      have count := areRows.length_eq.symm.trans count
      refine ⟨_,.header isHeader,?_⟩
      apply (outcome_inRows [] later range.states.2 range.states.1).mpr
      refine ⟨_,rows,_,finals,split,areRows,by simpa using count,ends,?_⟩
      exact (Automaton.realizes_iff count range.states.2).mp realizes

end Progress

/-- The reader accepts exactly the texts with the lines of a table, and builds exactly the automaton
that the table describes. -/
theorem parse_eq_ok_iff (source : String) (M : Automaton) :
    Automaton.parse source = .ok M ↔ ∃ size rows finals,
      IsTable size rows finals (tokenLines source) ∧ M.Realizes size rows finals := by
  rw [Automaton.parse_eq_outcome, ← Progress.outcome_solid]
  exact Progress.outcome_start fun line member => Text.tokens_of_mem_solid member

-- A list of final states may be followed by anything, its absence only by blank lines.
example : Automaton.parse "+1 01\n\nA\n1\nA\nany lines" = .ok (.ofRows 1 [[⟨0⟩]] [⟨0⟩]) := by
  decide +kernel
example : Automaton.parse "1 1\nA\n0\n \nA" = .error (.finalCountMismatch 0 1) := by
  decide +kernel

end DigitAutomata
