import DigitAutomata.Proofs.Spacing
import DigitAutomata.Proofs.Stage

/-! Texts that are continued. The continuation begins on a line of its own and is read from the stage
that the text before it leads to, so what becomes of the whole is told by that stage: a broken rule
stays, a table with its list of final states is complete, and a table that ends with the number 0 may
be followed by blank lines only. -/
namespace DigitAutomata

open Text (tokens trim lines solid)

/-- The text goes on after the header, the rows and the number of final states. -/
def Automaton.ListedIn (M : Automaton) (source : String) : Prop :=
  M.states.length + 2 < (tokenLines source).length

namespace Progress

variable {p : Progress} {given : List String} {M : Automaton}

theorem finish_eq_ok_iff : p.finish = .ok M ↔ p = complete M ∨
    ∃ size rows, p = beforeFinals size rows 0 ∧ M = .ofRows size.alphabetSize rows [] := by
  cases p with
  | start => simp [finish]
  | inRows => simp [finish]
  | afterRows =>
    simp only [finish]
    split <;> simp
  | beforeFinals size rows declared =>
    simp only [finish]
    split
    next zero => simp [zero, eq_comm]
    next more => simp [more]
  | complete => simp [finish]

/-- After the number 0 nothing may be listed. -/
theorem outcome_unlisted (size : Dimensions) (rows : List Row) {words : List String}
    {rest : List (List String)} (listed : (solid given).map tokens = words :: rest) :
    (beforeFinals size rows 0).outcome given = .error (.finalCountMismatch 0 words.length) := by
  obtain ⟨line,others,split,rfl,_⟩ := List.map_eq_cons_iff.mp listed
  have some : tokens line ≠ [] := Text.tokens_of_mem_solid (split ▸ List.mem_cons_self)
  have long : (tokens line).length ≠ 0 := mt List.length_eq_zero_iff.mp some
  rw [← outcome_solid, split]
  exact outcome_error (advance_eq_error_iff.mpr (.finals some (.length long)))

/-- Without a list a table ends in the number 0. -/
theorem unlisted_ends (size : Dimensions) (rows : List Row)
    (blank : (solid given).map tokens = []) :
    (beforeFinals size rows 0).outcome given = .ok (.ofRows size.alphabetSize rows []) := by
  rw [← outcome_solid, List.map_eq_nil_iff.mp blank]
  rfl

theorem outcome_of_overfull {actual expected : Nat} {taken : List (List String)}
    (covers : p.Covers taken) (failed : p.finish = .error (.stateCountMismatch actual expected))
    (more : expected < actual) (rest : List String) :
    ∃ later, actual ≤ later ∧ p.outcome rest = .error (.stateCountMismatch later expected) := by
  cases covers with
  | start => simp [finish] at failed
  | inRows _ due =>
    simp only [finish, Except.error.injEq, TableError.stateCountMismatch.injEq] at failed
    omega
  | afterRows =>
    simp only [finish] at failed
    split at failed
    next overfull =>
      simp only [Except.error.injEq, TableError.stateCountMismatch.injEq] at failed
      obtain ⟨rfl,rfl⟩ := failed
      exact outcome_surplus _ _ _ overfull rest
    next => simp at failed
  | beforeFinals =>
    simp only [finish] at failed
    split at failed <;> simp at failed
  | complete => contradiction

end Progress

namespace Automaton

open Progress

variable {M : Automaton} {s : String}

/-- What follows a line feed is read from the stage that the text before it leads to. -/
theorem parse_append (s t : String) : parse (s ++ "\n" ++ t) =
    (start.feed (lines s)).bind fun p => p.outcome (lines t) := by
  have alike : (solid (lines (s ++ "\n" ++ t))).map trim =
      (solid (lines s) ++ solid (lines t)).map trim := by
    rw [Text.map_trim_solid_append, List.map_append]
  rw [parse_eq_outcome, ← outcome_solid, outcome, feed_of_trim start alike, ← outcome,
    outcome_append, feed_solid]
  congr 1
  funext p
  exact outcome_solid p (lines t)

/-- A table is complete with its list of final states, or it ends with the number 0. -/
theorem parse_stage (loaded : parse s = .ok M) :
    (M.ListedIn s ∧ start.feed (lines s) = .ok (complete M)) ∨
    (¬M.ListedIn s ∧ ∃ size rows front count, tokenLines s = front ++ [count] ∧
      Count.ofTokens? count = some (.value 0) ∧ M = .ofRows size.alphabetSize rows [] ∧
      start.feed (lines s) = .ok (beforeFinals size rows 0)) := by
  rw [parse_eq_outcome] at loaded
  obtain ⟨last,fed,finished⟩ := outcome_feed loaded
  have covers : last.Covers (tokenLines s) := feed_covers fed
  unfold ListedIn
  generalize tokenLines s = taken at covers
  rcases finish_eq_ok_iff.mp finished with rfl | ⟨size,rows,rfl,rfl⟩
  · cases covers with
    | complete isBody count =>
      have few := isBody.inRange.states.2
      refine .inl ⟨?_,fed⟩
      rw [length_states_ofRows _ _ (count ▸ few), List.length_append, isBody.length_eq,
        List.length_cons, List.length_cons]
      omega
  · cases covers with
    | beforeFinals isBody count known =>
      have few := isBody.inRange.states.2
      refine .inr ⟨?_,size,rows,_,_,rfl,known,rfl,fed⟩
      rw [length_states_ofRows _ _ (count ▸ few), List.length_append, isBody.length_eq,
        List.length_singleton]
      omega

/-- What a text comes to when it is continued after a line feed. -/
theorem parse_continued (s t : String) :
    (∀ M, parse s = .ok M → M.ListedIn s → parse (s ++ "\n" ++ t) = .ok M) ∧
    (∀ M, parse s = .ok M → ¬M.ListedIn s →
      (∃ front count, tokenLines s = front ++ [count] ∧
        Count.ofTokens? count = some (.value 0)) ∧
      (tokenLines t = [] → parse (s ++ "\n" ++ t) = .ok M) ∧
      ∀ words rest, tokenLines t = words :: rest →
        parse (s ++ "\n" ++ t) = .error (.finalCountMismatch 0 words.length)) ∧
    (∀ front line rest p e, lines s = front ++ line :: rest → start.feed front = .ok p →
      p.advance line = .error e → parse s = .error e ∧ parse (s ++ "\n" ++ t) = .error e) ∧
    (∀ p actual expected, start.feed (lines s) = .ok p →
      p.finish = .error (.stateCountMismatch actual expected) → expected < actual →
      ∃ later, actual ≤ later ∧
        parse (s ++ "\n" ++ t) = .error (.stateCountMismatch later expected)) := by
  rw [parse_append]
  refine ⟨?_,?_,?_,?_⟩
  · intro M loaded listed
    rcases parse_stage loaded with ⟨_,fed⟩ | ⟨unlisted,_⟩
    · rw [fed]
      exact outcome_complete M (lines t)
    · contradiction
  · intro M loaded unlisted
    rcases parse_stage loaded with ⟨listed,_⟩ | ⟨_,size,rows,front,count,split,zero,rfl,fed⟩
    · contradiction
    · rw [fed]
      exact ⟨⟨front,count,split,zero⟩,unlisted_ends size rows,
        fun words rest listed => outcome_unlisted size rows listed⟩
  · intro front line rest p e split fed fault
    have broken := feed_eq_error_iff.mpr ⟨front,line,rest,p,split,fed,fault⟩
    rw [parse_eq_outcome, outcome, broken]
    exact ⟨rfl,rfl⟩
  · intro p actual expected fed failed more
    rw [fed]
    exact outcome_of_overfull (feed_covers fed) failed more (lines t)

/-- The number 0 is followed by blanks and by two words, a list by anything, a row that is missing by
the row, and a line too many by a number. -/
theorem parse_continued_cases :
    let M := ofRows 1 [[⟨0⟩]] []
    let N := ofRows 1 [[⟨0⟩]] [⟨0⟩]
    (parse "1 1\nA\n0" = .ok M ∧ ¬M.ListedIn "1 1\nA\n0" ∧
      parse ("1 1\nA\n0" ++ "\n" ++ " \n") = .ok M ∧
      parse ("1 1\nA\n0" ++ "\n" ++ "\nA B\nC") = .error (.finalCountMismatch 0 2)) ∧
    (parse "1 1\nA\n1\nA" = .ok N ∧ N.ListedIn "1 1\nA\n1\nA" ∧
      parse ("1 1\nA\n1\nA" ++ "\n" ++ "any\n2") = .ok N) ∧
    parse ("1 2\nA\n1" ++ "\n" ++ "A\n1\nA") = .error (.stateCountMismatch 1 2) ∧
    ∃ later, 2 ≤ later ∧
      parse ("1 1\nA\nB" ++ "\n" ++ "C\n0") = .error (.stateCountMismatch later 1) := by
  intro M N
  have zero : parse "1 1\nA\n0" = .ok M := by decide +kernel
  have unlisted : ¬M.ListedIn "1 1\nA\n0" := by
    unfold ListedIn
    decide +kernel
  have one : parse "1 1\nA\n1\nA" = .ok N := by decide +kernel
  have listed : N.ListedIn "1 1\nA\n1\nA" := by
    unfold ListedIn
    decide +kernel
  refine ⟨⟨zero,unlisted,?_,?_⟩,⟨one,listed,?_⟩,?_,?_⟩
  · exact ((parse_continued _ _).2.1 M zero unlisted).2.1 (by decide +kernel)
  · exact ((parse_continued _ _).2.1 M zero unlisted).2.2 ["A", "B"] [["C"]] (by decide +kernel)
  · exact (parse_continued _ _).1 N one listed
  · exact ((parse_continued _ _).2.2.1 ["1 2", "A"] "1" [] (.inRows ⟨1, 2⟩ [[⟨0⟩]])
      (.stateCountMismatch 1 2) (by decide +kernel) (by decide +kernel) (by decide +kernel)).2
  · exact (parse_continued _ _).2.2.2 (.afterRows ⟨1, 1⟩ [[⟨0⟩]] 1) 2 1 (by decide +kernel)
      (by decide +kernel) (by decide)

end Automaton

end DigitAutomata
