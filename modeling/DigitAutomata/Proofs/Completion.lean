import DigitAutomata.Proofs.Grammar
import DigitAutomata.Proofs.Representation
import DigitAutomata.Proofs.Written

/-! What can still become of a table that is read in part. Every stage that lines lead to can be
completed, since missing rows can be filled up and a list of any length can be written, except for
one: lines beyond the declared rows are not refused when they are read, but no line makes up for
them. -/
namespace DigitAutomata

open Text (tokens)

namespace Progress

variable {size : Dimensions} {rows : List Row}

/-- A row that leads to the first state on every symbol fits all dimensions. -/
theorem rowFault?_loop (range : size.InRange) (source : StateId) :
    Automaton.rowFault? size.alphabetSize size.stateCount source
      (List.replicate size.alphabetSize .start) = none := by
  apply Automaton.rowFault?_eq_none_iff.mpr
  refine ⟨List.length_replicate,?_⟩
  intro q member
  rw [List.eq_of_mem_replicate member]
  exact range.states.1

/-- The rows that are still due are filled up, and then no state is declared final. -/
theorem holding_completable (range : size.InRange) (room : rows.length ≤ size.stateCount) :
    ∃ rest M, (holding size rows).outcome rest = .ok M := by
  let loop : Row := List.replicate size.alphabetSize .start
  let further := List.replicate (size.stateCount - rows.length) loop
  have each : ∀ row ∈ further, row = loop := fun row => List.eq_of_mem_replicate
  have nonempty : ∀ row ∈ further, row ≠ [] := by
    intro row member
    rw [each row member]
    exact List.ne_nil_of_length_pos (by rw [List.length_replicate]; exact range.alphabet.1)
  have sound : ∀ pair ∈ (StateId.all.drop rows.length).zip further,
      Automaton.rowFault? size.alphabetSize size.stateCount pair.1 pair.2 = none := by
    intro pair member
    rw [each pair.2 (List.of_mem_zip member).2]
    exact rowFault?_loop range pair.1
  have count : rows.length + further.length = size.stateCount := by
    rw [List.length_replicate]
    omega
  have filled := outcome_rows size rows further nonempty count range.states.2
    [toString 0, writtenStates []]
  rw [List.findSome?_eq_none_iff.mpr sound] at filled
  exact ⟨_,_,filled.trans (outcome_ending size (rows ++ further) [] (by decide))⟩

theorem beforeFinals_completable (range : size.InRange) (declared : Nat) :
    ∃ rest M, (beforeFinals size rows declared).outcome rest = .ok M := by
  cases declared with
  | zero => exact ⟨[],_,rfl⟩
  | succ more =>
    let list : List StateId := List.replicate (more + 1) .start
    have words : tokens (writtenStates list) = list.map toString := tokens_writtenStates list
    have names : List.Forall₂ size.Names (list.map toString) list := by
      apply List.forall₂_map_left_iff.mpr
      apply List.forall₂_same.mpr
      intro q member
      rw [List.eq_of_mem_replicate member]
      exact ⟨rfl,range.states.1⟩
    have listed : (beforeFinals size rows (more + 1)).advance (writtenStates list) =
        .ok (complete (.ofRows size.alphabetSize rows list)) := by
      apply advance_eq_ok_iff.mpr
      rw [words]
      exact .finals (by simp [list]) (by simp [list]) names
    exact ⟨[writtenStates list],_,(outcome_ok listed).trans (outcome_complete _ [])⟩

/-- From every stage but one that counts surplus lines the table can be completed. -/
theorem Holds.completable {p : Progress} (range : size.InRange) (held : p.Holds size)
    (exact : ¬∃ held rows surplus, p = afterRows held rows surplus ∧ 0 < surplus) :
    ∃ rest M, p.outcome rest = .ok M := by
  cases p with
  | start => contradiction
  | inRows held' rows =>
    obtain ⟨rfl,_,due⟩ := held
    have begun : holding held' rows = inRows held' rows := if_neg (Nat.ne_of_lt due)
    exact begun ▸ holding_completable range (Nat.le_of_lt due)
  | afterRows held' rows surplus =>
    obtain ⟨rfl,_,count⟩ := held
    have none : surplus = 0 := by
      by_contra some
      exact exact ⟨held',rows,surplus,rfl,Nat.pos_of_ne_zero some⟩
    subst none
    have full : holding held' rows = afterRows held' rows 0 := if_pos count
    exact full ▸ holding_completable range (Nat.le_of_eq count)
  | beforeFinals held' rows declared =>
    obtain ⟨rfl,_,_⟩ := held
    exact beforeFinals_completable range declared
  | complete M => exact ⟨[],M,rfl⟩

/-- A reading fails as soon as no further lines could complete the table, except for surplus rows: they
are found out when the number of final states or the end of the source is reached, and then they are
all that is reported. -/
theorem completable_iff :
    (∀ given p, start.feed given = .ok p → ((∃ rest M, p.outcome rest = .ok M) ↔
      ¬∃ size rows surplus, p = afterRows size rows surplus ∧ 0 < surplus)) ∧
    (∀ given size rows surplus, start.feed given = .ok (afterRows size rows surplus) → 0 < surplus →
      ∀ rest, ∃ actual, size.stateCount < actual ∧ (afterRows size rows surplus).outcome rest =
        .error (.stateCountMismatch actual size.stateCount)) := by
  have hopeless : ∀ size rows surplus, 0 < surplus → ∀ rest, ∃ actual, size.stateCount < actual ∧
      (afterRows size rows surplus).outcome rest =
        .error (.stateCountMismatch actual size.stateCount) := by
    intro size rows surplus more rest
    obtain ⟨actual,least,failed⟩ := outcome_surplus size rows surplus more rest
    exact ⟨actual,by omega,failed⟩
  constructor
  · intro given p fed
    constructor
    · rintro ⟨rest,M,done⟩ ⟨size,rows,surplus,rfl,more⟩
      obtain ⟨actual,_,failed⟩ := hopeless size rows surplus more rest
      rw [failed] at done
      contradiction
    · intro exact
      rcases feed_represents fed with ⟨rfl,_⟩ | ⟨size,_,range,held⟩
      · exact ⟨["1 1", "A", "0"],.ofRows 1 [[⟨0⟩]] [],by decide +kernel⟩
      · exact held.completable range exact
  · intro given size rows surplus _ more
    exact hopeless size rows surplus more

/-- One row of two is read, and then one line more than the one row declared. -/
theorem completable_iff_rows :
    let p := inRows ⟨2, 2⟩ [[⟨0⟩, ⟨1⟩]]
    let q := afterRows ⟨1, 1⟩ [[⟨0⟩]] 1
    start.feed ["2 2", "A B"] = .ok p ∧ (∃ rest M, p.outcome rest = .ok M) ∧
    start.feed ["1 1", "A", "no row"] = .ok q ∧ ¬(∃ rest M, q.outcome rest = .ok M) ∧
    ∀ rest, ∃ actual, 1 < actual ∧ q.outcome rest = .error (.stateCountMismatch actual 1) := by
  intro p q
  have begun : start.feed ["2 2", "A B"] = .ok p := by decide +kernel
  have overfull : start.feed ["1 1", "A", "no row"] = .ok q := by decide +kernel
  refine ⟨begun,(completable_iff.1 _ p begun).mpr ?_,overfull,?_,
    completable_iff.2 _ ⟨1, 1⟩ [[⟨0⟩]] 1 overfull (by decide)⟩
  · rintro ⟨size,rows,surplus,eq,_⟩
    contradiction
  · intro done
    exact (completable_iff.1 _ q overfull).mp done ⟨⟨1, 1⟩,[[⟨0⟩]],1,rfl,by decide⟩

end Progress

end DigitAutomata
