import DigitAutomata.Proofs.Numeral
import DigitAutomata.Table.Progress

/-! Automata from rows. Rows that fit their dimensions are taken over one by one, each under the
letter of its place, and no row is lost; validated construction lets exactly such rows through. -/
namespace DigitAutomata

theorem bind_eq_ok_iff {x : Except ε α} {f : α → Except ε β} :
    x.bind f = .ok b ↔ ∃ a, x = .ok a ∧ f a = .ok b := by
  cases x <;> simp [Except.bind]

theorem bind_eq_error_iff {x : Except ε α} {f : α → Except ε β} :
    x.bind f = .error e ↔ x = .error e ∨ ∃ a, x = .ok a ∧ f a = .error e := by
  cases x <;> simp [Except.bind]

theorem map_eq_error_iff {x : Except ε α} {f : α → β} : x.map f = .error e ↔ x = .error e := by
  cases x <;> simp [Except.map]

theorem mapError_eq_ok_iff {x : Except ε α} {f : ε → ε'} : x.mapError f = .ok a ↔ x = .ok a := by
  cases x <;> simp [Except.mapError]

namespace StateId

@[simp] theorem length_all : all.length = 26 := by simp [all]

@[simp] theorem getElem_all (i : Nat) (h : i < all.length) :
    all[i] = ⟨⟨i, by simpa using h⟩⟩ := by
  simp [all]

theorem ext_index {p q : StateId} (same : p.index.val = q.index.val) : p = q := by
  obtain ⟨i⟩ := p
  obtain ⟨j⟩ := q
  exact congrArg StateId.mk (Fin.ext same)

end StateId

namespace Dimensions

structure InRange (size : Dimensions) : Prop where
  alphabet : 1 ≤ size.alphabetSize ∧ size.alphabetSize ≤ 10
  states : 1 ≤ size.stateCount ∧ size.stateCount ≤ maxStates

/-- Each row has a destination for each symbol, and each destination is declared. -/
structure Fits (size : Dimensions) (rows : List Row) : Prop where
  width : ∀ row ∈ rows, row.length = size.alphabetSize
  closed : ∀ row ∈ rows, ∀ q ∈ row, q.index < size.stateCount

end Dimensions

namespace Automaton

variable {M : Automaton} {size : Dimensions} {rows : List Row} {finals : List StateId}

/-- The automaton has the declared dimensions, its rows in their order under the letters in theirs,
and exactly the listed states are final. -/
structure Realizes (M : Automaton) (size : Dimensions) (rows : List Row)
    (finals : List StateId) : Prop where
  alphabet : M.alphabetSize = size.alphabetSize
  count : M.states.length = size.stateCount
  named : ∀ i (h : i < M.states.length), M.states[i].id.index = i
  transitions : M.states.map State.transitions = rows
  final : ∀ s ∈ M.states, s.isFinal = true ↔ s.id ∈ finals

theorem length_states_ofRows (symbols : Nat) (finals : List StateId)
    (few : rows.length ≤ maxStates) : (ofRows symbols rows finals).states.length = rows.length := by
  simp only [ofRows, List.length_zipWith, StateId.length_all]
  exact Nat.min_eq_right few

theorem getElem_states_ofRows {symbols : Nat} (i : Nat)
    (h : i < (ofRows symbols rows finals).states.length) :
    ∃ (letter : i < 26) (row : i < rows.length),
      (ofRows symbols rows finals).states[i] =
        ⟨⟨⟨i, letter⟩⟩, rows[i], finals.contains ⟨⟨i, letter⟩⟩⟩ := by
  have both : i < 26 ∧ i < rows.length := by simpa [ofRows, Nat.lt_min] using h
  exact ⟨both.1,both.2,by simp [ofRows]⟩

/-- A row has a letter because there are no more rows than letters, so `ofRows` leaves none out. -/
theorem realizes_ofRows (finals : List StateId) (count : rows.length = size.stateCount)
    (few : size.stateCount ≤ maxStates) :
    (ofRows size.alphabetSize rows finals).Realizes size rows finals := by
  have length := length_states_ofRows size.alphabetSize finals
    (count ▸ few)
  constructor
  · rfl
  · exact length.trans count
  · intro i h
    obtain ⟨letter,row,state⟩ := getElem_states_ofRows i h
    rw [state]
  · apply List.ext_getElem
    · rw [List.length_map, length]
    · intro i h _
      obtain ⟨letter,row,state⟩ := getElem_states_ofRows i (by simpa using h)
      rw [List.getElem_map, state]
  · intro s member
    obtain ⟨i,h,rfl⟩ := List.mem_iff_getElem.mp member
    obtain ⟨letter,row,state⟩ := getElem_states_ofRows i h
    simp [state]

/-- Nothing else is left open: two automata that realize the same table are equal. -/
theorem Realizes.unique {N : Automaton} (left : M.Realizes size rows finals)
    (right : N.Realizes size rows finals) : M = N := by
  have states : M.states = N.states := by
    apply List.ext_getElem (left.count.trans right.count.symm)
    intro i hm hn
    have id : M.states[i].id = N.states[i].id :=
      StateId.ext_index ((left.named i hm).trans (right.named i hn).symm)
    have transitions : M.states[i].transitions = N.states[i].transitions := by
      have same := left.transitions.trans right.transitions.symm
      have here := List.getElem_of_eq same (i := i) (by simpa using hm)
      rwa [List.getElem_map, List.getElem_map] at here
    have final : M.states[i].isFinal = N.states[i].isFinal := by
      have hl := left.final _ (List.getElem_mem hm)
      have hr := right.final _ (List.getElem_mem hn)
      rw [id] at hl
      exact Bool.eq_iff_iff.mpr (hl.trans hr.symm)
    exact State.mk.injEq .. ▸ ⟨id,transitions,final⟩
  have alphabet := left.alphabet.trans right.alphabet.symm
  cases M
  cases N
  simp_all

theorem realizes_iff (count : rows.length = size.stateCount)
    (few : size.stateCount ≤ maxStates) :
    M.Realizes size rows finals ↔ M = ofRows size.alphabetSize rows finals :=
  ⟨fun realizes => realizes.unique (realizes_ofRows finals count few),
    fun eq => eq ▸ realizes_ofRows finals count few⟩

theorem Realizes.wellFormed (realizes : M.Realizes size rows finals) (range : size.InRange)
    (fits : size.Fits rows) : M.WellFormed := by
  have row : ∀ s ∈ M.states, s.transitions ∈ rows := by
    intro s member
    rw [← realizes.transitions]
    exact List.mem_map_of_mem member
  constructor
  · exact realizes.alphabet ▸ range.alphabet
  · exact realizes.count ▸ range.states
  · exact realizes.named
  · intro s member
    rw [realizes.alphabet]
    exact fits.width _ (row s member)
  · intro s member q destination
    rw [realizes.count]
    exact fits.closed _ (row s member) q destination

theorem checkSize_eq_ok_iff {most : Nat} {fault : Int → TableError} {value : Int} :
    checkSize most fault value = .ok n ↔ value = n ∧ 1 ≤ n ∧ n ≤ most := by
  simp only [checkSize]
  split
  next range => simp only [Except.ok.injEq]; omega
  next range => simp only [reduceCtorEq, false_iff]; omega

theorem checkSize_eq_error_iff {most : Nat} {fault : Int → TableError} {value : Int} :
    checkSize most fault value = .error e ↔ ¬(1 ≤ value ∧ value ≤ most) ∧ e = fault value := by
  simp only [checkSize]
  split
  next range => simp [range]
  next range => simp [range, eq_comm]

theorem rowFault?_eq_none_iff {symbols : Nat} :
    rowFault? symbols count source row = none ↔
      row.length = symbols ∧ ∀ q ∈ row, q.index < count := by
  simp only [rowFault?]
  split
  next narrow => simp [narrow]
  next wide =>
    simp only [ne_eq, Decidable.not_not] at wide
    simp only [wide, Option.map_eq_none_iff, List.find?_eq_none, decide_eq_true_eq, true_and,
      Nat.not_le]
    constructor
    · intro all q member
      obtain ⟨i,h,rfl⟩ := List.mem_iff_getElem.mp member
      exact all (row[i], i) (List.mk_mem_zipIdx_iff_getElem?.mpr (by simp))
    · rintro all ⟨q,i⟩ member
      exact all q (List.fst_mem_of_mem_zipIdx member)

/-- No row escapes its check, since every row has a letter beside it. -/
theorem findSome?_rowFault?_eq_none_iff (size : Dimensions) (few : rows.length ≤ maxStates) :
    ((StateId.all.zip rows).findSome? fun (q, row) => rowFault? size.alphabetSize
      size.stateCount q row) = none ↔ size.Fits rows := by
  simp only [List.findSome?_eq_none_iff, Prod.forall, rowFault?_eq_none_iff]
  constructor
  · intro all
    have each : ∀ row ∈ rows, row.length = size.alphabetSize ∧
        ∀ q ∈ row, q.index < size.stateCount := by
      intro row member
      obtain ⟨i,h,rfl⟩ := List.mem_iff_getElem.mp member
      have letter : i < StateId.all.length := by
        simp only [StateId.length_all]
        exact Nat.lt_of_lt_of_le h few
      refine all StateId.all[i] rows[i] (List.mem_iff_getElem.mpr ⟨i,?_,?_⟩)
      · simp only [List.length_zip]; omega
      · simp
    exact ⟨fun row member => (each row member).1,fun row member => (each row member).2⟩
  · intro fits q row member
    have inside := (List.of_mem_zip member).2
    exact ⟨fits.width row inside,fits.closed row inside⟩

/-- Validated construction succeeds exactly on rows and final states that fit dimensions in range. -/
theorem build_eq_ok_iff : build word rows finals = .ok M ↔
    ∃ size : Dimensions, word.toNat = size.alphabetSize ∧ rows.length = size.stateCount ∧
      size.InRange ∧ size.Fits rows ∧ (∀ q ∈ finals, q.index < size.stateCount) ∧
      M = ofRows size.alphabetSize rows finals := by
  constructor
  · intro built
    simp only [build, bind, bind_eq_ok_iff] at built
    obtain ⟨a,alphabet,n,states,judged⟩ := built
    obtain ⟨signed,aRange⟩ := checkSize_eq_ok_iff.mp alphabet
    obtain ⟨count,nRange⟩ := checkSize_eq_ok_iff.mp states
    have count : rows.length = n := by omega
    have small : a < Text.halfCount := Nat.lt_of_le_of_lt aRange.2 (by decide)
    have written := (Text.signedValue_eq_iff word small).mp signed
    split at judged
    next => contradiction
    next sound =>
      split at judged
      next => contradiction
      next declared =>
        refine ⟨⟨a,n⟩,written,count,⟨aRange,nRange⟩,?_,?_,(Except.ok.inj judged).symm⟩
        · exact (findSome?_rowFault?_eq_none_iff ⟨a,n⟩ (count ▸ nRange.2)).mp sound
        · simpa using declared
  · rintro ⟨⟨a,n⟩,written,count,⟨aRange,nRange⟩,fits,declared,rfl⟩
    have alphabet : checkAlphabetSize (Text.signedValue word) = .ok a := by
      have small : a < Text.halfCount := Nat.lt_of_le_of_lt aRange.2 (by decide)
      exact checkSize_eq_ok_iff.mpr ⟨(Text.signedValue_eq_iff word small).mpr written,aRange⟩
    have states : checkStateCount rows.length = .ok n :=
      checkSize_eq_ok_iff.mpr ⟨by rw [count],nRange⟩
    have sound := (findSome?_rowFault?_eq_none_iff ⟨a,n⟩ (count ▸ nRange.2)).mpr fits
    have listed : finals.find? (fun q => decide (n ≤ q.index)) = none := by simpa using declared
    simp only at sound
    simp [build, alphabet, states, sound, listed, bind, Except.bind]

theorem build_wellFormed (built : build word rows finals = .ok M) : M.WellFormed := by
  obtain ⟨size,_,count,range,fits,_,rfl⟩ := build_eq_ok_iff.mp built
  exact (realizes_ofRows finals count range.states.2).wellFormed range fits

/-- A state is found under its own letter. -/
theorem WellFormed.state?_of_mem (wellFormed : M.WellFormed) {s : State} (member : s ∈ M.states) :
    M.state? s.id = some s := by
  obtain ⟨i,declared,rfl⟩ := List.mem_iff_getElem.mp member
  rw [state?, wellFormed.named i declared]
  exact List.getElem?_eq_getElem declared

/-- What is listed as final is final: no two states have one letter. -/
theorem WellFormed.isFinal_of_mem_finals (wellFormed : M.WellFormed) {s : State}
    (member : s ∈ M.states) (listed : s.id ∈ M.finals) : s.isFinal = true := by
  obtain ⟨t,finalState,same⟩ := List.mem_map.mp listed
  obtain ⟨declared,final⟩ := List.mem_filter.mp finalState
  have found := wellFormed.state?_of_mem member
  rw [← same, wellFormed.state?_of_mem declared] at found
  exact Option.some.inj found ▸ final

/-- An automaton is built again from its own alphabet size, rows and final states. -/
theorem WellFormed.build_eq (wellFormed : M.WellFormed) :
    build (.ofNat M.alphabetSize) (M.states.map State.transitions) M.finals = .ok M := by
  have count : (M.states.map State.transitions).length = M.states.length := List.length_map ..
  have realizes : M.Realizes ⟨M.alphabetSize, M.states.length⟩ (M.states.map State.transitions)
      M.finals := by
    refine ⟨rfl,rfl,wellFormed.named,rfl,fun s member => ⟨fun final => ?_,?_⟩⟩
    · exact List.mem_map_of_mem (List.mem_filter.mpr ⟨member,final⟩)
    · exact wellFormed.isFinal_of_mem_finals member
  refine build_eq_ok_iff.mpr ⟨⟨M.alphabetSize, M.states.length⟩,?_,count,
    ⟨wellFormed.alphabet,wellFormed.count⟩,⟨?_,?_⟩,?_,(realizes_iff count wellFormed.count.2).mp realizes⟩
  · have small := wellFormed.alphabet.2
    exact Nat.mod_eq_of_lt (by omega)
  · exact List.forall_mem_map.mpr wellFormed.width
  · exact List.forall_mem_map.mpr wellFormed.closed
  · intro q listed
    obtain ⟨s,final,rfl⟩ := List.mem_map.mp listed
    have found := wellFormed.state?_of_mem (List.mem_filter.mp final).1
    exact (List.getElem?_eq_some_iff.mp found).1

end Automaton

end DigitAutomata
