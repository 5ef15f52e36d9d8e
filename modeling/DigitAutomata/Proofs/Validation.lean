import DigitAutomata.Proofs.Walk

/-! What validated construction accepts and what it makes of it. It refuses every table that is not sound,
and what it builds is total on its symbols and closed under its transitions. What can be seen of an
automaton is all there is to it: built again from its own rows and final states it is the same, and of
the list of final states only the members count. -/
namespace DigitAutomata.Automaton

/-- What construction demands of a size, rows and final states. The size is taken without a sign. -/
structure Sound (size : UInt64) (rows : List Row) (listed : List StateId) : Prop where
  alphabet : 1 ≤ size.toNat ∧ size.toNat ≤ 10
  count : 1 ≤ rows.length ∧ rows.length ≤ maxStates
  width : ∀ row ∈ rows, row.length = size.toNat
  closed : ∀ row ∈ rows, ∀ q ∈ row, q.index < rows.length
  listed : ∀ q ∈ listed, q.index < rows.length

/-- Reading never gets stuck: there is a start state, exactly the declared states have transitions, one on
each symbol, and these lead to declared states, however often they are followed. -/
structure Total (M : Automaton) : Prop where
  alphabet : 1 ≤ M.alphabetSize ∧ M.alphabetSize ≤ 10
  count : 1 ≤ M.states.length ∧ M.states.length ≤ maxStates
  start : ∃ s, M.start? = some s ∧ s.id = .start
  defined : ∀ q d, (M.next? q d).isSome ↔ q.index < M.states.length ∧ d < M.alphabetSize
  transition : ∀ q d next, M.next? q d = some next →
    ∃ s, M.state? q = some s ∧ s.id = q ∧ s.next? d = some next
  closed : ∀ q d next, M.next? q d = some next → ∃ s ∈ M.states, s.id = next
  unending : ∀ (q : StateId) (ds : List Nat), q.index < M.states.length → (∀ d ∈ ds, d < M.alphabetSize) →
    ∃ s ∈ M.states, ds.foldlM M.next? q = some s.id

variable {M N : Automaton} {size size' : UInt64} {rows rows' : List Row}
  {listed listed' : List StateId} {q next : StateId} {d : Nat} {ds : List Nat}

theorem sound_iff : Sound size rows listed ↔ ∃ table : Dimensions, size.toNat = table.alphabetSize ∧
    rows.length = table.stateCount ∧ table.InRange ∧ table.Fits rows ∧
    ∀ q ∈ listed, q.index < table.stateCount := by
  constructor
  · intro sound
    exact ⟨⟨size.toNat, rows.length⟩,rfl,rfl,⟨sound.alphabet,sound.count⟩,
      ⟨sound.width,sound.closed⟩,sound.listed⟩
  · rintro ⟨⟨a,n⟩,rfl,rfl,range,fits,listed⟩
    exact ⟨range.alphabet,range.states,fits.width,fits.closed,listed⟩

theorem build_eq_ok_iff_sound : build size rows listed = .ok M ↔
    Sound size rows listed ∧ M = ofRows size.toNat rows listed := by
  rw [build_eq_ok_iff, sound_iff]
  constructor
  · rintro ⟨⟨a,n⟩,rfl,rfl,range,fits,declared,rfl⟩
    exact ⟨⟨_,rfl,rfl,range,fits,declared⟩,rfl⟩
  · rintro ⟨⟨⟨a,n⟩,rfl,rfl,range,fits,declared⟩,rfl⟩
    exact ⟨_,rfl,rfl,range,fits,declared,rfl⟩

theorem build_eq_error_iff : (∃ e, build size rows listed = .error e) ↔ ¬Sound size rows listed := by
  constructor
  · rintro ⟨e,refused⟩ sound
    have built := build_eq_ok_iff_sound.mpr ⟨sound,rfl⟩
    rw [refused] at built
    contradiction
  · intro unsound
    cases judged : build size rows listed with
    | error e => exact ⟨e,rfl⟩
    | ok M => exact absurd (build_eq_ok_iff_sound.mp judged).1 unsound

theorem realizes_of_build (built : build size rows listed = .ok M) :
    M.Realizes ⟨size.toNat, rows.length⟩ rows listed := by
  obtain ⟨sound,rfl⟩ := build_eq_ok_iff_sound.mp built
  have few : (⟨size.toNat, rows.length⟩ : Dimensions).stateCount ≤ maxStates := sound.count.2
  exact realizes_ofRows listed rfl few

/-- What was listed is declared, so it is the letter of a state. -/
theorem mem_finals_of_build (built : build size rows listed = .ok M) (q : StateId) :
    q ∈ M.finals ↔ q ∈ listed := by
  have realizes := realizes_of_build built
  simp only [finals, List.mem_map, List.mem_filter]
  constructor
  · rintro ⟨s,⟨member,final⟩,rfl⟩
    exact (realizes.final s member).mp final
  · intro inside
    have declared : q.index < M.states.length :=
      realizes.count.symm ▸ (build_eq_ok_iff_sound.mp built).1.listed q inside
    have named : M.states[q.index.val].id = q := StateId.ext_index (realizes.named _ declared)
    have member := List.getElem_mem declared
    exact ⟨_,⟨member,(realizes.final _ member).mpr (named.symm ▸ inside)⟩,named⟩

/-- The letters are in order, so none comes twice. -/
theorem WellFormed.finals_pairwise (wellFormed : M.WellFormed) :
    M.finals.Pairwise fun p q => p.index < q.index := by
  have ordered : M.states.Pairwise fun s t => s.id.index < t.id.index := by
    apply List.pairwise_iff_getElem.mpr
    intro i j hi hj before
    rw [Fin.lt_def, wellFormed.named i hi, wellFormed.named j hj]
    exact before
  exact List.pairwise_map.mpr (ordered.filter _)

/-- The lists of final states may differ in order and in repetitions. -/
theorem build_unique (left : build size rows listed = .ok M)
    (right : build size' rows' listed' = .ok N) :
    M = N ↔ size = size' ∧ rows = rows' ∧ ∀ q, q ∈ listed ↔ q ∈ listed' := by
  have realizes := realizes_of_build left
  have realizes' := realizes_of_build right
  constructor
  · rintro rfl
    refine ⟨?_,?_,fun q => ?_⟩
    · exact UInt64.toNat_inj.mp (realizes.alphabet.symm.trans realizes'.alphabet)
    · exact realizes.transitions.symm.trans realizes'.transitions
    · exact (mem_finals_of_build left q).symm.trans (mem_finals_of_build right q)
  · rintro ⟨rfl,rfl,same⟩
    exact realizes.unique { realizes' with
      final := fun s member => (realizes'.final s member).trans (same s.id).symm }

/-- Construction and what can be seen of an automaton undo each other. An automaton is built again from
its own alphabet size, rows and final states; two that were built are equal exactly if their sizes and
rows are and the same states are listed as final; and those are seen once each, in their order. -/
theorem build_observed :
    (∀ M : Automaton, M.Constructible → ∃ size : UInt64, size.toNat = M.alphabetSize ∧
      build size (M.states.map State.transitions) M.finals = .ok M) ∧
    (∀ size rows listed M size' rows' listed' N, build size rows listed = .ok M →
      build size' rows' listed' = .ok N →
      (M = N ↔ size = size' ∧ rows = rows' ∧ ∀ q, q ∈ listed ↔ q ∈ listed')) ∧
    ∀ size rows listed M, build size rows listed = .ok M →
      (∀ q, q ∈ M.finals ↔ q ∈ listed) ∧ M.finals.Pairwise fun p q => p.index < q.index := by
  refine ⟨?_,?_,?_⟩
  · intro M constructible
    have wellFormed := constructible.wellFormed
    have small := wellFormed.alphabet.2
    exact ⟨.ofNat M.alphabetSize,Nat.mod_eq_of_lt (by omega),wellFormed.build_eq⟩
  · intro size rows listed M size' rows' listed' N left right
    exact build_unique left right
  · intro size rows listed M built
    exact ⟨mem_finals_of_build built,(build_wellFormed built).finals_pairwise⟩

/-- The final states in order, and again in another order with one of them repeated. -/
theorem build_observed_parity :
    let rows : List Row := [[⟨1⟩, .start], [.start, ⟨1⟩]]
    let M := ofRows 2 rows [.start, ⟨1⟩]
    let N := ofRows 2 rows [⟨1⟩, .start, ⟨1⟩]
    build 2 rows [.start, ⟨1⟩] = .ok M ∧ build 2 rows [⟨1⟩, .start, ⟨1⟩] = .ok N ∧ M = N ∧
      N.finals = [.start, ⟨1⟩] ∧ (N.finals.Pairwise fun p q => p.index < q.index) ∧
      N.Constructible ∧ ∃ size : UInt64, size.toNat = 2 ∧ build size rows N.finals = .ok N := by
  intro rows M N
  have left : build 2 rows [.start, ⟨1⟩] = .ok M := rfl
  have right : build 2 rows [⟨1⟩, .start, ⟨1⟩] = .ok N := rfl
  obtain ⟨rebuilt,unique,seen⟩ := build_observed
  have same : M = N := by
    refine (unique 2 rows _ M 2 rows _ N left right).mpr ⟨rfl,rfl,fun q => ?_⟩
    simp only [List.mem_cons, List.not_mem_nil, or_false]
    constructor
    · rintro (first | second)
      · exact .inr (.inl first)
      · exact .inl second
    · rintro (second | first | second)
      · exact .inr second
      · exact .inl first
      · exact .inr second
  exact ⟨left,right,same,rfl,(seen 2 rows _ N right).2,.built right,rebuilt N (.built right)⟩

theorem WellFormed.state?_declared (wellFormed : M.WellFormed) (declared : q.index < M.states.length) :
    ∃ s ∈ M.states, s.id = q ∧ M.state? q = some s :=
  ⟨_,List.getElem_mem declared,StateId.ext_index (wellFormed.named _ declared),
    List.getElem?_eq_getElem declared⟩

/-- Each transition leads to a declared state, from which the rest of them can be followed. -/
theorem WellFormed.foldlM_next? (wellFormed : M.WellFormed) (declared : q.index < M.states.length)
    (symbols : ∀ d ∈ ds, d < M.alphabetSize) :
    ∃ target, ds.foldlM M.next? q = some target ∧ target.index < M.states.length := by
  induction ds generalizing q with
  | nil => exact ⟨q,rfl,declared⟩
  | cons d ds ih =>
    obtain ⟨below,later⟩ := List.forall_mem_cons.mp symbols
    obtain ⟨next,step,inside⟩ := wellFormed.next?_exists declared below
    obtain ⟨target,led,ends⟩ := ih inside later
    refine ⟨target,?_,ends⟩
    rw [List.foldlM_cons, step]
    exact led

theorem WellFormed.total (wellFormed : M.WellFormed) : M.Total where
  alphabet := wellFormed.alphabet
  count := wellFormed.count
  start := by
    obtain ⟨s,_,named,found⟩ := wellFormed.state?_declared wellFormed.start_declared
    exact ⟨s,found,named⟩
  defined := by
    intro q d
    constructor
    · intro some
      obtain ⟨next,step⟩ := Option.isSome_iff_exists.mp some
      exact ⟨declared_of_next? step,wellFormed.below_of_next? step⟩
    · rintro ⟨declared,below⟩
      obtain ⟨next,step,_⟩ := wellFormed.next?_exists declared below
      exact Option.isSome_iff_exists.mpr ⟨next,step⟩
  transition := by
    intro q d next step
    obtain ⟨s,_,named,found⟩ := wellFormed.state?_declared (declared_of_next? step)
    refine ⟨s,found,named,?_⟩
    rwa [next?, found] at step
  closed := by
    intro q d next step
    obtain ⟨s,member,named,_⟩ := wellFormed.state?_declared (wellFormed.next_declared step)
    exact ⟨s,member,named⟩
  unending := by
    intro q ds declared symbols
    obtain ⟨_,led,inside⟩ := wellFormed.foldlM_next? declared symbols
    obtain ⟨s,member,rfl,_⟩ := wellFormed.state?_declared inside
    exact ⟨s,member,led⟩

/-- What can be constructed is total and closed, whether it was built or loaded, and a table that is not
sound is not built; a size that reads as a negative number is one that is out of range. -/
theorem constructible_total :
    (∀ M : Automaton, M.Constructible → M.Total) ∧
    ∀ size rows listed, (∃ e, build size rows listed = .error e) ↔ ¬Sound size rows listed :=
  ⟨fun _ constructible => constructible.wellFormed.total,fun _ _ _ => build_eq_error_iff⟩

/-- Transitions followed four times on the automaton that tells odd from even, and the greatest size,
which has the sign of a negative number. -/
theorem constructible_total_parity :
    let M := ofRows 2 [[⟨1⟩, .start], [.start, ⟨1⟩]] [⟨1⟩]
    M.Constructible ∧ M.Total ∧ (∃ s ∈ M.states, [0, 1, 1, 0].foldlM M.next? .start = some s.id) ∧
      ¬Sound 18446744073709551615 [[.start]] [] ∧
      ∃ e, build 18446744073709551615 [[.start]] [] = .error e := by
  intro M
  have built : build 2 [[⟨1⟩, .start], [.start, ⟨1⟩]] [⟨1⟩] = .ok M := rfl
  have total : M.Total := constructible_total.1 M (.built built)
  have unsound : ¬Sound 18446744073709551615 [[.start]] [] := by
    intro sound
    have small := sound.alphabet.2
    contradiction
  refine ⟨.built built,total,total.unending .start _ ?_ ?_,unsound,
    (constructible_total.2 _ _ _).mpr unsound⟩
  · exact total.count.1
  · simp [M, ofRows]

end DigitAutomata.Automaton
