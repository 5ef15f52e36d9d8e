import DigitAutomata.Proofs.Representation
import DigitAutomata.Word.Evaluation

/-! Words and the states they lead to. A path looks up each digit of a word in the row of the state that
it is in; an automaton that was constructed has a path for every word over its alphabet, and evaluation
finds it. At the first character that is no symbol it stops with the path so far. -/
namespace DigitAutomata

/-- The character is the decimal digit of the number. -/
structure IsDigit (c : Char) (d : Nat) : Prop where
  single : d < 10
  written : c = Nat.digitChar d

/-- The character is a digit below the alphabet size. -/
def IsSymbol (c : Char) (alphabetSize : Nat) : Prop := ∃ d, IsDigit c d ∧ d < alphabetSize

theorem symbolIndex?_eq_some_iff {alphabetSize : Nat} :
    symbolIndex? c alphabetSize = some d ↔ IsDigit c d ∧ d < alphabetSize := by
  simp only [symbolIndex?]
  constructor
  · intro known
    split at known
    next symbol =>
      have eq := Option.some.inj known
      have range := Char.isDigit_iff_toNat.mp symbol.1
      have first : '0'.toNat = 48 := rfl
      have last : '9'.toNat = 57 := rfl
      refine ⟨⟨by omega,?_⟩,eq ▸ symbol.2⟩
      apply Char.toNat_inj.mp
      rw [Nat.toNat_digitChar_of_lt_ten (by omega)]
      omega
    next => contradiction
  · rintro ⟨⟨single,rfl⟩,below⟩
    have value : (Nat.digitChar d).toNat - 48 = d := by
      rw [Nat.toNat_digitChar_of_lt_ten single]
      omega
    rw [if_pos ⟨by simp [single],by rw [value]; exact below⟩, value]

theorem IsDigit.unique {d d' : Nat} (left : IsDigit c d) (right : IsDigit c d') : d = d' := by
  have known := symbolIndex?_eq_some_iff.mpr ⟨left,left.single⟩
  have known' := symbolIndex?_eq_some_iff.mpr ⟨right,right.single⟩
  exact Option.some.inj (known.symm.trans known')

namespace Automaton

/-- The automata that a program can come to hold. -/
inductive Constructible : Automaton → Prop where
  | built : build size rows listed = .ok M → Constructible M
  | parsed : parse source = .ok M → Constructible M
  | streamed : (ofReadings readings).value = .ok M → Constructible M
  | filed : (ofFile files path).value = .ok M → Constructible M

/-- `Path M q symbols visited target`: from `q` the symbols lead over the visited states to `target`,
one transition for each; the first visited state is `q` and the last one is `target`. The destination of
a state on a digit stands in the row of the state, in the place of the digit. -/
inductive Path (M : Automaton) : StateId → List Char → List StateId → StateId → Prop where
  | nil : Path M q [] [q] q
  | cons : IsDigit c d → M.states[q.index.val]? = some s → s.transitions[d]? = some next →
      Path M next symbols visited target → Path M q (c :: symbols) (q :: visited) target

variable {M : Automaton} {q target : StateId} {symbols front rest : List Char}
  {visited : List StateId} {c : Char} {position : Nat} {word : String}

theorem Constructible.wellFormed (constructible : M.Constructible) : M.WellFormed := by
  cases constructible with
  | built built => exact build_wellFormed built
  | parsed loaded =>
    obtain ⟨size,_,fills⟩ := parse_isLoaded loaded
    exact fills.wellFormed
  | streamed loaded =>
    obtain ⟨size,_,fills⟩ := load_isLoaded loaded
    exact fills.wellFormed
  | filed loaded =>
    obtain ⟨bytes,_,size,_,fills⟩ := ofFile_isLoaded loaded
    exact fills.wellFormed

theorem next?_eq_some_iff : M.next? q d = some next ↔
    ∃ s, M.states[q.index.val]? = some s ∧ s.transitions[d]? = some next :=
  Option.bind_eq_some_iff

theorem Path.of_next? (digit : IsDigit c d) (step : M.next? q d = some next)
    (path : M.Path next symbols visited target) : M.Path q (c :: symbols) (q :: visited) target := by
  obtain ⟨s,found,taken⟩ := next?_eq_some_iff.mp step
  exact .cons digit found taken path

theorem WellFormed.start_declared (wellFormed : M.WellFormed) :
    StateId.start.index < M.states.length :=
  wellFormed.count.1

/-- A declared state has a transition for each symbol, and it leads to a declared state. -/
theorem WellFormed.next?_exists (wellFormed : M.WellFormed) (declared : q.index < M.states.length)
    (below : d < M.alphabetSize) :
    ∃ next, M.next? q d = some next ∧ next.index < M.states.length := by
  have member := List.getElem_mem declared
  have inside : d < M.states[q.index.val].transitions.length := by
    rw [wellFormed.width _ member]
    exact below
  refine ⟨M.states[q.index.val].transitions[d],?_,?_⟩
  · simp [next?, state?, State.next?, declared, inside]
  · exact wellFormed.closed _ member _ (List.getElem_mem inside)

/-- No transition leads outside the alphabet. -/
theorem WellFormed.below_of_next? (wellFormed : M.WellFormed) (step : M.next? q d = some next) :
    d < M.alphabetSize := by
  obtain ⟨s,found,taken⟩ := next?_eq_some_iff.mp step
  obtain ⟨inside,_⟩ := List.getElem?_eq_some_iff.mp taken
  rw [wellFormed.width s (List.mem_of_getElem? found)] at inside
  exact inside

theorem declared_of_next? (step : M.next? q d = some next) : q.index < M.states.length := by
  obtain ⟨s,found,_⟩ := next?_eq_some_iff.mp step
  exact (List.getElem?_eq_some_iff.mp found).1

theorem WellFormed.next_declared (wellFormed : M.WellFormed) (step : M.next? q d = some next) :
    next.index < M.states.length := by
  obtain ⟨_,same,inside⟩ :=
    wellFormed.next?_exists (declared_of_next? step) (wellFormed.below_of_next? step)
  exact Option.some.inj (same.symm.trans step) ▸ inside

/-- The state under a letter is the only one with that identifier. -/
theorem WellFormed.isFinal_iff (wellFormed : M.WellFormed) :
    M.isFinal q = true ↔ q ∈ M.finals := by
  simp only [isFinal, state?, finals, Option.any_eq_true, List.mem_map, List.mem_filter]
  constructor
  · rintro ⟨s,found,final⟩
    obtain ⟨declared,rfl⟩ := List.getElem?_eq_some_iff.mp found
    exact ⟨_,⟨List.getElem_mem declared,final⟩,StateId.ext_index (wellFormed.named _ declared)⟩
  · rintro ⟨s,⟨member,final⟩,rfl⟩
    exact ⟨s,wellFormed.state?_of_mem member,final⟩

theorem Path.length (path : M.Path q symbols visited target) :
    visited.length = symbols.length + 1 := by
  induction path with
  | nil => rfl
  | cons _ _ _ _ ih => simp [ih]

/-- The rows settle where the symbols lead. -/
theorem Path.unique {visited' : List StateId} {target' : StateId}
    (left : M.Path q symbols visited target) (right : M.Path q symbols visited' target') :
    visited = visited' ∧ target = target' := by
  induction left generalizing visited' with
  | nil =>
    cases right
    exact ⟨rfl,rfl⟩
  | cons digit found taken _ ih =>
    cases right with
    | cons digit' found' taken' later =>
      obtain rfl := digit.unique digit'
      obtain rfl := Option.some.inj (found.symm.trans found')
      obtain rfl := Option.some.inj (taken.symm.trans taken')
      obtain ⟨rfl,rfl⟩ := ih later
      exact ⟨rfl,rfl⟩

/-- The automaton is total on its alphabet, so a word of symbols is never stuck. -/
theorem WellFormed.path_exists (wellFormed : M.WellFormed) (declared : q.index < M.states.length)
    (valid : ∀ c ∈ symbols, IsSymbol c M.alphabetSize) :
    ∃ visited target, M.Path q symbols visited target := by
  induction symbols generalizing q with
  | nil => exact ⟨[q],q,.nil⟩
  | cons c rest ih =>
    obtain ⟨d,digit,below⟩ := valid c (by simp)
    obtain ⟨next,step,inside⟩ := wellFormed.next?_exists declared below
    obtain ⟨visited,target,path⟩ := ih inside fun c member => valid c (List.mem_cons_of_mem _ member)
    exact ⟨q :: visited,target,.of_next? digit step path⟩

theorem Path.declared (wellFormed : M.WellFormed) (path : M.Path q symbols visited target)
    (declared : q.index < M.states.length) : target.index < M.states.length := by
  induction path with
  | nil => exact declared
  | cons _ found taken _ ih =>
    exact ih (wellFormed.next_declared (next?_eq_some_iff.mpr ⟨_,found,taken⟩))

theorem walk_stop (stuck : (symbolIndex? c M.alphabetSize).bind (M.next? q) = none) :
    (M.walk q position (c :: rest)).value = ⟨[q], q, some (c, position)⟩ := by
  simp [walk, stuck]

theorem walk_step (step : (symbolIndex? c M.alphabetSize).bind (M.next? q) = some target) :
    (M.walk q position (c :: rest)).value =
      { (M.walk target (position + 1) rest).value with
        visited := q :: (M.walk target (position + 1) rest).value.visited } := by
  simp [walk, step]

/-- The walk over the symbols of a path is the path; what comes after is left open. -/
theorem Path.walk (wellFormed : M.WellFormed) (path : M.Path q front visited target)
    (position : Nat) (ends : (M.walk target (position + front.length) rest).value =
      ⟨[target], target, fault⟩) :
    (M.walk q position (front ++ rest)).value = ⟨visited, target, fault⟩ := by
  induction path generalizing position with
  | nil => simpa using ends
  | @cons c d s next symbols visited target q digit found taken path ih =>
    have step := next?_eq_some_iff.mpr ⟨s,found,taken⟩
    have known := symbolIndex?_eq_some_iff.mpr ⟨digit,wellFormed.below_of_next? step⟩
    have later := ih (position + 1) (by simpa [Nat.add_assoc, Nat.add_comm 1] using ends)
    have next : (symbolIndex? c M.alphabetSize).bind (M.next? q) = some next := by
      rw [known, Option.bind_some, step]
    rw [List.cons_append, walk_step next, later]

theorem walk_invalid (invalid : ¬IsSymbol c M.alphabetSize) (position : Nat) (rest : List Char) :
    (M.walk q position (c :: rest)).value = ⟨[q], q, some (c, position)⟩ := by
  cases known : symbolIndex? c M.alphabetSize with
  | none => exact walk_stop (by rw [known, Option.bind_none])
  | some d => exact absurd ⟨d,symbolIndex?_eq_some_iff.mp known⟩ invalid

theorem evaluate_eq_ok_iff {e : Evaluation} : M.evaluate word = .ok e ↔
    (M.walk .start 0 word.toList).value.fault = none ∧
      e = ⟨⟨word, (M.walk .start 0 word.toList).value.visited⟩,
        .ofFinal (M.isFinal (M.walk .start 0 word.toList).value.last)⟩ := by
  simp only [evaluate, run, Journaled.value_bind]
  cases (M.walk .start 0 word.toList).value.fault with
  | none => simp [eq_comm]
  | some fault => simp

theorem evaluate_eq_error_iff {e : WordError} : M.evaluate word = .error e ↔
    ∃ symbol place, (M.walk .start 0 word.toList).value.fault = some (symbol, place) ∧
      e = ⟨symbol, place, M.alphabetSize, (M.walk .start 0 word.toList).value.visited⟩ := by
  simp only [evaluate, run, Journaled.value_bind]
  cases (M.walk .start 0 word.toList).value.fault with
  | none => simp
  | some fault =>
    simp only [Journaled.value_pure, Except.error.injEq, Option.some.injEq]
    constructor
    · rintro rfl
      exact ⟨fault.1,fault.2,rfl,rfl⟩
    · rintro ⟨symbol,place,rfl,rfl⟩
      rfl

theorem evaluate_of_walk (word : String)
    (walked : (M.walk .start 0 word.toList).value = ⟨visited, target, none⟩) :
    M.evaluate word = .ok ⟨⟨word, visited⟩, .ofFinal (M.isFinal target)⟩ := by
  rw [evaluate_eq_ok_iff, walked]
  exact ⟨rfl,rfl⟩

theorem evaluate_of_fault (word : String)
    (walked : (M.walk .start 0 word.toList).value = ⟨visited, target, some (c, position)⟩) :
    M.evaluate word = .error ⟨c, position, M.alphabetSize, visited⟩ := by
  rw [evaluate_eq_error_iff, walked]
  exact ⟨c,position,rfl,rfl⟩

/-- Evaluation computes the path from the start state and its verdict; at the first character that is
no symbol it fails there, with the path of what comes before. A symbol always has a transition. -/
theorem evaluate_follows_path (constructible : M.Constructible) (word : String) :
    ((∀ c ∈ word.toList, IsSymbol c M.alphabetSize) →
      ∃ visited target, M.Path .start word.toList visited target ∧
        visited.length = word.length + 1 ∧
        M.evaluate word = .ok ⟨⟨word, visited⟩,
          if target ∈ M.finals then .accepted else .rejected⟩) ∧
    (∀ front c rest, word.toList = front ++ c :: rest →
      (∀ b ∈ front, IsSymbol b M.alphabetSize) → ¬IsSymbol c M.alphabetSize →
      ∃ visited target, M.Path .start front visited target ∧
        visited.length = front.length + 1 ∧
        M.evaluate word = .error ⟨c, front.length, M.alphabetSize, visited⟩) ∧
    (∀ front visited target c d, M.Path .start front visited target → IsDigit c d →
      d < M.alphabetSize → ∃ s next, M.states[target.index.val]? = some s ∧
        s.transitions[d]? = some next ∧ M.next? target d = some next) := by
  have wellFormed := constructible.wellFormed
  refine ⟨?_,?_,?_⟩
  · intro valid
    obtain ⟨visited,target,path⟩ := wellFormed.path_exists wellFormed.start_declared valid
    have walked : (M.walk .start 0 (word.toList ++ [])).value = ⟨visited, target, none⟩ :=
      path.walk wellFormed 0 rfl
    rw [List.append_nil] at walked
    refine ⟨visited,target,path,path.length.trans (by rw [String.length_toList]),?_⟩
    rw [evaluate_of_walk word walked, Verdict.ofFinal]
    simp only [wellFormed.isFinal_iff]
  · intro front c rest split valid invalid
    obtain ⟨visited,target,path⟩ := wellFormed.path_exists wellFormed.start_declared valid
    have walked := path.walk wellFormed 0 (walk_invalid invalid _ rest)
    rw [Nat.zero_add, ← split] at walked
    exact ⟨visited,target,path,path.length,evaluate_of_fault word walked⟩
  · intro front visited target c d path _ below
    have declared := path.declared wellFormed wellFormed.start_declared
    obtain ⟨next,step,_⟩ := wellFormed.next?_exists declared below
    obtain ⟨s,found,taken⟩ := next?_eq_some_iff.mp step
    exact ⟨s,next,found,taken,step⟩

/-- Two words on the automaton that tells odd from even: one that is read to its end, and one with a bad
character after two symbols. -/
theorem evaluate_follows_path_parity :
    let M := ofRows 2 [[⟨1⟩, .start], [.start, ⟨1⟩]] [⟨1⟩]
    M.Constructible ∧
      ((∀ b ∈ ['0', '1'], IsSymbol b 2) ∧ M.Path .start ['0', '1'] [.start, ⟨1⟩, ⟨1⟩] ⟨1⟩ ∧
        M.evaluate "01" = .ok ⟨⟨"01", [.start, ⟨1⟩, ⟨1⟩]⟩, .accepted⟩) ∧
      ((∀ b ∈ ['0', '0'], IsSymbol b 2) ∧ ¬IsSymbol 'x' 2 ∧
        M.Path .start ['0', '0'] [.start, ⟨1⟩, .start] .start ∧
        M.evaluate "00x1" = .error ⟨'x', 2, 2, [.start, ⟨1⟩, .start]⟩) ∧
      M.next? .start 1 = some .start := by
  intro M
  have built : build 2 [[⟨1⟩, .start], [.start, ⟨1⟩]] [⟨1⟩] = .ok M := rfl
  have constructible : M.Constructible := .built built
  have zero : IsDigit '0' 0 := ⟨by decide,rfl⟩
  have one : IsDigit '1' 1 := ⟨by decide,rfl⟩
  have valid : ∀ b ∈ ['0', '1'], IsSymbol b 2 := by
    simp only [List.forall_mem_cons]
    exact ⟨⟨0,zero,by decide⟩,⟨1,one,by decide⟩,nofun⟩
  have valid' : ∀ b ∈ ['0', '0'], IsSymbol b 2 := by
    simp only [List.forall_mem_cons]
    exact ⟨⟨0,zero,by decide⟩,⟨0,zero,by decide⟩,nofun⟩
  have invalid : ¬IsSymbol 'x' 2 := by
    rintro ⟨d,⟨single,written⟩,_⟩
    have digit : (Nat.digitChar d).isDigit = true := by simp [single]
    rw [← written] at digit
    exact absurd digit (by decide)
  have there : M.Path .start ['0', '1'] [.start, ⟨1⟩, ⟨1⟩] ⟨1⟩ :=
    .cons zero rfl rfl (.cons one rfl rfl .nil)
  have back : M.Path .start ['0', '0'] [.start, ⟨1⟩, .start] .start :=
    .cons zero rfl rfl (.cons zero rfl rfl .nil)
  obtain ⟨reads,_,total⟩ := evaluate_follows_path constructible "01"
  obtain ⟨_,refuses,_⟩ := evaluate_follows_path constructible "00x1"
  obtain ⟨visited,target,path,_,read⟩ := reads valid
  obtain ⟨rfl,rfl⟩ := there.unique path
  obtain ⟨visited',target',path',_,refused⟩ := refuses ['0', '0'] 'x' ['1'] rfl valid' invalid
  obtain ⟨rfl,rfl⟩ := back.unique path'
  obtain ⟨s,next,found,taken,step⟩ := total [] [.start] .start '1' 1 .nil one (by decide)
  obtain rfl : (⟨.start, [⟨1⟩, .start], false⟩ : State) = s := Option.some.inj found
  obtain rfl : StateId.start = next := Option.some.inj taken
  exact ⟨constructible,⟨valid,there,read⟩,⟨valid',invalid,back,refused⟩,step⟩

end Automaton

end DigitAutomata
