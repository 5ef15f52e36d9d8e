import DigitAutomata.Proofs.Walk

/-! What evaluation looks at. A walk reads the rows of the states that it visits and the finality of
the last one, so two automata over one alphabet that share these states read a word alike, however they
differ elsewhere. States that no word leads to are never looked at. -/
namespace DigitAutomata.Automaton

variable {M N : Automaton} {q p : StateId} {cs : List Char} {position : Nat} {word : String}

/-- A state of both automata, with the same row and the same finality. -/
def Shares (M N : Automaton) (q : StateId) : Prop :=
  ∃ s t, M.state? q = some s ∧ N.state? q = some t ∧
    s.transitions = t.transitions ∧ s.isFinal = t.isFinal

/-- Some word leads from the start state to the state. -/
def Reachable (M : Automaton) (q : StateId) : Prop :=
  ∃ symbols visited, M.Path .start symbols visited q

/-- The states that a word visits, whether it is read to its end or refused. -/
def visitedOn (M : Automaton) (word : String) : List StateId :=
  match M.evaluate word with
  | .ok e => e.trace.visited
  | .error e => e.visited

theorem Shares.next?_eq (shared : M.Shares N q) : M.next? q = N.next? q := by
  obtain ⟨s,t,left,right,rows,_⟩ := shared
  funext d
  simp [next?, left, right, State.next?, rows]

theorem Shares.isFinal_eq (shared : M.Shares N q) : M.isFinal q = N.isFinal q := by
  obtain ⟨s,t,left,right,_,final⟩ := shared
  simp [isFinal, left, right, final]

theorem visitedOn_eq (M : Automaton) (word : String) :
    M.visitedOn word = (M.walk .start 0 word.toList).value.visited := by
  rw [visitedOn]
  cases outcome : M.evaluate word with
  | ok e =>
    obtain ⟨_,rfl⟩ := evaluate_eq_ok_iff.mp outcome
    rfl
  | error e =>
    obtain ⟨_,_,_,rfl⟩ := evaluate_eq_error_iff.mp outcome
    rfl

theorem first_mem_visited (M : Automaton) (q : StateId) (position : Nat) (cs : List Char) :
    q ∈ (M.walk q position cs).value.visited := by
  cases cs with
  | nil => exact List.mem_singleton.mpr rfl
  | cons c cs =>
    cases next : (symbolIndex? c M.alphabetSize).bind (M.next? q) with
    | none => simp [walk_stop next]
    | some target => simp [walk_step next]

theorem last_mem_visited (M : Automaton) (q : StateId) (position : Nat) (cs : List Char) :
    (M.walk q position cs).value.last ∈ (M.walk q position cs).value.visited := by
  induction cs generalizing q position with
  | nil => exact List.mem_singleton.mpr rfl
  | cons c cs ih =>
    cases next : (symbolIndex? c M.alphabetSize).bind (M.next? q) with
    | none => simp [walk_stop next]
    | some target =>
      rw [walk_step next]
      exact List.mem_cons_of_mem _ (ih target (position + 1))

/-- The walks stay in lock-step: where they stand they see the same row, so they take the same
transition or stop at the same character. -/
theorem walk_eq_of_shares (alphabet : M.alphabetSize = N.alphabetSize)
    (shared : ∀ p ∈ (M.walk q position cs).value.visited, M.Shares N p) :
    M.walk q position cs = N.walk q position cs := by
  induction cs generalizing q position with
  | nil => rfl
  | cons c cs ih =>
    have row := (shared q (first_mem_visited M q position (c :: cs))).next?_eq
    cases next : (symbolIndex? c M.alphabetSize).bind (M.next? q) with
    | none =>
      have here : (symbolIndex? c N.alphabetSize).bind (N.next? q) = none := by
        rw [← alphabet, ← row, next]
      simp only [walk, next, here]
    | some target =>
      have here : (symbolIndex? c N.alphabetSize).bind (N.next? q) = some target := by
        rw [← alphabet, ← row, next]
      rw [walk_step next] at shared
      have later := ih fun p member => shared p (List.mem_cons_of_mem _ member)
      simp only [walk, next, here, later]

theorem run_eq_of_shares (alphabet : M.alphabetSize = N.alphabetSize)
    (shared : ∀ p ∈ M.visitedOn word, M.Shares N p) : M.run word = N.run word := by
  rw [visitedOn_eq] at shared
  have walks := walk_eq_of_shares alphabet shared
  have final := (shared _ (last_mem_visited M .start 0 word.toList)).isFinal_eq
  apply Journaled.ext
  · simp only [run, Journaled.value_bind, ← walks, ← alphabet, ← final]
  · simp only [run, Journaled.records_bind, ← walks, ← alphabet, ← final]

/-- What each transition keeps, a path keeps. -/
theorem Path.keeps {P : StateId → Prop} (step : ∀ q d r, P q → M.next? q d = some r → P r)
    (path : M.Path q symbols visited target) (first : P q) : P target := by
  induction path with
  | nil => exact first
  | cons _ found taken _ ih =>
    exact ih (step _ _ _ first (next?_eq_some_iff.mpr ⟨_,found,taken⟩))

/-- The symbols read so far lead to each state on the way. -/
theorem path_of_mem_visited (member : p ∈ (M.walk q position cs).value.visited) :
    ∃ symbols visited, M.Path q symbols visited p := by
  induction cs generalizing q position with
  | nil => exact ⟨[],[q],List.mem_singleton.mp member ▸ .nil⟩
  | cons c cs ih =>
    cases next : (symbolIndex? c M.alphabetSize).bind (M.next? q) with
    | none =>
      rw [walk_stop next] at member
      exact ⟨[],[q],List.mem_singleton.mp member ▸ .nil⟩
    | some target =>
      rw [walk_step next] at member
      rcases List.mem_cons.mp member with rfl | later
      · exact ⟨[],[p],.nil⟩
      · obtain ⟨symbols,visited,path⟩ := ih later
        obtain ⟨d,known,step⟩ := Option.bind_eq_some_iff.mp next
        exact ⟨c :: symbols,q :: visited,.of_next? (symbolIndex?_eq_some_iff.mp known).1 step path⟩

theorem reachable_of_mem_visitedOn (member : p ∈ M.visitedOn word) : M.Reachable p :=
  path_of_mem_visited (visitedOn_eq M word ▸ member)

/-- Evaluation depends on the visited part of an automaton only: if a second automaton over the same
alphabet shares each state that a word visits, then the word has the same trace and verdict there, or
is refused alike. So rows and finality of states that cannot be reached have no effect on any word. -/
theorem evaluate_eq_of_shares (alphabet : M.alphabetSize = N.alphabetSize) :
    (∀ word, (∀ q ∈ M.visitedOn word, M.Shares N q) → M.evaluate word = N.evaluate word) ∧
    ((∀ q, M.Reachable q → M.Shares N q) → ∀ word, M.evaluate word = N.evaluate word) := by
  have alike : ∀ word, (∀ q ∈ M.visitedOn word, M.Shares N q) →
      M.evaluate word = N.evaluate word :=
    fun word shared => congrArg Journaled.value (run_eq_of_shares alphabet shared)
  exact ⟨alike,fun shared word =>
    alike word fun q member => shared q (reachable_of_mem_visitedOn member)⟩

/-- A third state, final and on no way from the start, makes no difference to the automaton that tells
odd from even. -/
theorem evaluate_eq_of_shares_parity :
    let M := ofRows 2 [[⟨1⟩, .start], [.start, ⟨1⟩], [⟨2⟩, .start]] [⟨1⟩, ⟨2⟩]
    let N := ofRows 2 [[⟨1⟩, .start], [.start, ⟨1⟩]] [⟨1⟩]
    M.alphabetSize = N.alphabetSize ∧
      ((∀ q ∈ M.visitedOn "0x", M.Shares N q) ∧ M.evaluate "0x" = N.evaluate "0x") ∧
      (∀ q, M.Reachable q → M.Shares N q) ∧ M.evaluate "0110" = N.evaluate "0110" := by
  intro M N
  have shared : ∀ q, q = .start ∨ q = ⟨1⟩ → M.Shares N q := by
    rintro q (rfl | rfl) <;> exact ⟨_,_,rfl,rfl,rfl,rfl⟩
  have step : ∀ q d r, (q = .start ∨ q = ⟨1⟩) → M.next? q d = some r → r = .start ∨ r = ⟨1⟩ := by
    rintro q d r (rfl | rfl) taken <;> match d with
    | 0 => cases taken; decide
    | 1 => cases taken; decide
    | _ + 2 => contradiction
  have reachable : ∀ q, M.Reachable q → M.Shares N q := by
    rintro q ⟨symbols,visited,path⟩
    exact shared q (path.keeps step (.inl rfl))
  have visited : ∀ q ∈ M.visitedOn "0x", M.Shares N q :=
    fun q member => reachable q (reachable_of_mem_visitedOn member)
  have alike := evaluate_eq_of_shares (M := M) (N := N) rfl
  exact ⟨rfl,⟨visited,alike.1 "0x" visited⟩,reachable,alike.2 reachable "0110"⟩

end DigitAutomata.Automaton
