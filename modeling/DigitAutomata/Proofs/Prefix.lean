import DigitAutomata.Proofs.Walk

/-! Words that begin alike. The walk over the beginning of a word is the beginning of the walk over the
whole, whether that comes to the end of the word or not; and once a walk stops at a character, nothing
that follows the character is looked at. Both hold step by step, for any automaton and from any state. -/
namespace DigitAutomata.Automaton

variable {M : Automaton} {q target : StateId} {c : Char} {position : Nat} {front rest : List Char}
  {word : String}

/-- Without a fault each symbol adds a state to the one at the beginning. -/
theorem length_visited (clear : (M.walk q position front).value.fault = none) :
    (M.walk q position front).value.visited.length = front.length + 1 := by
  induction front generalizing q position with
  | nil => rfl
  | cons c front ih =>
    cases next : (symbolIndex? c M.alphabetSize).bind (M.next? q) with
    | none => simp [walk_stop next] at clear
    | some target =>
      rw [walk_step next] at clear ⊢
      rw [List.length_cons, ih clear, List.length_cons]

/-- A fault lies within the characters read, and the states before it are all visited. -/
theorem fault_bounds {place : Nat} (stuck : (M.walk q position front).value.fault = some (c, place)) :
    position ≤ place ∧ place < position + front.length ∧
      position + (M.walk q position front).value.visited.length = place + 1 := by
  induction front generalizing q position with
  | nil => contradiction
  | cons d front ih =>
    cases next : (symbolIndex? d M.alphabetSize).bind (M.next? q) with
    | none =>
      rw [walk_stop next] at stuck ⊢
      simp only [Option.some.injEq, Prod.mk.injEq] at stuck
      simp only [List.length_cons, List.length_nil]
      omega
    | some target =>
      rw [walk_step next] at stuck ⊢
      obtain ⟨after,inside,length⟩ := ih stuck
      simp only [List.length_cons]
      omega

theorem visited_isPrefix (M : Automaton) (q : StateId) (position : Nat) (front rest : List Char) :
    (M.walk q position front).value.visited <+:
      (M.walk q position (front ++ rest)).value.visited := by
  induction front generalizing q position with
  | nil =>
    cases rest with
    | nil => exact List.prefix_rfl
    | cons c rest =>
      cases next : (symbolIndex? c M.alphabetSize).bind (M.next? q) with
      | none => exact walk_stop next ▸ List.prefix_rfl
      | some target => exact walk_step next ▸ List.prefix_append [q] _
  | cons c front ih =>
    rw [List.cons_append]
    cases next : (symbolIndex? c M.alphabetSize).bind (M.next? q) with
    | none =>
      rw [walk_stop next]
      exact walk_stop next ▸ List.prefix_rfl
    | some target =>
      rw [walk_step next, walk_step next]
      exact (List.prefix_cons_inj q).mpr (ih target (position + 1))

/-- What follows a fault is not read. -/
theorem walk_append_of_fault {fault : Char × Nat}
    (stuck : (M.walk q position front).value.fault = some fault) (rest : List Char) :
    (M.walk q position (front ++ rest)).value = (M.walk q position front).value := by
  induction front generalizing q position with
  | nil => contradiction
  | cons c front ih =>
    rw [List.cons_append]
    cases next : (symbolIndex? c M.alphabetSize).bind (M.next? q) with
    | none => rw [walk_stop next, walk_stop next]
    | some target =>
      rw [walk_step next] at stuck
      rw [walk_step next, walk_step next, ih stuck]

/-- A fault in what follows lies there. -/
theorem fault_append_of_clear {place : Nat} (clear : (M.walk q position front).value.fault = none)
    (stuck : (M.walk q position (front ++ rest)).value.fault = some (c, place)) :
    position + front.length ≤ place := by
  induction front generalizing q position with
  | nil => exact (fault_bounds stuck).1
  | cons d front ih =>
    rw [List.cons_append] at stuck
    cases next : (symbolIndex? d M.alphabetSize).bind (M.next? q) with
    | none => simp [walk_stop next] at clear
    | some target =>
      rw [walk_step next] at clear stuck
      have later := ih clear stuck
      rw [List.length_cons]
      omega

/-- The beginning of a word that is read to its end is read to its end. -/
theorem clear_of_clear {u : List Char} (start : u <+: front)
    (clear : (M.walk q position front).value.fault = none) :
    (M.walk q position u).value.fault = none := by
  obtain ⟨rest,rfl⟩ := start
  cases found : (M.walk q position u).value.fault with
  | none => rfl
  | some fault =>
    rw [walk_append_of_fault found rest, found] at clear
    contradiction

/-- So is a beginning that does not reach beyond the place of a fault. -/
theorem clear_of_short {u : List Char} {place : Nat} (start : u <+: front)
    (stuck : (M.walk q position front).value.fault = some (c, place))
    (short : position + u.length ≤ place) : (M.walk q position u).value.fault = none := by
  obtain ⟨rest,rfl⟩ := start
  cases found : (M.walk q position u).value.fault with
  | none => rfl
  | some fault =>
    rw [walk_append_of_fault found rest] at stuck
    have inside := (fault_bounds stuck).2.1
    omega

/-- Words that agree up to a fault and the character there are walked alike. -/
theorem walk_alike {other : List Char} {place : Nat}
    (stuck : (M.walk q position front).value.fault = some (c, place))
    (alike : front.take (place + 1 - position) <+: other) :
    (M.walk q position other).value = (M.walk q position front).value := by
  obtain ⟨after,inside,_⟩ := fault_bounds stuck
  have cut := List.take_append_drop (place + 1 - position) front
  obtain ⟨rest,rfl⟩ := alike
  cases found : (M.walk q position (front.take (place + 1 - position))).value.fault with
  | none =>
    have beyond := fault_append_of_clear found (cut.symm ▸ stuck)
    rw [List.length_take] at beyond
    omega
  | some fault =>
    have whole := walk_append_of_fault found (front.drop (place + 1 - position))
    rw [cut] at whole
    rw [walk_append_of_fault found rest, whole]

/-- A beginning that is read to its end visits what the whole word visits first. -/
theorem evaluate_beginning {u : String} (start : u.toList <+: word.toList)
    (clear : (M.walk .start 0 u.toList).value.fault = none) :
    ∃ e, M.evaluate u = .ok e ∧ e.trace =
      ⟨u, (M.walk .start 0 word.toList).value.visited.take (u.length + 1)⟩ := by
  obtain ⟨rest,split⟩ := start
  have visited := List.prefix_iff_eq_take.mp (visited_isPrefix M .start 0 u.toList rest)
  rw [length_visited clear, String.length_toList, split] at visited
  exact ⟨_,evaluate_eq_ok_iff.mpr ⟨clear,rfl⟩,by rw [visited]⟩

/-- What a word and its beginnings come to. If the word is read to its end, so is each beginning, over
the same states; if it is refused, the beginnings up to the fault are read over the states visited before
it, and the ones beyond it are refused alike, as is every word that begins in the same way. -/
theorem evaluate_coherent (M : Automaton) (word : String) :
    (∀ e, M.evaluate word = .ok e → ∀ u : String, u.toList <+: word.toList →
      ∃ e', M.evaluate u = .ok e' ∧ e'.trace = ⟨u, e.trace.visited.take (u.length + 1)⟩) ∧
    ∀ e, M.evaluate word = .error e →
      (∀ u : String, u.toList <+: word.toList → u.length ≤ e.position →
        ∃ e', M.evaluate u = .ok e' ∧ e'.trace = ⟨u, e.visited.take (u.length + 1)⟩) ∧
      (∃ valid e', valid.toList = word.toList.take e.position ∧ valid.length = e.position ∧
        M.evaluate valid = .ok e' ∧ e'.trace = ⟨valid, e.visited⟩) ∧
      (∀ u : String, u.toList <+: word.toList → e.position < u.length → M.evaluate u = .error e) ∧
      ∀ other : String, word.toList.take (e.position + 1) <+: other.toList →
        M.evaluate other = .error e := by
  constructor
  · intro e read u start
    obtain ⟨clear,rfl⟩ := evaluate_eq_ok_iff.mp read
    exact evaluate_beginning start (clear_of_clear start clear)
  · intro e refused
    obtain ⟨symbol,place,stuck,rfl⟩ := evaluate_eq_error_iff.mp refused
    obtain ⟨_,inside,visited⟩ := fault_bounds stuck
    rw [Nat.zero_add] at inside visited
    have within : ∀ u : String, u.toList <+: word.toList → u.length ≤ place →
        ∃ e', M.evaluate u = .ok e' ∧ e'.trace =
          ⟨u, (M.walk .start 0 word.toList).value.visited.take (u.length + 1)⟩ := by
      intro u start short
      refine evaluate_beginning start (clear_of_short start stuck ?_)
      rwa [Nat.zero_add, String.length_toList]
    have alike : ∀ other : String, word.toList.take (place + 1) <+: other.toList →
        M.evaluate other = .error ⟨symbol, place, M.alphabetSize,
          (M.walk .start 0 word.toList).value.visited⟩ := by
      intro other start
      rw [evaluate_eq_error_iff, walk_alike stuck start]
      exact ⟨symbol,place,stuck,rfl⟩
    refine ⟨within,?_,?_,alike⟩
    · let valid := String.ofList (word.toList.take place)
      have start : valid.toList <+: word.toList := by
        simpa [valid] using List.take_prefix place word.toList
      have length : valid.length = place := by
        rw [String.length_ofList, List.length_take_of_le (Nat.le_of_lt inside)]
      obtain ⟨e',read,trace⟩ := within valid start (Nat.le_of_eq length)
      rw [length, List.take_of_length_le (Nat.le_of_eq visited)] at trace
      exact ⟨valid,e',String.toList_ofList,length,read,trace⟩
    · intro u start long
      apply alike
      apply List.prefix_of_prefix_length_le (List.take_prefix _ _) start
      rw [List.length_take_of_le inside, String.length_toList]
      exact long

/-- A word with a bad character in the middle, and one without, on the automaton that tells odd from
even. -/
theorem evaluate_coherent_parity :
    let M := ofRows 2 [[⟨1⟩, .start], [.start, ⟨1⟩]] [⟨1⟩]
    let e : WordError := ⟨'x', 2, 2, [.start, ⟨1⟩, .start]⟩
    M.evaluate "00x1" = .error e ∧
      (∃ e', M.evaluate "0" = .ok e' ∧ e'.trace = ⟨"0", [.start, ⟨1⟩]⟩) ∧
      M.evaluate "00x" = .error e ∧ M.evaluate "00x00" = .error e ∧
      ∃ e', M.evaluate "01" = .ok e' ∧ e'.trace = ⟨"01", [.start, ⟨1⟩, ⟨1⟩]⟩ := by
  intro M e
  have refused : M.evaluate "00x1" = .error e := by decide +kernel
  have read : M.evaluate "010" = .ok ⟨⟨"010", [.start, ⟨1⟩, ⟨1⟩, .start]⟩, .rejected⟩ := by
    decide +kernel
  obtain ⟨within,_,beyond,alike⟩ := (evaluate_coherent M "00x1").2 e refused
  exact ⟨refused,within "0" (by decide +kernel) (by decide),
    beyond "00x" (by decide +kernel) (by decide),alike "00x00" (by decide +kernel),
    (evaluate_coherent M "010").1 _ read "01" (by decide +kernel)⟩

end DigitAutomata.Automaton
