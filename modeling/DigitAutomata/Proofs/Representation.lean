import DigitAutomata.Proofs.Fault

/-! The representation invariant of the table reader. What a stage holds always fits the dimensions
that the header declared, so an automaton that is built from it has every row that was read, under
its letter. The invariant is kept by each way in which a line is taken, hence by every run. -/
namespace DigitAutomata

open Text (tokens solid)

/-- The first line that is not blank is a header with these dimensions. -/
def Declares (given : List String) (size : Dimensions) : Prop :=
  ∃ line rest, solid given = line :: rest ∧ size.IsHeader (tokens line)

/-- A well-formed automaton with exactly the declared symbols and states. -/
structure Automaton.Fills (M : Automaton) (size : Dimensions) : Prop where
  alphabet : M.alphabetSize = size.alphabetSize
  count : M.states.length = size.stateCount
  wellFormed : M.WellFormed

namespace Progress

/-- What a stage holds after a header with these dimensions. -/
def Holds (size : Dimensions) : Progress → Prop
  | start => False
  | inRows held rows => held = size ∧ size.Fits rows ∧ rows.length < size.stateCount
  | afterRows held rows _ => held = size ∧ size.Fits rows ∧ rows.length = size.stateCount
  | beforeFinals held rows _ => held = size ∧ size.Fits rows ∧ rows.length = size.stateCount
  | complete M => M.Fills size

/-- A stage stands for the lines that led to it: there was no header, or the stage fits it. -/
def Represents (given : List String) (p : Progress) : Prop :=
  (p = start ∧ solid given = []) ∨ ∃ size, Declares given size ∧ size.InRange ∧ p.Holds size

variable {size : Dimensions} {rows : List Row} {M : Automaton} {p last : Progress}
  {given : List String}

theorem holds_header (range : size.InRange) : (inRows size []).Holds size :=
  ⟨rfl,⟨by simp,by simp⟩,range.states.1⟩

theorem fits_snoc {words : List String} {row : Row} (fits : size.Fits rows)
    (isRow : size.IsRow words row) : size.Fits (rows ++ [row]) := by
  obtain ⟨width,names⟩ := isRow
  have length : row.length = size.alphabetSize := names.length_eq.symm.trans width
  have declared : ∀ q ∈ row, q.index < size.stateCount := by
    intro q member
    obtain ⟨i,h,rfl⟩ := List.mem_iff_getElem.mp member
    exact (names.get (by rw [names.length_eq]; exact h) h).2
  constructor
  · intro row' member
    rcases List.mem_append.mp member with before | last
    · exact fits.width row' before
    · exact List.mem_singleton.mp last ▸ length
  · intro row' member
    rcases List.mem_append.mp member with before | last
    · exact fits.closed row' before
    · exact List.mem_singleton.mp last ▸ declared

theorem fills_ofRows (range : size.InRange) (fits : size.Fits rows)
    (count : rows.length = size.stateCount) (finals : List StateId) :
    (Automaton.ofRows size.alphabetSize rows finals).Fills size := by
  have realizes := Automaton.realizes_ofRows finals count range.states.2
  exact ⟨rfl,realizes.count,realizes.wellFormed range fits⟩

/-- Every way of taking a line keeps the invariant; only a row changes what is held of the table. -/
theorem Step.holds (step : Step words p next) (range : size.InRange) (held : p.Holds size) :
    next.Holds size := by
  cases step with
  | blank => exact held
  | header => exact held.elim
  | row some letter isRow =>
    obtain ⟨rfl,fits,due⟩ := held
    have fits := fits_snoc fits isRow
    simp only [holding]
    split
    next full => exact ⟨rfl,fits,full⟩
    next inside =>
      refine ⟨rfl,fits,?_⟩
      simp only [List.length_append, List.length_singleton] at inside ⊢
      omega
  | surplus => exact held
  | count => exact held
  | finals =>
    obtain ⟨rfl,fits,count⟩ := held
    exact fills_ofRows range fits count _
  | ignored => exact held

theorem feed_holds (range : size.InRange) (held : p.Holds size) (fed : p.feed given = .ok last) :
    last.Holds size := by
  induction given generalizing p with
  | nil => exact Except.ok.inj fed ▸ held
  | cons line rest ih =>
    obtain ⟨next,step,fed⟩ := feed_cons fed
    exact ih ((advance_eq_ok_iff.mp step).holds range held) fed

theorem finish_fills (range : size.InRange) (held : p.Holds size) (done : p.finish = .ok M) :
    M.Fills size := by
  cases p with
  | start => contradiction
  | inRows => contradiction
  | afterRows =>
    simp only [finish] at done
    split at done <;> contradiction
  | beforeFinals held' rows declared =>
    obtain ⟨rfl,fits,count⟩ := held
    simp only [finish] at done
    split at done
    next => exact Except.ok.inj done ▸ fills_ofRows range fits count []
    next => contradiction
  | complete => exact Except.ok.inj done ▸ held

/-- Up to the header there are blank lines only; from there on the invariant is carried. -/
theorem feed_represents (fed : start.feed given = .ok last) : last.Represents given := by
  induction given with
  | nil => exact .inl ⟨(Except.ok.inj fed).symm,rfl⟩
  | cons line rest ih =>
    obtain ⟨next,step,fed⟩ := feed_cons fed
    by_cases blank : tokens line = []
    · rw [advance_blank start blank] at step
      have represents := ih (Except.ok.inj step ▸ fed)
      simpa only [Represents, Declares, Text.solid_blank blank] using represents
    · have step := advance_eq_ok_iff.mp step
      generalize words : tokens line = ws at step
      cases step with
      | blank => contradiction
      | header isHeader =>
        have range := isHeader.inRange
        refine .inr ⟨_,⟨line,solid rest,Text.solid_cons blank,words ▸ isHeader⟩,range,?_⟩
        exact feed_holds range (holds_header range) fed

/-- No row is lost on the way into the automaton, whether a list of final states ends the table or the
source does. -/
theorem completion_keeps_rows (range : size.InRange) {held : Dimensions} {declared : Nat}
    (holds : (beforeFinals held rows declared).Holds size)
    (completed : (∃ line, (beforeFinals held rows declared).advance line = .ok (complete M)) ∨
      (beforeFinals held rows declared).finish = .ok M) :
    M.states.map State.transitions = rows := by
  obtain ⟨rfl,_,count⟩ := holds
  rcases completed with ⟨line,step⟩ | done
  · have step := advance_eq_ok_iff.mp step
    generalize tokens line = words at step
    cases step with
    | finals => exact (Automaton.realizes_ofRows _ count range.states.2).transitions
  · simp only [finish] at done
    split at done
    next =>
      have built := Except.ok.inj done
      exact built ▸ (Automaton.realizes_ofRows [] count range.states.2).transitions
    next => contradiction

/-- A line after the header never runs out of letters: other rules can be broken, not this one. -/
theorem advance_ne_invalidStateCount (range : size.InRange) (held : p.Holds size) (line : String)
    (value : Int) : p.advance line ≠ .error (.invalidStateCount value) := by
  intro failed
  have fault := advance_eq_error_iff.mp failed
  generalize tokens line = words at fault
  cases fault with
  | header => exact held
  | row _ _ _ fault => cases fault
  | nameless _ _ beyond =>
    obtain ⟨rfl,_,due⟩ := held
    exact absurd (Nat.lt_of_lt_of_le due range.states.2) (Nat.not_lt.mpr beyond)
  | finals _ fault => cases fault

end Progress

namespace Automaton

/-- What a load from these lines has to be: their first line that is not blank is a header, and the
automaton has what it declares. -/
def IsLoaded (given : List String) (M : Automaton) : Prop :=
  ∃ size, Declares given size ∧ M.Fills size

theorem outcome_isLoaded (done : Progress.start.outcome given = .ok M) : IsLoaded given M := by
  obtain ⟨last,fed,finished⟩ := Progress.outcome_feed done
  rcases Progress.feed_represents fed with ⟨rfl,_⟩ | ⟨size,declares,range,held⟩
  · contradiction
  · exact ⟨size,declares,Progress.finish_fills range held finished⟩

theorem parse_isLoaded (loaded : parse source = .ok M) : IsLoaded (Text.lines source) M :=
  outcome_isLoaded (parse_eq_outcome source ▸ loaded)

theorem load_isLoaded (loaded : (load origin readings).value = .ok M) :
    IsLoaded (Reading.sound readings) M :=
  outcome_isLoaded (load_outcome loaded)

theorem ofFile_isLoaded (loaded : (ofFile files path).value = .ok M) :
    ∃ delivery, files.deliver path = .ok delivery ∧
      IsLoaded (Reading.sound (Reading.ofDelivery delivery)) M := by
  simp only [ofFile] at loaded
  cases delivered : files.deliver path with
  | error cause => simp [delivered] at loaded
  | ok delivery =>
    rw [Journaled.value_bind, delivered] at loaded
    exact ⟨delivery,rfl,load_isLoaded loaded⟩

end Automaton

open Progress Automaton

/-- The invariant holds of every stage that lines lead to. So no automaton is cut short, no row is read
without a letter, and whatever is loaded is well formed, from a text, from a device or from a file. -/
theorem reachable_represents :
    (∀ given p, start.feed given = .ok p → p.Represents given) ∧
    (∀ given size rows declared M, start.feed given = .ok (beforeFinals size rows declared) →
      (∃ line, (beforeFinals size rows declared).advance line = .ok (complete M)) ∨
        (beforeFinals size rows declared).finish = .ok M →
      M.states.map State.transitions = rows) ∧
    (∀ given size rows, start.feed given = .ok (inRows size rows) →
      ∃ q, StateId.ofIndex? rows.length = some q) ∧
    (∀ given p, start.feed given = .ok p → p ≠ start →
      ∀ line value, p.advance line ≠ .error (.invalidStateCount value)) ∧
    (∀ source M, parse source = .ok M → IsLoaded (Text.lines source) M) ∧
    (∀ readings M, (ofReadings readings).value = .ok M → IsLoaded (Reading.sound readings) M) ∧
    (∀ files path M, (ofFile files path).value = .ok M → ∃ delivery,
      files.deliver path = .ok delivery ∧
        IsLoaded (Reading.sound (Reading.ofDelivery delivery)) M) := by
  refine ⟨fun given p fed => feed_represents fed,?_,?_,?_,fun source M => parse_isLoaded,
    fun readings M => load_isLoaded,fun files path M => ofFile_isLoaded⟩
  · intro given size rows declared M fed completed
    rcases feed_represents fed with ⟨eq,_⟩ | ⟨size,_,range,held⟩
    · contradiction
    · exact completion_keeps_rows range held completed
  · intro given size rows fed
    rcases feed_represents fed with ⟨eq,_⟩ | ⟨size,_,range,held⟩
    · contradiction
    · have letter : rows.length < 26 := Nat.lt_of_lt_of_le held.2.2 range.states.2
      exact ⟨⟨⟨rows.length,letter⟩⟩,StateId.ofIndex?_eq_some_iff.mpr rfl⟩
  · intro given p fed started line value
    rcases feed_represents fed with ⟨eq,_⟩ | ⟨size,_,range,held⟩
    · contradiction
    · exact advance_ne_invalidStateCount range held line value

/-- The stage before the last line of a table, and the automaton that the table comes to. -/
theorem reachable_represents_parity :
    let given := ["2 2", "", "A B", "B A", "+1"]
    let rows : List Row := [[⟨0⟩, ⟨1⟩], [⟨1⟩, ⟨0⟩]]
    let p := beforeFinals ⟨2, 2⟩ rows 1
    let M := ofRows 2 rows [⟨1⟩]
    start.feed given = .ok p ∧ p.Represents given ∧
      p.advance " B" = .ok (complete M) ∧ M.states.map State.transitions = rows ∧
      parse "2 2\nA B\nB A\n1\nB" = .ok M ∧
      IsLoaded (Text.lines "2 2\nA B\nB A\n1\nB") M := by
  intro given rows p M
  have fed : start.feed given = .ok p := by decide +kernel
  have completed : p.advance " B" = .ok (complete M) := by decide +kernel
  have loaded : parse "2 2\nA B\nB A\n1\nB" = .ok M := by decide +kernel
  have invariant := reachable_represents
  exact ⟨fed,invariant.1 given p fed,completed,
    invariant.2.1 given ⟨2, 2⟩ rows 1 M fed (.inl ⟨" B",completed⟩),
    loaded,invariant.2.2.2.2.1 _ M loaded⟩

end DigitAutomata
