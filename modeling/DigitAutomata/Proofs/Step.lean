import DigitAutomata.Proofs.Construction
import DigitAutomata.Proofs.Numeral
import DigitAutomata.Proofs.Run
import Mathlib.Data.List.Forall2

/-! What one line can do. A line is judged by its words: as a header, as a row, as a number of final
states or as a list of them. `Step` has one case for each way in which a line is taken, and reading a
line succeeds exactly in these ways. -/
namespace DigitAutomata

open Text (Numeral Spells tokens)

namespace Dimensions

/-- Two integers, each with an optional sign, in range. -/
def IsHeader (size : Dimensions) (words : List String) : Prop :=
  ∃ first second, ∃ alphabet states : Numeral, words = [first, second] ∧
    Spells first alphabet ∧ Spells second states ∧
    alphabet.value = size.alphabetSize ∧ states.value = size.stateCount ∧ size.InRange

/-- The token is the letter of a declared state. -/
def Names (size : Dimensions) (token : String) (q : StateId) : Prop :=
  token = toString q ∧ q.index < size.stateCount

/-- A row names one destination for each symbol. -/
def IsRow (size : Dimensions) (words : List String) (row : Row) : Prop :=
  words.length = size.alphabetSize ∧ List.Forall₂ size.Names words row

end Dimensions

namespace StateId

theorem ofLetter?_eq_some_iff {c : Char} {q : StateId} : ofLetter? c = some q ↔ c = q.letter := by
  constructor
  · intro known
    simp only [ofLetter?] at known
    split at known
    next capital =>
      have index := ofIndex?_eq_some_iff.mp known
      apply Char.toNat_inj.mp
      rw [letter_toNat]
      omega
    next => contradiction
  · rintro rfl
    exact ofLetter?_letter q

theorem ofToken?_eq_some_iff {token : String} {q : StateId} :
    ofToken? token = some q ↔ token = toString q := by
  constructor
  · intro known
    simp only [ofToken?] at known
    split at known
    next c single =>
      have letter := ofLetter?_eq_some_iff.mp known
      apply String.toList_inj.mp
      simp [single, letter, toString]
    next => contradiction
  · rintro rfl
    exact ofToken?_toString q

/-- No letter is read as an integer. -/
theorem not_numeral (q : StateId) : Numeral.ofToken? (toString q) = none := by
  cases read : Numeral.ofToken? (toString q) with
  | none => rfl
  | some n =>
    have spells := Numeral.ofToken?_eq_some_iff.mp read
    have letter : q.letter ∈ (toString q).toList := by simp [toString]
    have early := spells.toNat_lt letter
    rw [letter_toNat] at early
    omega

end StateId

namespace Dimensions

variable {size : Dimensions} {words : List String} {token : String}

theorem resolve?_eq_some_iff {q : StateId} : size.resolve? token = some q ↔ size.Names token q := by
  simp only [resolve?, Option.filter_eq_some_iff, StateId.ofToken?_eq_some_iff, Names,
    decide_eq_true_eq]

theorem resolveAll_eq_ok_iff {site : Nat → Site} {i : Nat} {states : List StateId} :
    size.resolveAll site i words = .ok states ↔ List.Forall₂ size.Names words states := by
  induction words generalizing i states with
  | nil => simp [resolveAll, eq_comm]
  | cons token rest ih =>
    simp only [resolveAll]
    split
    next unknown =>
      simp only [reduceCtorEq, false_iff]
      rintro (_ | ⟨names,_⟩)
      rw [resolve?_eq_some_iff.mpr names] at unknown
      contradiction
    next q known =>
      have names := resolve?_eq_some_iff.mp known
      constructor
      · intro read
        cases others : size.resolveAll site (i + 1) rest with
        | error e => simp [others, Except.map] at read
        | ok found =>
          rw [others] at read
          exact Except.ok.inj read ▸ .cons names (ih.mp others)
      · rintro (_ | ⟨same,others⟩)
        have eq := Option.some.inj (known.symm.trans (resolve?_eq_some_iff.mpr same))
        simp [ih.mpr others, Except.map, eq]

/-- A failure names the first token that is not the letter of a declared state. -/
theorem resolveAll_eq_error {site : Nat → Site} {i : Nat} {e : TableError}
    (failed : size.resolveAll site i words = .error e) :
    ∃ front token rest states, words = front ++ token :: rest ∧
      List.Forall₂ size.Names front states ∧ (∀ q, ¬size.Names token q) ∧
      e = .unknownState token (site (i + front.length)) := by
  induction words generalizing i with
  | nil => simp [resolveAll] at failed
  | cons token rest ih =>
    simp only [resolveAll] at failed
    split at failed
    next unknown =>
      refine ⟨[],token,rest,[],rfl,.nil,?_,(Except.error.inj failed).symm⟩
      intro q names
      rw [resolve?_eq_some_iff.mpr names] at unknown
      contradiction
    next q known =>
      cases others : size.resolveAll site (i + 1) rest with
      | ok states => simp [others, Except.map] at failed
      | error e' =>
        have same : e' = e := by simpa [others, Except.map] using failed
        subst same
        obtain ⟨front,bad,rest,states,split,named,unnamed,eq⟩ := ih others
        refine ⟨token :: front,bad,rest,q :: states,?_,?_,unnamed,?_⟩
        · rw [split, List.cons_append]
        · exact .cons (resolve?_eq_some_iff.mp known) named
        · rw [eq, List.length_cons, Nat.add_assoc, Nat.add_comm 1]

theorem readRow_eq_ok_iff {index : Nat} {row : Row} (letter : index < 26) :
    size.readRow index words = .ok row ↔ size.IsRow words row := by
  simp only [readRow, StateId.ofIndex?, dif_pos letter, IsRow]
  split
  next narrow => simp [narrow]
  next wide => simp [resolveAll_eq_ok_iff, not_not.mp wide]

theorem readFinals_eq_ok_iff {declared : Nat} {finals : List StateId} :
    size.readFinals declared words = .ok finals ↔
      words.length = declared ∧ List.Forall₂ size.Names words finals := by
  simp only [readFinals]
  split
  next other => simp [other]
  next same => simp [resolveAll_eq_ok_iff, not_not.mp same]

theorem InRange.small (range : size.InRange) :
    size.alphabetSize + 1 < Text.halfCount ∧ size.stateCount + 1 < Text.halfCount := by
  have := range.alphabet
  have := range.states
  unfold Text.halfCount maxStates at *
  omega

theorem IsHeader.words_ne_nil (isHeader : size.IsHeader words) : words ≠ [] := by
  obtain ⟨first,second,_,_,rfl,_⟩ := isHeader
  simp

theorem IsHeader.inRange (isHeader : size.IsHeader words) : size.InRange := by
  obtain ⟨_,_,_,_,_,_,_,_,_,range⟩ := isHeader
  exact range

/-- The two words are judged one after the other, but a header needs both to be in range. -/
theorem ofTokens_eq_ok_iff {line : String} :
    ofTokens line words = .ok size ↔ size.IsHeader words := by
  constructor
  · intro read
    simp only [ofTokens] at read
    split at read
    next first second =>
      split at read
      next alphabet states spelled spelled' =>
        simp only [bind, bind_eq_ok_iff, Except.ok.injEq] at read
        obtain ⟨symbols,a,count,n,rfl⟩ := read
        obtain ⟨clamped,aRange⟩ := Automaton.checkSize_eq_ok_iff.mp a
        obtain ⟨clamped',nRange⟩ := Automaton.checkSize_eq_ok_iff.mp n
        have range : InRange ⟨symbols,count⟩ := ⟨aRange,nRange⟩
        refine ⟨first,second,alphabet,states,rfl,?_,?_,?_,?_,range⟩
        · exact Numeral.ofToken?_eq_some_iff.mp spelled
        · exact Numeral.ofToken?_eq_some_iff.mp spelled'
        · exact (Text.clampSigned_eq_iff range.small.1).mp clamped
        · exact (Text.clampSigned_eq_iff range.small.2).mp clamped'
      next => contradiction
    next => contradiction
  · rintro ⟨first,second,alphabet,states,rfl,spelled,spelled',value,value',range⟩
    have a : Automaton.checkAlphabetSize (Text.clampSigned alphabet.value) =
        .ok size.alphabetSize := by
      apply Automaton.checkSize_eq_ok_iff.mpr
      exact ⟨(Text.clampSigned_eq_iff range.small.1).mpr value,range.alphabet⟩
    have n : Automaton.checkStateCount (Text.clampSigned states.value) = .ok size.stateCount := by
      apply Automaton.checkSize_eq_ok_iff.mpr
      exact ⟨(Text.clampSigned_eq_iff range.small.2).mpr value',range.states⟩
    simp [ofTokens, Numeral.ofToken?_eq_some_iff.mpr spelled,
      Numeral.ofToken?_eq_some_iff.mpr spelled', a, n, bind, Except.bind]

/-- The words of a header are read in one way only. -/
theorem IsHeader.unique {other : Dimensions} (left : size.IsHeader words)
    (right : other.IsHeader words) : size = other := by
  have read : ofTokens "" words = .ok size := ofTokens_eq_ok_iff.mpr left
  exact Except.ok.inj (read.symm.trans (ofTokens_eq_ok_iff.mpr right))

end Dimensions

namespace Count

theorem ofTokens?_eq_value_iff {words : List String} {k : Nat} :
    ofTokens? words = some (.value k) ↔ ∃ token n, words = [token] ∧ Spells token n ∧
      n.sign ≠ .minus ∧ n.magnitude < Text.wordCount ∧ n.magnitude = k := by
  constructor
  · intro read
    simp only [ofTokens?] at read
    split at read
    next token =>
      obtain ⟨n,spelled,count⟩ := Option.map_eq_some_iff.mp read
      simp only [ofNumeral] at count
      split at count
      next => contradiction
      next sound =>
        simp only [not_or, Nat.not_le] at sound
        exact ⟨token,n,rfl,Numeral.ofToken?_eq_some_iff.mp spelled,sound.1,sound.2,
          Count.value.inj count⟩
    next => contradiction
  · rintro ⟨token,n,rfl,spells,unsigned,small,rfl⟩
    simp [ofTokens?, Numeral.ofToken?_eq_some_iff.mpr spells, ofNumeral, unsigned, small]

/-- A row is never taken for the number of final states, also if it has one symbol only. -/
theorem ofTokens?_row {size : Dimensions} {words : List String} {row : Row}
    (isRow : size.IsRow words row) : ofTokens? words = none := by
  simp only [ofTokens?]
  split
  next token =>
    obtain ⟨_,_ | ⟨names,_⟩⟩ := isRow
    simp [names.1, StateId.not_numeral]
  next => rfl

end Count

namespace Progress

/-- The stage with these rows: the last one declared ends the rows. -/
def holding (size : Dimensions) (rows : List Row) : Progress :=
  if rows.length = size.stateCount then afterRows size rows 0 else inRows size rows

/-- The ways in which a line with these words is taken, from one stage to the next. -/
inductive Step : List String → Progress → Progress → Prop where
  | blank : Step [] p p
  | header : size.IsHeader words → Step words start (inRows size [])
  | row : words ≠ [] → rows.length < maxStates → size.IsRow words row →
      Step words (inRows size rows) (holding size (rows ++ [row]))
  | surplus : words ≠ [] → Count.ofTokens? words = none →
      Step words (afterRows size rows surplus) (afterRows size rows (surplus + 1))
  | count : Count.ofTokens? words = some (.value declared) →
      Step words (afterRows size rows 0) (beforeFinals size rows declared)
  | finals : words ≠ [] → words.length = declared → List.Forall₂ size.Names words finals →
      Step words (beforeFinals size rows declared) (complete (.ofRows size.alphabetSize rows finals))
  | ignored : Step words (complete M) (complete M)

variable {p next : Progress} {line : String} {words : List String}

theorem take_start (taken : start.take line words = .ok next) : Step words start next := by
  simp only [take, bind, bind_eq_ok_iff, Except.ok.injEq] at taken
  obtain ⟨size,read,rfl⟩ := taken
  exact .header (Dimensions.ofTokens_eq_ok_iff.mp read)

theorem take_inRows (some : words ≠ []) {size : Dimensions} {rows : List Row}
    (taken : (inRows size rows).take line words = .ok next) : Step words (inRows size rows) next := by
  simp only [take] at taken
  split at taken
  next => contradiction
  next =>
    simp only [bind, bind_eq_ok_iff] at taken
    obtain ⟨row,read,taken⟩ := taken
    have letter : rows.length < 26 := by
      by_contra beyond
      simp [Dimensions.readRow, StateId.ofIndex?, beyond] at read
    have step := Step.row some letter ((Dimensions.readRow_eq_ok_iff letter).mp read)
    have held : holding size (rows ++ [row]) = next := by
      simp only [holding, List.length_append, List.length_singleton]
      split at taken <;> simp_all
    exact held ▸ step

theorem take_afterRows (some : words ≠ []) {size : Dimensions} {rows : List Row} {surplus : Nat}
    (taken : (afterRows size rows surplus).take line words = .ok next) :
    Step words (afterRows size rows surplus) next := by
  simp only [take] at taken
  split at taken
  next none => exact Except.ok.inj taken ▸ .surplus some none
  next count known =>
    split at taken
    next => contradiction
    next exact =>
      have zero : surplus = 0 := by omega
      subst zero
      split at taken
      next => contradiction
      next declared => exact Except.ok.inj taken ▸ .count known

theorem take_beforeFinals (some : words ≠ []) {size : Dimensions} {rows : List Row}
    {declared : Nat} (taken : (beforeFinals size rows declared).take line words = .ok next) :
    Step words (beforeFinals size rows declared) next := by
  simp only [take, bind, bind_eq_ok_iff, Except.ok.injEq] at taken
  obtain ⟨finals,read,rfl⟩ := taken
  obtain ⟨length,names⟩ := Dimensions.readFinals_eq_ok_iff.mp read
  exact .finals some length names

/-- Reading a line succeeds exactly as `Step` says. -/
theorem advance_eq_ok_iff : p.advance line = .ok next ↔ Step (tokens line) p next := by
  constructor
  · intro taken
    by_cases some : tokens line = []
    · rw [advance_blank p some] at taken
      exact some ▸ Except.ok.inj taken ▸ .blank
    · rw [advance_solid p some] at taken
      cases p with
      | start => exact take_start taken
      | inRows size rows => exact take_inRows some taken
      | afterRows size rows surplus => exact take_afterRows some taken
      | beforeFinals size rows declared => exact take_beforeFinals some taken
      | complete M => exact Except.ok.inj taken ▸ .ignored
  · intro step
    generalize words : tokens line = given at step
    cases step with
    | blank => exact advance_blank p words
    | header isHeader =>
      rw [advance_solid start (words ▸ isHeader.words_ne_nil), words]
      simp [take, Dimensions.ofTokens_eq_ok_iff.mpr isHeader, bind, Except.bind]
    | row some letter isRow =>
      rw [advance_solid _ (words ▸ some), words]
      simp only [take, Count.ofTokens?_row isRow, (Dimensions.readRow_eq_ok_iff letter).mpr isRow,
        bind, Except.bind, holding, List.length_append, List.length_singleton]
      split <;> rfl
    | surplus some none =>
      rw [advance_solid _ (words ▸ some), words]
      simp [take, none]
    | count known =>
      have some : given ≠ [] := by rintro rfl; simp [Count.ofTokens?] at known
      rw [advance_solid _ (words ▸ some), words]
      simp [take, known]
    | finals some length names =>
      rw [advance_solid _ (words ▸ some), words]
      simp [take, Dimensions.readFinals_eq_ok_iff.mpr ⟨length,names⟩, bind, Except.bind]
    | ignored => exact advance_complete _ line

end Progress

end DigitAutomata
