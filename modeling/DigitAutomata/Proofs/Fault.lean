import DigitAutomata.Proofs.Step

/-! How a line can break a rule. `Fault` stands beside `Step`: it has one case for each way in which a
line is refused, with the error that names the rule, and reading a line fails exactly in these ways. A
row is judged by its width before its destinations and a list of final states by its length before its
names; of several unknown names the first one is reported. -/
namespace DigitAutomata

open Text (Numeral Spells tokens trim)

/-- The item stands at this place and breaks a rule that every item before it meets. -/
structure FirstFailure (rule : α → Prop) (items : List α) (place : Nat) (item : α) : Prop where
  here : items[place]? = some item
  fails : ¬rule item
  before : ∀ earlier ∈ items.take place, rule earlier

namespace FirstFailure

variable {α : Type} {rule : α → Prop} {items : List α} {item other : α} {i j : Nat}

instance [DecidableEq α] [DecidablePred rule] : Decidable (FirstFailure rule items i item) :=
  decidable_of_iff (items[i]? = some item ∧ ¬rule item ∧ ∀ earlier ∈ items.take i, rule earlier)
    ⟨fun all => ⟨all.1,all.2.1,all.2.2⟩,fun first => ⟨first.here,first.fails,first.before⟩⟩

theorem mem (first : FirstFailure rule items i item) : item ∈ items :=
  List.mem_of_getElem? first.here

theorem of_append {front rest : List α} (before : ∀ earlier ∈ front, rule earlier)
    (fails : ¬rule item) : FirstFailure rule (front ++ item :: rest) front.length item :=
  ⟨by simp,fails,by simpa using before⟩

theorem le (first : FirstFailure rule items i item) (here : items[j]? = some other)
    (fails : ¬rule other) : i ≤ j := by
  by_contra earlier
  have taken : (items.take i)[j]? = some other := by
    rw [List.getElem?_take_of_lt (by omega)]
    exact here
  exact fails (first.before other (List.mem_of_getElem? taken))

theorem unique (first : FirstFailure rule items i item) (second : FirstFailure rule items j other) :
    i = j ∧ item = other := by
  obtain rfl : i = j :=
    Nat.le_antisymm (first.le second.here second.fails) (second.le first.here first.fails)
  exact ⟨rfl,Option.some.inj (first.here.symm.trans second.here)⟩

theorem split (first : FirstFailure rule items i item) :
    items = items.take i ++ item :: items.drop (i + 1) := by
  obtain ⟨inside,rfl⟩ := List.getElem?_eq_some_iff.mp first.here
  rw [List.getElem_cons_drop, List.take_append_drop]

theorem take_iff {n : Nat} :
    FirstFailure rule (items.take n) i item ↔ i < n ∧ FirstFailure rule items i item := by
  constructor
  · rintro ⟨here,fails,before⟩
    obtain ⟨inside,_⟩ := List.getElem?_eq_some_iff.mp here
    rw [List.length_take] at inside
    have due : i < n := by omega
    rw [List.getElem?_take_of_lt due] at here
    rw [List.take_take, Nat.min_eq_left (Nat.le_of_lt due)] at before
    exact ⟨due,here,fails,before⟩
  · rintro ⟨due,here,fails,before⟩
    refine ⟨?_,fails,?_⟩
    · rw [List.getElem?_take_of_lt due, here]
    · rwa [List.take_take, Nat.min_eq_left (Nat.le_of_lt due)]

theorem exists_iff :
    (∃ place item, FirstFailure rule items place item) ↔ ∃ item ∈ items, ¬rule item := by
  constructor
  · rintro ⟨place,item,first⟩
    exact ⟨item,first.mem,first.fails⟩
  · rintro ⟨item,member,fails⟩
    induction items with
    | nil => contradiction
    | cons head rest ih =>
      by_cases met : rule head
      · rcases List.mem_cons.mp member with rfl | later
        · contradiction
        · obtain ⟨place,item,here,fails,before⟩ := ih later
          exact ⟨place + 1,item,by simpa using here,fails,by simpa [met] using before⟩
      · exact ⟨0,head,rfl,met,by simp⟩

end FirstFailure

theorem exists_forall₂_iff {α β : Type} {R : α → β → Prop} {items : List α} :
    (∃ values, List.Forall₂ R items values) ↔ ∀ item ∈ items, ∃ value, R item value := by
  induction items with
  | nil => simp
  | cons item rest ih =>
    rw [List.forall_mem_cons, ← ih]
    constructor
    · rintro ⟨_,_ | ⟨first,others⟩⟩
      exact ⟨⟨_,first⟩,_,others⟩
    · rintro ⟨⟨value,first⟩,values,others⟩
      exact ⟨value :: values,.cons first others⟩

/-- The line is one integer, with or without a sign. -/
def IsInteger (words : List String) : Prop := ∃ token n, words = [token] ∧ Spells token n

theorem IsInteger.words_ne_nil {words : List String} (integer : IsInteger words) : words ≠ [] := by
  obtain ⟨token,n,rfl,_⟩ := integer
  exact List.cons_ne_nil token []

namespace Count

theorem exists_ofTokens?_iff {words : List String} :
    (∃ count, ofTokens? words = some count) ↔ IsInteger words := by
  constructor
  · rintro ⟨count,known⟩
    simp only [ofTokens?] at known
    split at known
    next token =>
      obtain ⟨n,spelled,_⟩ := Option.map_eq_some_iff.mp known
      exact ⟨token,n,rfl,Numeral.ofToken?_eq_some_iff.mp spelled⟩
    next => contradiction
  · rintro ⟨token,n,rfl,spells⟩
    exact ⟨ofNumeral n,by rw [ofTokens?, Numeral.ofToken?_eq_some_iff.mpr spells, Option.map_some]⟩

theorem ofTokens?_eq_none_iff {words : List String} :
    ofTokens? words = none ↔ ¬IsInteger words := by
  rw [← exists_ofTokens?_iff, ← Option.ne_none_iff_exists', not_not]

end Count

instance : DecidablePred IsInteger := fun words =>
  decidable_of_iff ((Count.ofTokens? words).isSome = true)
    (Option.isSome_iff_exists.trans Count.exists_ofTokens?_iff)

namespace Dimensions

/-- The token is the letter of some declared state. -/
def Knows (size : Dimensions) (token : String) : Prop := ∃ q, size.Names token q

/-- The line is a row, whatever its destinations are. -/
def HasRow (size : Dimensions) (words : List String) : Prop := ∃ row, size.IsRow words row

/-- The words are two integers. -/
def IsPair (words : List String) (a n : Numeral) : Prop :=
  ∃ first second, words = [first, second] ∧ Spells first a ∧ Spells second n

/-- What is wrong with a first line: it is not two integers, or one of them is out of range. -/
inductive HeaderFault (line : String) (words : List String) : TableError → Prop where
  | malformed : (¬∃ a n, IsPair words a n) → HeaderFault line words (.malformedHeader (trim line))
  | alphabet : IsPair words a n →
      ¬(1 ≤ Text.clampSigned a.value ∧ Text.clampSigned a.value ≤ 10) →
      HeaderFault line words (.invalidAlphabetSize (Text.clampSigned a.value))
  | states : IsPair words a n →
      1 ≤ Text.clampSigned a.value ∧ Text.clampSigned a.value ≤ 10 →
      ¬(1 ≤ Text.clampSigned n.value ∧ Text.clampSigned n.value ≤ maxStates) →
      HeaderFault line words (.invalidStateCount (Text.clampSigned n.value))

/-- What is wrong with a line as the row of a state. -/
inductive RowFault (size : Dimensions) (source : StateId) (words : List String) :
    TableError → Prop where
  | width : words.length ≠ size.alphabetSize →
      size.RowFault source words (.rowWidth source words.length size.alphabetSize)
  | unknown : words.length = size.alphabetSize → FirstFailure size.Knows words symbol token →
      size.RowFault source words (.unknownState token (.transition source symbol))

/-- What is wrong with a line as the list of final states. -/
inductive FinalsFault (size : Dimensions) (declared : Nat) (words : List String) :
    TableError → Prop where
  | length : words.length ≠ declared →
      size.FinalsFault declared words (.finalCountMismatch declared words.length)
  | unknown : words.length = declared → FirstFailure size.Knows words place token →
      size.FinalsFault declared words (.unknownState token .finalList)

variable {size : Dimensions} {words : List String}

theorem exists_names_iff :
    (∃ states, List.Forall₂ size.Names words states) ↔ ∀ token ∈ words, size.Knows token :=
  exists_forall₂_iff

theorem exists_rows_iff {rowLines : List (List String)} :
    (∃ rows, List.Forall₂ size.IsRow rowLines rows) ↔ ∀ words ∈ rowLines, size.HasRow words :=
  exists_forall₂_iff

theorem hasRow_iff :
    size.HasRow words ↔ words.length = size.alphabetSize ∧ ∀ token ∈ words, size.Knows token := by
  rw [← exists_names_iff]
  exact exists_and_left

instance : DecidablePred size.Knows := fun token =>
  decidable_of_iff ((size.resolve? token).isSome = true)
    (Option.isSome_iff_exists.trans (exists_congr fun _ => resolve?_eq_some_iff))

instance : DecidablePred size.HasRow := fun _ => decidable_of_iff _ hasRow_iff.symm

theorem HasRow.not_isInteger (hasRow : size.HasRow words) : ¬IsInteger words := by
  obtain ⟨row,isRow⟩ := hasRow
  exact Count.ofTokens?_eq_none_iff.mp (Count.ofTokens?_row isRow)

/-- Tokens are resolved one after the other, so the first unknown one ends it. -/
theorem resolveAll_eq_error_iff {site : Nat → Site} {i : Nat} {e : TableError} :
    size.resolveAll site i words = .error e ↔ ∃ place token,
      FirstFailure size.Knows words place token ∧ e = .unknownState token (site (i + place)) := by
  have located : ∀ e, size.resolveAll site i words = .error e → ∃ place token,
      FirstFailure size.Knows words place token ∧ e = .unknownState token (site (i + place)) := by
    intro e failed
    obtain ⟨front,token,rest,states,rfl,named,unnamed,eq⟩ := resolveAll_eq_error failed
    have unknown : ¬size.Knows token := fun ⟨q,names⟩ => unnamed q names
    exact ⟨front.length,token,.of_append (exists_names_iff.mp ⟨states,named⟩) unknown,eq⟩
  constructor
  · exact located e
  · rintro ⟨place,token,first,rfl⟩
    cases read : size.resolveAll site i words with
    | ok states =>
      have known := exists_names_iff.mp ⟨states,resolveAll_eq_ok_iff.mp read⟩
      exact absurd (known token first.mem) first.fails
    | error e' =>
      obtain ⟨place',token',first',rfl⟩ := located e' read
      obtain ⟨rfl,rfl⟩ := first.unique first'
      rfl

theorem readRow_eq_error_iff {index : Nat} {e : TableError} (letter : index < 26) :
    size.readRow index words = .error e ↔ size.RowFault ⟨⟨index, letter⟩⟩ words e := by
  simp only [readRow, StateId.ofIndex?, dif_pos letter]
  split
  next narrow =>
    constructor
    · intro failed
      exact Except.error.inj failed ▸ .width narrow
    · rintro (_ | ⟨wide,_⟩)
      · rfl
      · contradiction
  next wide =>
    have wide := not_not.mp wide
    rw [resolveAll_eq_error_iff]
    simp only [Nat.zero_add]
    constructor
    · rintro ⟨symbol,token,first,rfl⟩
      exact .unknown wide first
    · rintro (narrow | ⟨_,first⟩)
      · contradiction
      · exact ⟨_,_,first,rfl⟩

theorem readFinals_eq_error_iff {declared : Nat} {e : TableError} :
    size.readFinals declared words = .error e ↔ size.FinalsFault declared words e := by
  simp only [readFinals]
  split
  next other =>
    constructor
    · intro failed
      exact Except.error.inj failed ▸ .length other
    · rintro (_ | ⟨same,_⟩)
      · rfl
      · contradiction
  next same =>
    have same := not_not.mp same
    rw [resolveAll_eq_error_iff]
    constructor
    · rintro ⟨place,token,first,rfl⟩
      exact .unknown same first
    · rintro (other | ⟨_,first⟩)
      · contradiction
      · exact ⟨_,_,first,rfl⟩

theorem finalsFault_length_iff {declared : Nat} : size.FinalsFault declared words
    (.finalCountMismatch declared words.length) ↔ words.length ≠ declared := by
  constructor
  · rintro (other | _)
    exact other
  · exact .length

theorem finalsFault_unknown_iff {token : String} : size.FinalsFault declared words
    (.unknownState token .finalList) ↔
      words.length = declared ∧ ∃ place, FirstFailure size.Knows words place token := by
  constructor
  · rintro (_ | ⟨same,first⟩)
    exact ⟨same,_,first⟩
  · rintro ⟨same,place,first⟩
    exact .unknown same first

/-- Exactly a line that is no row has a fault. -/
theorem exists_rowFault_iff (source : StateId) :
    (∃ e, size.RowFault source words e) ↔ ¬size.HasRow words := by
  rw [hasRow_iff]
  constructor
  · rintro ⟨_,width | ⟨_,first⟩⟩ ⟨wide,known⟩
    · contradiction
    · exact first.fails (known _ first.mem)
  · intro faulty
    by_cases wide : words.length = size.alphabetSize
    · have unknown : ∃ token ∈ words, ¬size.Knows token := by
        by_contra all
        exact faulty ⟨wide,by simpa using all⟩
      obtain ⟨symbol,token,first⟩ := FirstFailure.exists_iff.mpr unknown
      exact ⟨_,.unknown wide first⟩
    · exact ⟨_,.width wide⟩

theorem IsPair.ofTokens {a n : Numeral} (pair : IsPair words a n) (line : String) :
    ofTokens line words = (Automaton.checkAlphabetSize (Text.clampSigned a.value)).bind fun symbols =>
      (Automaton.checkStateCount (Text.clampSigned n.value)).bind fun count =>
        .ok ⟨symbols, count⟩ := by
  obtain ⟨first,second,rfl,spells,spells'⟩ := pair
  simp only [Dimensions.ofTokens, Numeral.ofToken?_eq_some_iff.mpr spells,
    Numeral.ofToken?_eq_some_iff.mpr spells', bind]

theorem ofTokens_malformed (other : ¬∃ a n, IsPair words a n) (line : String) :
    ofTokens line words = .error (.malformedHeader (trim line)) := by
  simp only [ofTokens]
  split
  next first second =>
    split
    next a n spelled spelled' =>
      exact absurd ⟨a,n,first,second,rfl,Numeral.ofToken?_eq_some_iff.mp spelled,
        Numeral.ofToken?_eq_some_iff.mp spelled'⟩ other
    next => rfl
  next => rfl

/-- Both words must be integers before a value is judged, and the alphabet size is judged first. -/
theorem ofTokens_eq_error_iff {line : String} {e : TableError} :
    ofTokens line words = .error e ↔ HeaderFault line words e := by
  constructor
  · intro failed
    by_cases integers : ∃ a n, IsPair words a n
    · obtain ⟨a,n,pair⟩ := integers
      simp only [pair.ofTokens, bind_eq_error_iff, reduceCtorEq, and_false, exists_false,
        or_false] at failed
      rcases failed with out | ⟨symbols,inside,out⟩
      · obtain ⟨beyond,rfl⟩ := Automaton.checkSize_eq_error_iff.mp out
        exact .alphabet pair beyond
      · obtain ⟨beyond,rfl⟩ := Automaton.checkSize_eq_error_iff.mp out
        obtain ⟨eq,range⟩ := Automaton.checkSize_eq_ok_iff.mp inside
        exact .states pair (by omega) beyond
    · rw [ofTokens_malformed integers] at failed
      exact Except.error.inj failed ▸ .malformed integers
  · intro fault
    cases fault with
    | malformed other => exact ofTokens_malformed other line
    | @alphabet a n pair beyond =>
      have refused : Automaton.checkAlphabetSize (Text.clampSigned a.value) = .error _ :=
        Automaton.checkSize_eq_error_iff.mpr ⟨beyond,rfl⟩
      rw [pair.ofTokens, refused]
      rfl
    | @states a n pair range beyond =>
      have inside : Automaton.checkAlphabetSize (Text.clampSigned a.value) =
          .ok (Text.clampSigned a.value).toNat :=
        Automaton.checkSize_eq_ok_iff.mpr (by omega)
      have refused : Automaton.checkStateCount (Text.clampSigned n.value) = .error _ :=
        Automaton.checkSize_eq_error_iff.mpr ⟨beyond,rfl⟩
      rw [pair.ofTokens, inside, Except.bind, refused]
      rfl

end Dimensions

namespace Progress

/-- The ways in which a line with these words is refused at a stage. -/
inductive Fault (line : String) : List String → Progress → TableError → Prop where
  | header : words ≠ [] → Dimensions.HeaderFault line words e → Fault line words start e
  | early : IsInteger words →
      Fault line words (inRows size rows) (.stateCountMismatch rows.length size.stateCount)
  | row {source : StateId} : words ≠ [] → ¬IsInteger words → source.index.val = rows.length →
      size.RowFault source words e → Fault line words (inRows size rows) e
  | nameless : words ≠ [] → ¬IsInteger words → maxStates ≤ rows.length →
      Fault line words (inRows size rows) (.invalidStateCount (Text.clampSigned size.stateCount))
  | surplus : 0 < surplus → IsInteger words → Fault line words (afterRows size rows surplus)
      (.stateCountMismatch (size.stateCount + surplus) size.stateCount)
  | count : Count.ofTokens? [token] = some .outOfRange →
      Fault line [token] (afterRows size rows 0) (.invalidFinalCount token)
  | finals : words ≠ [] → size.FinalsFault declared words e →
      Fault line words (beforeFinals size rows declared) e

variable {size : Dimensions} {rows : List Row} {p : Progress} {line : String} {words : List String}
  {e : TableError}

theorem Fault.words_ne_nil (fault : Fault line words p e) : words ≠ [] := by
  cases fault with
  | header some => exact some
  | early integer => exact integer.words_ne_nil
  | row some => exact some
  | nameless some => exact some
  | surplus _ integer => exact integer.words_ne_nil
  | count => exact List.cons_ne_nil _ _
  | finals some => exact some

theorem take_inRows_eq_error_iff (some : words ≠ []) :
    (inRows size rows).take line words = .error e ↔ Fault line words (inRows size rows) e := by
  cases known : Count.ofTokens? words with
  | some count =>
    have integer := Count.exists_ofTokens?_iff.mp ⟨count,known⟩
    simp only [take, known, Except.error.injEq]
    constructor
    · rintro rfl
      exact .early integer
    · intro fault
      cases fault with
      | early => rfl
      | row _ other => contradiction
      | nameless _ other => contradiction
  | none =>
    have other := Count.ofTokens?_eq_none_iff.mp known
    have read : (inRows size rows).take line words = .error e ↔
        size.readRow rows.length words = .error e := by
      simp only [take, known, bind, bind_eq_error_iff, or_iff_left_iff_imp]
      rintro ⟨row,_,taken⟩
      split at taken <;> contradiction
    rw [read]
    by_cases letter : rows.length < 26
    · rw [Dimensions.readRow_eq_error_iff letter]
      constructor
      · intro fault
        exact .row some other rfl fault
      · intro fault
        cases fault with
        | early integer => contradiction
        | row _ _ place fault =>
          exact (StateId.ext_index place : _ = ⟨⟨rows.length, letter⟩⟩) ▸ fault
        | nameless _ _ beyond => exact absurd letter (Nat.not_lt.mpr beyond)
    · simp only [Dimensions.readRow, StateId.ofIndex?, dif_neg letter, Except.error.injEq]
      constructor
      · rintro rfl
        exact .nameless some other (Nat.not_lt.mp letter)
      · intro fault
        cases fault with
        | early integer => contradiction
        | row _ _ place => exact absurd (by rw [← place]; exact Fin.isLt _) letter
        | nameless => rfl

theorem take_afterRows_eq_error_iff {surplus : Nat} :
    (afterRows size rows surplus).take line words = .error e ↔
      Fault line words (afterRows size rows surplus) e := by
  cases known : Count.ofTokens? words with
  | none =>
    have other := Count.ofTokens?_eq_none_iff.mp known
    simp only [take, known, reduceCtorEq, false_iff]
    intro fault
    cases fault with
    | surplus _ integer => contradiction
    | count known' => simp [known'] at known
  | some count =>
    have integer := Count.exists_ofTokens?_iff.mp ⟨count,known⟩
    by_cases more : 0 < surplus
    · simp only [take, known, if_pos more, Except.error.injEq]
      constructor
      · rintro rfl
        exact .surplus more integer
      · intro fault
        cases fault with
        | surplus => rfl
        | count => contradiction
    · obtain rfl : surplus = 0 := by omega
      obtain ⟨token,_,rfl,_⟩ := integer
      cases count with
      | outOfRange =>
        simp only [take, known, if_neg more, List.headD_cons, Except.error.injEq]
        constructor
        · rintro rfl
          exact .count known
        · intro fault
          cases fault with
          | surplus => contradiction
          | count => rfl
      | value declared =>
        simp only [take, known, if_neg more, reduceCtorEq, false_iff]
        intro fault
        cases fault with
        | surplus => contradiction
        | count known' => simp [known'] at known

/-- Reading a line fails exactly as `Fault` says. -/
theorem advance_eq_error_iff : p.advance line = .error e ↔ Fault line (tokens line) p e := by
  by_cases blank : tokens line = []
  · rw [advance_blank p blank]
    simp only [reduceCtorEq, false_iff]
    exact fun fault => fault.words_ne_nil blank
  rw [advance_solid p blank]
  generalize tokens line = words at blank
  cases p with
  | start =>
    simp only [take, bind, bind_eq_error_iff, reduceCtorEq, and_false, exists_false, or_false,
      Dimensions.ofTokens_eq_error_iff]
    constructor
    · exact .header blank
    · intro fault
      cases fault with
      | header _ fault => exact fault
  | inRows size rows => exact take_inRows_eq_error_iff blank
  | afterRows size rows surplus => exact take_afterRows_eq_error_iff
  | beforeFinals size rows declared =>
    simp only [take, bind, bind_eq_error_iff, reduceCtorEq, and_false, exists_false, or_false,
      Dimensions.readFinals_eq_error_iff]
    constructor
    · exact .finals blank
    · intro fault
      cases fault with
      | finals _ fault => exact fault
  | complete M =>
    simp only [take, reduceCtorEq, false_iff]
    rintro (_ | _)

/-- An integer before or after the declared number of rows is refused as the end of the source is. -/
theorem fault_mismatch_iff {actual expected : Nat} :
    Fault line words p (.stateCountMismatch actual expected) ↔
      IsInteger words ∧ p.finish = .error (.stateCountMismatch actual expected) := by
  constructor
  · intro fault
    cases fault with
    | header _ fault => cases fault
    | early integer => exact ⟨integer,rfl⟩
    | row _ _ _ fault => cases fault
    | surplus more integer => exact ⟨integer,if_pos more⟩
    | finals _ fault => cases fault
  · rintro ⟨integer,failed⟩
    cases p with
    | start => simp [finish] at failed
    | inRows size rows => exact Except.error.inj failed ▸ .early integer
    | afterRows size rows surplus =>
      simp only [finish] at failed
      split at failed
      next more => exact Except.error.inj failed ▸ .surplus more integer
      next => simp at failed
    | beforeFinals size rows declared =>
      simp only [finish] at failed
      split at failed <;> simp at failed
    | complete M => contradiction

end Progress

end DigitAutomata
