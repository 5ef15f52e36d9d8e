import DigitAutomata.Proofs.Fault
import Mathlib.Algebra.Group.Int.Defs

/-! What the integers on the lines of a table come to. A sign and digits denote an integer of any size. In
a header it is taken as the nearest integer that a signed 64-bit word can hold, so that one far out of
range is still reported as out of range. The number of final states is taken as it is, if an unsigned
64-bit word can hold it; but one with a minus is refused, and so is a zero that has one. -/
namespace DigitAutomata

namespace Text

/-- The token is an optional sign and digits, and this is the integer that they denote. -/
def Denotes (token : String) (value : Int) : Prop := ∃ n, Spells token n ∧ n.value = value

/-- The token is a zero with a minus. -/
def NegativeZero (token : String) : Prop := token.toList.head? = some '-' ∧ Denotes token 0

variable {token : String} {n : Numeral}

/-- No sign is taken for a digit, so a minus in front is the sign. -/
theorem Spells.minus_iff (spells : Spells token n) :
    n.sign = .minus ↔ token.toList.head? = some '-' := by
  obtain ⟨digits,text,derived⟩ := spells
  rw [text]
  cases n.sign with
  | minus => simp [Sign.mark]
  | plus => simp [Sign.mark]
  | absent =>
    simp only [Sign.mark, List.nil_append, reduceCtorEq, false_iff]
    intro signed
    exact absurd (derived.isDigit (List.mem_of_head? signed)) (by decide)

theorem denotes_iff {v : Int} :
    Denotes token v ↔ (Numeral.ofToken? token).map Numeral.value = some v := by
  simp only [Denotes, Option.map_eq_some_iff, Numeral.ofToken?_eq_some_iff]

instance {v : Int} : Decidable (Denotes token v) := decidable_of_iff _ denotes_iff.symm

instance : Decidable (NegativeZero token) :=
  inferInstanceAs (Decidable (token.toList.head? = some '-' ∧ Denotes token 0))

theorem Denotes.unique {v w : Int} (denotes : Denotes token v) (denotes' : Denotes token w) :
    v = w :=
  Option.some.inj ((denotes_iff.mp denotes).symm.trans (denotes_iff.mp denotes'))

theorem clampSigned_eq (v : Int) : clampSigned v = max (-2 ^ 63) (min v (2 ^ 63 - 1)) := by
  unfold clampSigned halfCount
  split
  next => omega
  next => split <;> omega

/-- An integer that no word holds is taken as the end of the words that it lies behind. -/
theorem clamp_far {v : Int} (far : ¬(-2 ^ 63 ≤ v ∧ v < 2 ^ 63)) :
    max (-2 ^ 63) (min v (2 ^ 63 - 1)) = if v < 0 then -2 ^ 63 else 2 ^ 63 - 1 := by
  split <;> omega

end Text

open Text (Denotes NegativeZero Numeral tokens trim)

namespace Count

/-- The count that an integer is, if an unsigned 64-bit word can hold it. -/
def ofInteger (v : Int) : Count := if 0 ≤ v ∧ v < 2 ^ 64 then .value v.toNat else .outOfRange

variable {token : String} {v : Int}

theorem ofTokens?_spells {n : Numeral} (spells : Text.Spells token n) :
    ofTokens? [token] = some (ofNumeral n) := by
  rw [ofTokens?, Numeral.ofToken?_eq_some_iff.mpr spells, Option.map_some]

theorem isInteger_iff {words : List String} :
    IsInteger words ↔ ∃ token v, words = [token] ∧ Denotes token v := by
  constructor
  · rintro ⟨token,n,rfl,spells⟩
    exact ⟨token,n.value,rfl,n,spells,rfl⟩
  · rintro ⟨token,_,rfl,n,spells,rfl⟩
    exact ⟨token,n,rfl,spells⟩

theorem ofTokens?_denoted (denotes : Denotes token v) (other : ¬NegativeZero token) :
    ofTokens? [token] = some (ofInteger v) := by
  obtain ⟨n,spells,rfl⟩ := denotes
  rw [ofTokens?_spells spells, ofNumeral, ofInteger]
  have value : n.value = if n.sign = .minus then -(n.magnitude : Int) else n.magnitude := by
    simp only [Numeral.value]
    cases n.sign <;> rfl
  -- The sign decides before the magnitude is looked at, so it has to be known that the value is not 0.
  have nonzero : n.sign = .minus → n.value ≠ 0 := fun minus zero =>
    other ⟨spells.minus_iff.mp minus,n,spells,zero⟩
  unfold Text.wordCount
  by_cases minus : n.sign = .minus
  · have below := nonzero minus
    rw [if_pos minus] at value
    rw [if_pos (.inl minus), if_neg (by omega)]
  · rw [if_neg minus] at value
    by_cases large : 18446744073709551616 ≤ n.magnitude
    · rw [if_pos (.inr large), if_neg (by omega)]
    · rw [if_neg (by simp [minus, large]), if_pos (by omega), value, Int.toNat_natCast]

theorem ofTokens?_negativeZero (zero : NegativeZero token) :
    ofTokens? [token] = some .outOfRange := by
  obtain ⟨signed,n,spells,_⟩ := zero
  rw [ofTokens?_spells spells, ofNumeral, if_pos (.inl (spells.minus_iff.mpr signed))]

/-- A zero with a minus is not read as what it denotes, since 0 itself is not out of range. -/
theorem ofTokens?_denoted_iff (denotes : Denotes token v) :
    ofTokens? [token] = some (ofInteger v) ↔ ¬NegativeZero token := by
  refine ⟨fun known zero => ?_,ofTokens?_denoted denotes⟩
  obtain rfl := denotes.unique zero.2
  cases known.symm.trans (ofTokens?_negativeZero zero)

theorem denotes_of_outOfRange (known : ofTokens? [token] = some .outOfRange) :
    ∃ v, Denotes token v ∧ (v < 0 ∨ 2 ^ 64 ≤ v ∨ NegativeZero token) := by
  obtain ⟨token',v,same,denotes⟩ := isInteger_iff.mp (exists_ofTokens?_iff.mp ⟨_,known⟩)
  obtain rfl := List.singleton_inj.mp same
  refine ⟨v,denotes,?_⟩
  by_contra inside
  simp only [not_or, Int.not_lt, Int.not_le] at inside
  obtain ⟨low,high,other⟩ := inside
  have value := ofTokens?_denoted denotes other
  rw [ofInteger, if_pos ⟨low,high⟩] at value
  cases known.symm.trans value

end Count

namespace Progress

variable {line token : String} {p : Progress}

theorem Fault.outOfRange {words : List String} (fault : Fault line words p (.invalidFinalCount token)) :
    Count.ofTokens? [token] = some .outOfRange := by
  cases fault with
  | header _ fault => cases fault
  | row _ _ _ fault => cases fault
  | count known => exact known
  | finals _ fault => cases fault

theorem finish_ne_invalidFinalCount (p : Progress) : p.finish ≠ .error (.invalidFinalCount token) := by
  intro failed
  cases p with
  | start => cases failed
  | inRows size rows => cases failed
  | afterRows size rows surplus =>
    simp only [finish] at failed
    split at failed <;> cases failed
  | beforeFinals size rows declared =>
    simp only [finish] at failed
    split at failed <;> cases failed
  | complete M => cases failed

end Progress

open Progress

/-- Only a line of a source can be refused as a number of final states. -/
theorem Automaton.parse_invalidFinalCount {source token : String}
    (failed : Automaton.parse source = .error (.invalidFinalCount token)) :
    Count.ofTokens? [token] = some .outOfRange := by
  rw [parse_eq_outcome, outcome, bind_eq_error_iff] at failed
  rcases failed with broken | ⟨p,_,unfinished⟩
  · obtain ⟨front,line,rest,p,_,_,refused⟩ := feed_eq_error_iff.mp broken
    exact (advance_eq_error_iff.mp refused).outOfRange
  · exact absurd unfinished p.finish_ne_invalidFinalCount

/-- Words are a number of final states exactly if they are one integer. It is taken as it is if an unsigned
64-bit word can hold it, and is out of range if none can; the one exception is a zero with a minus, which
is out of range too. So these are all that a source is refused for. -/
theorem Count.ofTokens?_integer (words : List String) (source : String) :
    ((∀ token v, words = [token] → ¬Denotes token v) → ofTokens? words = none) ∧
    (∀ token v, words = [token] → Denotes token v →
      (ofTokens? words = some (ofInteger v) ↔ ¬NegativeZero token) ∧
      (NegativeZero token → ofTokens? words = some .outOfRange)) ∧
    ∀ token, Automaton.parse source = .error (.invalidFinalCount token) →
      ∃ v, Denotes token v ∧ (v < 0 ∨ 2 ^ 64 ≤ v ∨ NegativeZero token) := by
  refine ⟨fun other => ?_,?_,fun token failed => ?_⟩
  · rw [ofTokens?_eq_none_iff, isInteger_iff]
    rintro ⟨token,v,single,denotes⟩
    exact other token v single denotes
  · rintro token v rfl denotes
    exact ⟨ofTokens?_denoted_iff denotes,ofTokens?_negativeZero⟩
  · exact denotes_of_outOfRange (Automaton.parse_invalidFinalCount failed)

/-- A row; a zero with a plus, the largest count and the one after it, a negative count; a zero with a
minus; and a source that is refused for its count. -/
theorem Count.ofTokens?_integer_bounds :
    ofTokens? ["A"] = none ∧
    (Denotes "+000" 0 ∧ ofTokens? ["+000"] = some (.value 0)) ∧
    (Denotes "18446744073709551615" (2 ^ 64 - 1) ∧
      ofTokens? ["18446744073709551615"] = some (.value 18446744073709551615)) ∧
    (Denotes "18446744073709551616" (2 ^ 64) ∧
      ofTokens? ["18446744073709551616"] = some .outOfRange) ∧
    (Denotes "-01" (-1) ∧ ofTokens? ["-01"] = some .outOfRange) ∧
    (NegativeZero "-0" ∧ ofTokens? ["-0"] = some .outOfRange) ∧
    Automaton.parse "1 1\nA\n-1" = .error (.invalidFinalCount "-1") ∧
      ∃ v, Denotes "-1" v ∧ (v < 0 ∨ 2 ^ 64 ≤ v ∨ NegativeZero "-1") := by
  have row : ∀ token v, ["A"] = [token] → ¬Denotes token v := by
    rintro token v ⟨rfl⟩ denotes
    have unread : (Numeral.ofToken? "A").map Numeral.value = none := by decide
    cases unread.symm.trans (Text.denotes_iff.mp denotes)
  have zero : Denotes "+000" 0 := by decide
  have last : Denotes "18446744073709551615" (2 ^ 64 - 1) := by decide
  have next : Denotes "18446744073709551616" (2 ^ 64) := by decide
  have below : Denotes "-01" (-1) := by decide
  have signed : NegativeZero "-0" := by decide
  have failed : Automaton.parse "1 1\nA\n-1" = .error (.invalidFinalCount "-1") := by
    decide +kernel
  have integer := fun token v denotes => (ofTokens?_integer [token] "").2.1 token v rfl denotes
  exact ⟨(ofTokens?_integer ["A"] "").1 row,
    ⟨zero,(integer _ _ zero).1.mpr (by decide)⟩,⟨last,(integer _ _ last).1.mpr (by decide)⟩,
    ⟨next,(integer _ _ next).1.mpr (by decide)⟩,⟨below,(integer _ _ below).1.mpr (by decide)⟩,
    ⟨signed,(integer _ _ signed.2).2 signed⟩,failed,(ofTokens?_integer [] _).2.2 _ failed⟩

/-- A zero with a minus is an integer that a word can hold, and yet it is refused as a count. -/
theorem Count.negativeZero_refused :
    Automaton.parse "1 1\nA\n-0" = .error (.invalidFinalCount "-0") ∧
    ¬∀ token v, Denotes token v → ofTokens? [token] = some (ofInteger v) := by
  refine ⟨by decide +kernel,fun read => ?_⟩
  have value := read "-0" 0 (by decide)
  contradiction

namespace Dimensions

variable {words : List String} {x y : Int}

theorem exists_isPair_iff : (∃ a n, IsPair words a n) ↔
    ∃ first second x y, words = [first, second] ∧ Denotes first x ∧ Denotes second y := by
  constructor
  · rintro ⟨a,n,first,second,rfl,spells,spells'⟩
    exact ⟨first,second,a.value,n.value,rfl,⟨a,spells,rfl⟩,⟨n,spells',rfl⟩⟩
  · rintro ⟨first,second,_,_,rfl,⟨a,spells,rfl⟩,⟨n,spells',rfl⟩⟩
    exact ⟨a,n,first,second,rfl,spells,spells'⟩

end Dimensions

namespace Progress

variable {line : String}

/-- Two integers are clamped and then judged one after the other. -/
theorem advance_start_integers {first second : String} {x y : Int}
    (words : tokens line = [first, second]) (denotes : Denotes first x) (denotes' : Denotes second y) :
    start.advance line = (Automaton.checkAlphabetSize (max (-2 ^ 63) (min x (2 ^ 63 - 1)))).bind
      fun symbols => (Automaton.checkStateCount (max (-2 ^ 63) (min y (2 ^ 63 - 1)))).bind
        fun count => .ok (inRows ⟨symbols, count⟩ []) := by
  obtain ⟨a,spells,rfl⟩ := denotes
  obtain ⟨n,spells',rfl⟩ := denotes'
  have pair : Dimensions.IsPair (tokens line) a n := ⟨first,second,words,spells,spells'⟩
  rw [advance_solid start (by simp [words]), take, pair.ofTokens, Text.clampSigned_eq,
    Text.clampSigned_eq]
  cases Automaton.checkAlphabetSize (max (-2 ^ 63) (min a.value (2 ^ 63 - 1))) with
  | error e => rfl
  | ok symbols => cases Automaton.checkStateCount (max (-2 ^ 63) (min n.value (2 ^ 63 - 1))) <;> rfl

/-- What a first line that is not blank comes to. Unless it is two integers it is malformed. Of two
integers each is taken as the nearest one that a signed 64-bit word can hold; the first that is out of
range is reported as it was taken, and if neither is they are the dimensions of the table. So an integer
that no such word holds is out of range, as the one end of the words or the other. -/
theorem advance_header_integers :
    (∀ line, tokens line ≠ [] →
      (¬∃ first second x y, tokens line = [first, second] ∧ Denotes first x ∧ Denotes second y) →
      start.advance line = .error (.malformedHeader (trim line))) ∧
    ∀ line first second x y, tokens line = [first, second] → Denotes first x → Denotes second y →
      let a := max (-2 ^ 63) (min x (2 ^ 63 - 1))
      let n := max (-2 ^ 63) (min y (2 ^ 63 - 1))
      (¬(1 ≤ a ∧ a ≤ 10) → start.advance line = .error (.invalidAlphabetSize a)) ∧
      (1 ≤ a ∧ a ≤ 10 → ¬(1 ≤ n ∧ n ≤ 26) →
        start.advance line = .error (.invalidStateCount n)) ∧
      (1 ≤ a ∧ a ≤ 10 → 1 ≤ n ∧ n ≤ 26 →
        start.advance line = .ok (.inRows ⟨a.toNat, n.toNat⟩ [])) ∧
      (¬(-2 ^ 63 ≤ x ∧ x < 2 ^ 63) → start.advance line =
        .error (.invalidAlphabetSize (if x < 0 then -2 ^ 63 else 2 ^ 63 - 1))) ∧
      (1 ≤ x ∧ x ≤ 10 → ¬(-2 ^ 63 ≤ y ∧ y < 2 ^ 63) → start.advance line =
        .error (.invalidStateCount (if y < 0 then -2 ^ 63 else 2 ^ 63 - 1))) := by
  refine ⟨fun line solid other => ?_,fun line first second x y words denotes denotes' => ?_⟩
  · rw [← Dimensions.exists_isPair_iff] at other
    exact advance_eq_error_iff.mpr (.header solid (.malformed other))
  intro a n
  have judged := advance_start_integers words denotes denotes'
  have alphabet : ¬(1 ≤ a ∧ a ≤ 10) → start.advance line = .error (.invalidAlphabetSize a) := by
    intro beyond
    have refused : Automaton.checkAlphabetSize a = .error (.invalidAlphabetSize a) := if_neg beyond
    rw [judged, refused]
    rfl
  have states : 1 ≤ a ∧ a ≤ 10 → ¬(1 ≤ n ∧ n ≤ 26) →
      start.advance line = .error (.invalidStateCount n) := by
    intro range beyond
    have taken : Automaton.checkAlphabetSize a = .ok a.toNat := if_pos range
    have refused : Automaton.checkStateCount n = .error (.invalidStateCount n) := if_neg beyond
    rw [judged, taken, Except.bind, refused]
    rfl
  refine ⟨alphabet,states,fun range range' => ?_,fun far => ?_,fun near far => ?_⟩
  · have taken : Automaton.checkAlphabetSize a = .ok a.toNat := if_pos range
    have taken' : Automaton.checkStateCount n = .ok n.toNat := if_pos range'
    rw [judged, taken, Except.bind, taken']
    rfl
  · have beyond : ¬(1 ≤ a ∧ a ≤ 10) := by
      simp only [a]
      omega
    exact Text.clamp_far far ▸ alphabet beyond
  · have range : 1 ≤ a ∧ a ≤ 10 := by
      simp only [a]
      omega
    have beyond : ¬(1 ≤ n ∧ n ≤ 26) := by
      simp only [n]
      omega
    exact Text.clamp_far far ▸ states range beyond

/-- A header that is one word short, whatever its value; sizes far above and below the range, one of them
of the words; a number of states of this kind behind a sound size; and leading zeros. -/
theorem advance_header_integers_far :
    start.advance " 99999999999999999999 " = .error (.malformedHeader "99999999999999999999") ∧
    start.advance "99999999999999999999 0" = .error (.invalidAlphabetSize (2 ^ 63 - 1)) ∧
    start.advance "-1 0" = .error (.invalidAlphabetSize (-1)) ∧
    start.advance "1 27" = .error (.invalidStateCount 27) ∧
    start.advance "+2 -9223372036854775809" = .error (.invalidStateCount (-2 ^ 63)) ∧
    start.advance "010 +26" = .ok (.inRows ⟨10, 26⟩ []) := by
  obtain ⟨malformed,integers⟩ := advance_header_integers
  have short : ¬∃ first second x y, tokens " 99999999999999999999 " = [first, second] ∧
      Denotes first x ∧ Denotes second y := by
    have single : tokens " 99999999999999999999 " = ["99999999999999999999"] := by decide +kernel
    rintro ⟨first,second,x,y,words,_⟩
    cases single.symm.trans words
  have huge : Denotes "99999999999999999999" 99999999999999999999 := by decide
  have zero : Denotes "0" 0 := by decide
  have negative : Denotes "-1" (-1) := by decide
  have one : Denotes "1" 1 := by decide
  have many : Denotes "27" 27 := by decide
  have two : Denotes "+2" 2 := by decide
  have deep : Denotes "-9223372036854775809" (-9223372036854775809) := by decide
  have ten : Denotes "010" 10 := by decide
  have all : Denotes "+26" 26 := by decide
  refine ⟨malformed _ (by decide +kernel) short,?_,?_,?_,?_,?_⟩
  · exact (integers _ _ _ _ _ (by decide +kernel) huge zero).2.2.2.1 (by decide)
  · exact (integers _ _ _ _ _ (by decide +kernel) negative zero).1 (by decide)
  · exact (integers _ _ _ _ _ (by decide +kernel) one many).2.1 (by decide) (by decide)
  · exact (integers _ _ _ _ _ (by decide +kernel) two deep).2.2.2.2 (by decide) (by decide)
  · exact (integers _ _ _ _ _ (by decide +kernel) ten all).2.2.1 (by decide) (by decide)

end Progress

end DigitAutomata
