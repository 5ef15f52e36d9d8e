import DigitAutomata.Proofs.Diagnosis

/-! What follows the rows of a table. Once as many rows as declared are read, the number of final states
has to come, then their list. A list is judged by its length before its names, and the number 0 needs
none; what is missing at the end of the source is reported there. -/
namespace DigitAutomata

open Text (tokens lines solid)
open Automaton Progress

variable {source : String} {size : Dimensions} {rows : List Row} {e : TableError} {declared : Nat}
  {count words : List String} {body ending rest : List (List String)}

theorem declares_of_isBody (isBody : size.IsBody rows body)
    (split : tokenLines source = body ++ ending) : Declares (lines source) size := by
  cases isBody with
  | lines isHeader => exact declares_iff.mpr ⟨_,_,split,isHeader⟩

theorem covers_full (isBody : size.IsBody rows body) (full : rows.length = size.stateCount) :
    (afterRows size rows 0).Covers body := by
  have covers := covers_holding isBody (Nat.le_of_eq full)
  rwa [holding, if_pos full] at covers

/-- Only a source that ends after its rows lacks the number of final states. -/
theorem isBody_of_missingFinalCount (failed : parse source = .error .missingFinalCount) :
    ∃ (size : Dimensions) (rows : List Row), size.IsBody rows (tokenLines source) ∧
      rows.length = size.stateCount := by
  rcases parse_eq_error_iff.mp failed with ⟨front,line,rest,p,_,_,fault⟩ | ⟨p,covers,ends⟩
  · generalize tokens line = words at fault
    cases fault with
    | header _ fault => cases fault
    | row _ _ _ fault => cases fault
    | finals _ fault => cases fault
  · generalize tokenLines source = taken at covers
    cases covers with
    | start => simp [finish] at ends
    | inRows => simp [finish] at ends
    | afterRows isBody full _ length =>
      simp only [finish] at ends
      split at ends
      next => simp at ends
      next none =>
        rw [List.length_eq_zero_iff.mp (length.trans (by omega)), List.append_nil]
        exact ⟨_,_,isBody,full⟩
    | beforeFinals =>
      simp only [finish] at ends
      split at ends <;> simp at ends
    | complete => contradiction

/-- A line after the number of final states is read as their list, and nothing else is looked at. -/
theorem parse_listed (isBody : size.IsBody rows body) (full : rows.length = size.stateCount)
    (known : Count.ofTokens? count = some (.value declared))
    (split : tokenLines source = body ++ count :: words :: rest) :
    parse source = (size.readFinals declared words).map (ofRows size.alphabetSize rows) := by
  have counted := Covers.beforeFinals isBody full known
  cases read : size.readFinals declared words with
  | ok finals =>
    obtain ⟨length,names⟩ := Dimensions.readFinals_eq_ok_iff.mp read
    have covers : (complete (.ofRows size.alphabetSize rows finals)).Covers (tokenLines source) :=
      split ▸ .complete isBody full known length names
    exact parse_of_covers covers
  | error e =>
    have member : words ∈ tokenLines source := by simp [split]
    rw [List.append_cons] at split
    exact parse_of_fault split counted fun line =>
      .finals (words_ne_nil_of_mem_tokenLines member) (Dimensions.readFinals_eq_error_iff.mp read)

theorem missingFinalCount_iff (isBody : size.IsBody rows body) (full : rows.length = size.stateCount)
    (split : tokenLines source = body ++ ending) :
    parse source = .error .missingFinalCount ↔ ending = [] := by
  constructor
  · intro failed
    obtain ⟨size',rows',isBody',full'⟩ := isBody_of_missingFinalCount failed
    have declares' := declares_of_isBody isBody' (List.append_nil _).symm
    obtain rfl := (declares_of_isBody isBody split).unique declares'
    have length := isBody'.length_eq
    rw [split, List.length_append, isBody.length_eq, full, full'] at length
    exact List.length_eq_zero_iff.mp (by omega)
  · rintro rfl
    rw [List.append_nil] at split
    rw [parse_of_covers (split ▸ covers_full isBody full)]
    rfl

theorem parse_listed_eq_error_iff (isBody : size.IsBody rows body)
    (full : rows.length = size.stateCount)
    (known : Count.ofTokens? count = some (.value declared))
    (split : tokenLines source = body ++ count :: words :: rest) :
    parse source = .error e ↔ size.FinalsFault declared words e := by
  rw [parse_listed isBody full known split, map_eq_error_iff, Dimensions.readFinals_eq_error_iff]

/-- What a table with sound rows comes to, by what follows them. -/
theorem parse_ending (isBody : size.IsBody rows body) (full : rows.length = size.stateCount)
    (split : tokenLines source = body ++ ending) :
    (parse source = .error .missingFinalCount ↔ ending = []) ∧
    (∀ token rest, ending = [token] :: rest → Count.ofTokens? [token] = some .outOfRange →
      parse source = .error (.invalidFinalCount token)) ∧
    ∀ count declared, Count.ofTokens? count = some (.value declared) →
      (ending = [count] → declared = 0 →
        ∃ M, M.Realizes size rows [] ∧ parse source = .ok M) ∧
      (ending = [count] → 0 < declared →
        parse source = .error (.finalCountMismatch declared 0)) ∧
      ∀ words rest, ending = count :: words :: rest →
        (parse source = .error (.finalCountMismatch declared words.length) ↔
          words.length ≠ declared) ∧
        (words.length = declared →
          ((∃ token, parse source = .error (.unknownState token .finalList)) ↔
            ∃ token ∈ words, ¬size.Knows token) ∧
          (∀ token, parse source = .error (.unknownState token .finalList) →
            ∃ place, FirstFailure size.Knows words place token) ∧
          ((∀ token ∈ words, size.Knows token) → ∃ finals M,
            List.Forall₂ size.Names words finals ∧ M.Realizes size rows finals ∧
              parse source = .ok M)) := by
  have few := isBody.inRange.states.2
  refine ⟨missingFinalCount_iff isBody full split,?_,?_⟩
  · rintro token rest rfl known
    exact parse_of_fault split (covers_full isBody full) fun line => .count known
  · intro count declared known
    have counted := Covers.beforeFinals isBody full known
    refine ⟨?_,?_,?_⟩
    · rintro rfl rfl
      exact ⟨_,realizes_ofRows [] full few,parse_of_covers (split ▸ counted)⟩
    · rintro rfl more
      rw [parse_of_covers (split ▸ counted), finish, if_neg (Nat.ne_of_gt more)]
    · rintro words rest rfl
      simp only [parse_listed_eq_error_iff isBody full known split]
      refine ⟨?_,fun same => ⟨?_,?_,?_⟩⟩
      · exact Dimensions.finalsFault_length_iff
      · simp only [Dimensions.finalsFault_unknown_iff, same, true_and]
        rw [exists_comm, FirstFailure.exists_iff]
      · intro token fault
        exact (Dimensions.finalsFault_unknown_iff.mp fault).2
      · intro known'
        obtain ⟨finals,names⟩ := Dimensions.exists_names_iff.mpr known'
        refine ⟨finals,_,names,realizes_ofRows finals full few,?_⟩
        rw [parse_listed isBody full known split, Dimensions.readFinals_eq_ok_iff.mpr ⟨same,names⟩]
        rfl

/-- Two rows, followed by each kind of ending. -/
theorem parse_ending_kinds :
    let size : Dimensions := ⟨1, 2⟩
    let rows : List Row := [[⟨1⟩], [⟨0⟩]]
    size.IsBody rows [["1", "2"], ["B"], ["A"]] ∧ rows.length = size.stateCount ∧
      parse "1 2\nB\nA" = .error .missingFinalCount ∧
      parse "1 2\nB\nA\n-1\nB" = .error (.invalidFinalCount "-1") ∧
      (∃ M, M.Realizes size rows [] ∧ parse "1 2\nB\nA\n00" = .ok M) ∧
      parse "1 2\nB\nA\n1" = .error (.finalCountMismatch 1 0) ∧
      parse "1 2\nB\nA\n1\nB ?" = .error (.finalCountMismatch 1 2) ∧
      ∃ token, parse "1 2\nB\nA\n2\nB C" = .error (.unknownState token .finalList) := by
  intro size rows
  have header : Dimensions.ofTokens "" ["1", "2"] = .ok size := by decide +kernel
  have first : size.readRow 0 ["B"] = .ok [⟨1⟩] := by decide +kernel
  have second : size.readRow 1 ["A"] = .ok [⟨0⟩] := by decide +kernel
  have isBody : size.IsBody rows [["1", "2"], ["B"], ["A"]] :=
    .lines (Dimensions.ofTokens_eq_ok_iff.mp header)
      (.cons ((Dimensions.readRow_eq_ok_iff (by decide)).mp first)
        (.cons ((Dimensions.readRow_eq_ok_iff (by decide)).mp second) .nil))
  have full : rows.length = size.stateCount := rfl
  refine ⟨isBody,full,?_,?_,?_,?_,?_,?_⟩
  · exact (parse_ending isBody full (by decide +kernel)).1.mpr rfl
  · exact (parse_ending isBody full (by decide +kernel)).2.1 "-1" [["B"]] rfl (by decide +kernel)
  · exact ((parse_ending isBody full (by decide +kernel)).2.2 ["00"] 0 (by decide +kernel)).1 rfl rfl
  · exact ((parse_ending isBody full (by decide +kernel)).2.2 ["1"] 1
      (by decide +kernel)).2.1 rfl (by decide)
  · exact (((parse_ending isBody full (by decide +kernel)).2.2 ["1"] 1
      (by decide +kernel)).2.2 ["B", "?"] [] rfl).1.mpr (by decide)
  · exact ((((parse_ending isBody full (by decide +kernel)).2.2 ["2"] 2
      (by decide +kernel)).2.2 ["B", "C"] [] rfl).2 rfl).1.mpr (by decide +kernel)

end DigitAutomata
