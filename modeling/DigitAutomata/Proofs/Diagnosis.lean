import DigitAutomata.Proofs.Fault
import DigitAutomata.Proofs.Grammar
import DigitAutomata.Proofs.Representation
import DigitAutomata.Proofs.Stage
import Mathlib.Data.List.TakeWhile

/-! What a refused table is reported for. A load fails at the first line that breaks a rule of the stage
that the lines before it stand for, or at the end of a source that is no whole table. The lines between
the header and the next integer are where rows are looked for: how many they are and which of them is
the first that is no row settles the report, and if all is well with them, what follows settles it. -/
namespace DigitAutomata

open Text (tokens lines solid)
open Automaton Progress

/-- The lines, as their words, after the first one and before the next that is one integer. -/
def rowSection (source : String) : List (List String) :=
  (tokenLines source).tail.takeWhile (¬IsInteger ·)

variable {source : String} {size : Dimensions} {rows : List Row} {p : Progress} {e : TableError}
  {header words : List String} {front rest ending : List (List String)}

theorem Declares.inRange {given : List String} (declares : Declares given size) : size.InRange := by
  obtain ⟨_,_,_,isHeader⟩ := declares
  exact isHeader.inRange

theorem Declares.unique {given : List String} {other : Dimensions} (left : Declares given size)
    (right : Declares given other) : size = other := by
  obtain ⟨line,_,split,isHeader⟩ := left
  obtain ⟨_,_,split',isHeader'⟩ := right
  obtain ⟨rfl,_⟩ := List.cons.inj (split.symm.trans split')
  exact isHeader.unique isHeader'

theorem words_ne_nil_of_mem_tokenLines (member : words ∈ tokenLines source) : words ≠ [] := by
  obtain ⟨line,inside,rfl⟩ := List.mem_map.mp member
  exact Text.tokens_of_mem_solid inside

theorem declares_iff : Declares (lines source) size ↔
    ∃ header rest, tokenLines source = header :: rest ∧ size.IsHeader header := by
  constructor
  · rintro ⟨line,rest,split,isHeader⟩
    exact ⟨tokens line,rest.map tokens,by rw [tokenLines, split, List.map_cons],isHeader⟩
  · rintro ⟨header,rest,split,isHeader⟩
    obtain ⟨line,others,cut,rfl,_⟩ := List.map_eq_cons_iff.mp split
    exact ⟨line,others,cut,isHeader⟩

/-- A table is refused at the first line with a fault or, if there is none, at the end. -/
theorem parse_eq_error_iff : parse source = .error e ↔
    (∃ front line rest, ∃ p : Progress, solid (lines source) = front ++ line :: rest ∧
      p.Covers (front.map tokens) ∧ Fault line (tokens line) p e) ∨
    ∃ p : Progress, p.Covers (tokenLines source) ∧ p.finish = .error e := by
  have some : ∀ line ∈ solid (lines source), tokens line ≠ [] :=
    fun line member => Text.tokens_of_mem_solid member
  have before : ∀ {front line rest} {p : Progress}, solid (lines source) = front ++ line :: rest →
      (start.feed front = .ok p ↔ p.Covers (front.map tokens)) := by
    intro front line rest p split
    exact feed_eq_ok_iff_covers (List.forall_mem_append.mp (split ▸ some)).1
  rw [parse_eq_outcome, ← outcome_solid, outcome, bind_eq_error_iff, feed_eq_error_iff]
  unfold tokenLines
  simp only [feed_eq_ok_iff_covers some, advance_eq_error_iff]
  apply or_congr_left
  constructor
  · rintro ⟨front,line,rest,p,split,fed,fault⟩
    exact ⟨front,line,rest,p,split,(before split).mp fed,fault⟩
  · rintro ⟨front,line,rest,p,split,covers,fault⟩
    exact ⟨front,line,rest,p,split,(before split).mpr covers,fault⟩

theorem parse_of_covers (covers : p.Covers (tokenLines source)) : parse source = p.finish := by
  have some : ∀ line ∈ solid (lines source), tokens line ≠ [] :=
    fun line member => Text.tokens_of_mem_solid member
  rw [parse_eq_outcome, ← outcome_solid, outcome, (feed_eq_ok_iff_covers some).mpr covers]
  rfl

/-- After the header a fault shows in the words alone. -/
theorem parse_of_fault (split : tokenLines source = front ++ words :: rest) (covers : p.Covers front)
    (fault : ∀ line, Fault line words p e) : parse source = .error e := by
  obtain ⟨before,after,cut,rfl,after'⟩ := List.map_eq_append_iff.mp split
  obtain ⟨line,others,rfl,rfl,_⟩ := List.map_eq_cons_iff.mp after'
  exact parse_eq_error_iff.mpr (.inl ⟨before,line,others,p,cut,covers,fault line⟩)

theorem rowSection_append (split : tokenLines source = header :: (front ++ rest))
    (plain : ∀ words ∈ front, ¬IsInteger words) :
    rowSection source = front ++ rest.takeWhile (¬IsInteger ·) := by
  rw [rowSection, split, List.tail_cons]
  exact List.takeWhile_append_of_pos (by simpa using plain)

theorem rowSection_eq (split : tokenLines source = header :: (front ++ ending))
    (plain : ∀ words ∈ front, ¬IsInteger words) (ends : ∀ words ∈ ending.head?, IsInteger words) :
    rowSection source = front := by
  rw [rowSection_append split plain]
  cases ending with
  | nil => exact List.append_nil front
  | cons words rest =>
    rw [List.takeWhile_cons_of_neg (by simpa using ends words rfl), List.append_nil]

theorem not_isInteger_of_mem_rowSection (member : words ∈ rowSection source) : ¬IsInteger words := by
  simpa using List.mem_takeWhile_imp member

/-- What follows the section begins with an integer, if anything follows it. -/
theorem exists_ending (split : tokenLines source = header :: rest) :
    ∃ ending, tokenLines source = header :: (rowSection source ++ ending) ∧
      ∀ words ∈ ending.head?, IsInteger words := by
  refine ⟨rest.dropWhile (¬IsInteger ·),?_,?_⟩
  · rw [rowSection, split, List.tail_cons, List.takeWhile_append_dropWhile]
  · intro words first
    have stopped := List.head?_dropWhile_not (fun words => decide ¬IsInteger words) rest
    rw [first] at stopped
    simpa using stopped

/-- The rows that were read and are too few, up to an integer or the end, are the whole section. -/
theorem rowSection_of_inRows (split : tokenLines source = front ++ ending)
    (covers : (inRows size rows).Covers front) (ends : ∀ words ∈ ending.head?, IsInteger words) :
    Declares (lines source) size ∧ (rowSection source).length = rows.length ∧
      rows.length < size.stateCount ∧ ∀ words ∈ rowSection source, size.HasRow words := by
  cases covers with
  | inRows isBody due =>
    cases isBody with
    | lines isHeader areRows =>
      have sound := Dimensions.exists_rows_iff.mp ⟨rows,areRows⟩
      rw [rowSection_eq split (fun words member => (sound words member).not_isInteger) ends]
      exact ⟨declares_iff.mpr ⟨_,_,split,isHeader⟩,areRows.length_eq,due,sound⟩

/-- The rows that were read and the lines after them that were counted are the whole section. -/
theorem rowSection_of_afterRows {surplus : Nat} (split : tokenLines source = front ++ ending)
    (covers : (afterRows size rows surplus).Covers front)
    (ends : ∀ words ∈ ending.head?, IsInteger words) :
    Declares (lines source) size ∧ (rowSection source).length = size.stateCount + surplus ∧
      ∀ words ∈ (rowSection source).take size.stateCount, size.HasRow words := by
  cases covers with
  | afterRows isBody count none length =>
    cases isBody with
    | lines isHeader areRows =>
      have sound := Dimensions.exists_rows_iff.mp ⟨rows,areRows⟩
      have rowCount := areRows.length_eq.trans count
      have plain := List.forall_mem_append.mpr
        ⟨fun words member => (sound words member).not_isInteger,
          fun words member => Count.ofTokens?_eq_none_iff.mp (none words member)⟩
      rw [List.cons_append, List.cons_append] at split
      rw [rowSection_eq split plain ends, List.length_append, rowCount, length, ← rowCount,
        List.take_left]
      exact ⟨declares_iff.mpr ⟨_,_,split,isHeader⟩,rfl,sound⟩

/-- A section of sound rows that is too short leaves the reader looking for rows. -/
theorem covers_short_section (isHeader : size.IsHeader header)
    (few : (rowSection source).length < size.stateCount)
    (sound : ∀ words ∈ rowSection source, size.HasRow words) :
    ∃ rows, rows.length = (rowSection source).length ∧
      (inRows size rows).Covers (header :: rowSection source) := by
  obtain ⟨rows,areRows⟩ := Dimensions.exists_rows_iff.mpr sound
  have length := areRows.length_eq
  exact ⟨rows,length.symm,.inRows (.lines isHeader areRows) (length ▸ few)⟩

/-- Of a section that is long enough only as many lines as declared have to be rows. -/
theorem covers_long_section (isHeader : size.IsHeader header)
    (many : size.stateCount ≤ (rowSection source).length)
    (sound : ∀ words ∈ (rowSection source).take size.stateCount, size.HasRow words) :
    ∃ rows, (afterRows size rows ((rowSection source).length - size.stateCount)).Covers
      (header :: rowSection source) := by
  obtain ⟨rows,areRows⟩ := Dimensions.exists_rows_iff.mpr sound
  have full := areRows.length_eq
  rw [List.length_take_of_le many] at full
  have plain : ∀ words ∈ (rowSection source).drop size.stateCount,
      Count.ofTokens? words = none := fun words member =>
    Count.ofTokens?_eq_none_iff.mpr (not_isInteger_of_mem_rowSection (List.mem_of_mem_drop member))
  have covers := Covers.afterRows (.lines isHeader areRows) full.symm plain List.length_drop
  rw [List.cons_append, List.take_append_drop] at covers
  exact ⟨rows,covers⟩

/-- The number of rows is wrong where an integer or the end comes, whichever comes first. -/
theorem parse_mismatch_iff {actual expected : Nat} :
    parse source = .error (.stateCountMismatch actual expected) ↔ ∃ front ending, ∃ p : Progress,
      tokenLines source = front ++ ending ∧ (∀ words ∈ ending.head?, IsInteger words) ∧
      p.Covers front ∧ p.finish = .error (.stateCountMismatch actual expected) := by
  constructor
  · intro failed
    rcases parse_eq_error_iff.mp failed with ⟨front,line,rest,p,split,covers,fault⟩ | ⟨p,covers,ends⟩
    · obtain ⟨integer,ends⟩ := fault_mismatch_iff.mp fault
      refine ⟨_,tokens line :: rest.map tokens,p,?_,by simpa using integer,covers,ends⟩
      rw [tokenLines, split, List.map_append, List.map_cons]
    · exact ⟨_,[],p,(List.append_nil _).symm,by simp,covers,ends⟩
  · rintro ⟨front,_ | ⟨words,rest⟩,p,split,ends,covers,failed⟩
    · rw [List.append_nil] at split
      rw [parse_of_covers (split ▸ covers), failed]
    · exact parse_of_fault split covers fun line => fault_mismatch_iff.mpr ⟨ends words rfl,failed⟩

/-- The number of rows is reported to be wrong exactly if the header is sound, the lines of the section
are more or fewer than it declares, and as many of them as it declares are rows. What the lines beyond
hold makes no difference, nor does the value of the integer after them. -/
theorem parse_eq_stateCountMismatch_iff (source : String) (actual expected : Nat) :
    parse source = .error (.stateCountMismatch actual expected) ↔
      ∃ size, Declares (lines source) size ∧ size.stateCount = expected ∧
        (rowSection source).length = actual ∧ actual ≠ expected ∧
        ∀ words ∈ (rowSection source).take expected, size.HasRow words := by
  rw [parse_mismatch_iff]
  constructor
  · rintro ⟨front,ending,p,split,ends,covers,failed⟩
    cases p with
    | start => simp [finish] at failed
    | inRows size rows =>
      obtain ⟨declares,length,due,sound⟩ := rowSection_of_inRows split covers ends
      simp only [finish, Except.error.injEq, TableError.stateCountMismatch.injEq] at failed
      obtain ⟨rfl,rfl⟩ := failed
      exact ⟨size,declares,rfl,length,by omega,
        fun words member => sound words (List.mem_of_mem_take member)⟩
    | afterRows size rows surplus =>
      obtain ⟨declares,length,sound⟩ := rowSection_of_afterRows split covers ends
      simp only [finish] at failed
      split at failed
      next more =>
        simp only [Except.error.injEq, TableError.stateCountMismatch.injEq] at failed
        obtain ⟨rfl,rfl⟩ := failed
        exact ⟨size,declares,rfl,length,by omega,sound⟩
      next => simp at failed
    | beforeFinals size rows declared =>
      simp only [finish] at failed
      split at failed <;> simp at failed
    | complete M => contradiction
  · rintro ⟨size,declares,rfl,rfl,wrong,sound⟩
    obtain ⟨header,rest,split,isHeader⟩ := declares_iff.mp declares
    obtain ⟨ending,split,ends⟩ := exists_ending split
    rcases Nat.lt_or_gt_of_ne wrong with few | many
    · rw [List.take_of_length_le (Nat.le_of_lt few)] at sound
      obtain ⟨rows,length,covers⟩ := covers_short_section isHeader few sound
      exact ⟨_,ending,_,split,ends,covers,by rw [finish, length]⟩
    · obtain ⟨rows,covers⟩ := covers_long_section isHeader (Nat.le_of_lt many) sound
      refine ⟨_,ending,_,split,ends,covers,?_⟩
      rw [finish, if_pos (by omega), Nat.add_sub_of_le (Nat.le_of_lt many)]

-- The integer after the rows may be out of range itself.
example : parse "1 1\nA\nany line\n-5" = .error (.stateCountMismatch 2 1) := by decide +kernel

/-- The report is about a row: its width or one of its destinations. -/
inductive TableError.OfRow : TableError → Prop where
  | width : OfRow (.rowWidth q actual expected)
  | destination : OfRow (.unknownState token (.transition q symbol))

theorem Dimensions.RowFault.ofRow {q : StateId} (fault : size.RowFault q words e) : e.OfRow := by
  cases fault with
  | width => exact .width
  | unknown => exact .destination

/-- Only a line of the section that is no row, with no more rows before it than are declared, is
reported as a row. -/
theorem exists_firstFailure_of_ofRow (failed : parse source = .error e) (ofRow : e.OfRow) :
    ∃ size i words, Declares (lines source) size ∧
      FirstFailure size.HasRow ((rowSection source).take size.stateCount) i words := by
  rcases parse_eq_error_iff.mp failed with ⟨front,line,rest,p,split,covers,fault⟩ | ⟨p,covers,ends⟩
  · have split : tokenLines source = front.map tokens ++ tokens line :: rest.map tokens := by
      rw [tokenLines, split, List.map_append, List.map_cons]
    generalize front.map tokens = front at covers split
    generalize tokens line = words at fault split
    cases fault with
    | header _ fault => cases fault <;> cases ofRow
    | early => cases ofRow
    | row _ plain _ fault =>
      cases covers with
      | inRows isBody due =>
        cases isBody with
        | @lines header rowLines isHeader areRows =>
          have sound := Dimensions.exists_rows_iff.mp ⟨_,areRows⟩
          have noRow := (Dimensions.exists_rowFault_iff _).mp ⟨_,fault⟩
          have cut := rowSection_append split fun words member => (sound words member).not_isInteger
          rw [List.takeWhile_cons_of_pos (by simpa using plain)] at cut
          refine ⟨_,rowLines.length,words,declares_iff.mpr ⟨_,_,split,isHeader⟩,
            FirstFailure.take_iff.mpr ⟨areRows.length_eq ▸ due,?_⟩⟩
          exact cut ▸ .of_append sound noRow
    | nameless => cases ofRow
    | surplus => cases ofRow
    | count => cases ofRow
    | finals _ fault => cases fault <;> cases ofRow
  · cases p with
    | start => cases ends; cases ofRow
    | inRows => cases ends; cases ofRow
    | afterRows =>
      simp only [finish] at ends
      split at ends <;> cases ends <;> cases ofRow
    | beforeFinals =>
      simp only [finish] at ends
      split at ends <;> cases ends
      cases ofRow
    | complete => cases ends

theorem parse_of_rowFault {i : Nat} {q : StateId} (declares : Declares (lines source) size)
    (first : FirstFailure size.HasRow ((rowSection source).take size.stateCount) i words)
    (place : q.index.val = i) (fault : size.RowFault q words e) : parse source = .error e := by
  obtain ⟨due,first⟩ := FirstFailure.take_iff.mp first
  obtain ⟨header,rest,split,isHeader⟩ := declares_iff.mp declares
  obtain ⟨ending,split,_⟩ := exists_ending split
  have member : words ∈ tokenLines source := by
    rw [split]
    exact List.mem_cons_of_mem _ (List.mem_append_left _ first.mem)
  obtain ⟨rows,areRows⟩ := Dimensions.exists_rows_iff.mpr first.before
  have length : i = rows.length := by
    obtain ⟨inside,_⟩ := List.getElem?_eq_some_iff.mp first.here
    rw [← areRows.length_eq, List.length_take_of_le (Nat.le_of_lt inside)]
  rw [first.split, List.append_assoc, ← List.cons_append] at split
  apply parse_of_fault split (.inRows (.lines isHeader areRows) (length ▸ due))
  intro line
  exact .row (words_ne_nil_of_mem_tokenLines member)
    (not_isInteger_of_mem_rowSection first.mem) (place.trans length) fault

/-- A row is reported exactly if a line of the section, up to the declared number, is no row. Then the
first such line is the row of the state in its place, and its width is reported or, if that is right, its
first unknown destination. -/
theorem parse_row_report (source : String) (size : Dimensions)
    (declares : Declares (lines source) size) :
    ((∃ e, parse source = .error e ∧ e.OfRow) ↔
      ∃ words ∈ (rowSection source).take size.stateCount, ¬size.HasRow words) ∧
    ∀ i words, FirstFailure size.HasRow ((rowSection source).take size.stateCount) i words →
      ∃ q : StateId, q.index.val = i ∧
        (words.length ≠ size.alphabetSize →
          parse source = .error (.rowWidth q words.length size.alphabetSize)) ∧
        (words.length = size.alphabetSize →
          ∃ symbol token, FirstFailure size.Knows words symbol token ∧
            parse source = .error (.unknownState token (.transition q symbol))) := by
  have report : ∀ i words,
      FirstFailure size.HasRow ((rowSection source).take size.stateCount) i words →
      ∃ q : StateId, q.index.val = i ∧ ∀ e, size.RowFault q words e → parse source = .error e := by
    intro i words first
    have due := (FirstFailure.take_iff.mp first).1
    have few := declares.inRange.states.2
    exact ⟨⟨⟨i,Nat.lt_of_lt_of_le due few⟩⟩,rfl,fun e fault => parse_of_rowFault declares first rfl fault⟩
  refine ⟨⟨?_,?_⟩,?_⟩
  · rintro ⟨e,failed,ofRow⟩
    obtain ⟨size',i,words,declares',first⟩ := exists_firstFailure_of_ofRow failed ofRow
    obtain rfl := declares.unique declares'
    exact ⟨words,first.mem,first.fails⟩
  · intro faulty
    obtain ⟨i,words,first⟩ := FirstFailure.exists_iff.mpr faulty
    obtain ⟨q,_,reported⟩ := report i words first
    obtain ⟨e,fault⟩ := (Dimensions.exists_rowFault_iff q).mpr first.fails
    exact ⟨e,reported e fault,fault.ofRow⟩
  · intro i words first
    obtain ⟨q,place,reported⟩ := report i words first
    refine ⟨q,place,fun narrow => reported _ (.width narrow),fun wide => ?_⟩
    have unknown : ∃ token ∈ words, ¬size.Knows token := by
      by_contra all
      exact first.fails (Dimensions.hasRow_iff.mpr ⟨wide,by simpa using all⟩)
    obtain ⟨symbol,token,first⟩ := FirstFailure.exists_iff.mpr unknown
    exact ⟨symbol,token,first,reported _ (.unknown wide first)⟩

/-- The second row has an unknown destination, and so does a line beyond the rows. -/
theorem parse_row_report_second :
    let source := "2 2\n\nA B\n B C\nC\n7 7\n0"
    let size : Dimensions := ⟨2, 2⟩
    Declares (lines source) size ∧ (∃ e, parse source = .error e ∧ e.OfRow) ∧
      FirstFailure size.HasRow ((rowSection source).take 2) 1 ["B", "C"] ∧
      ∃ q : StateId, q.index.val = 1 ∧ ∃ symbol token,
        FirstFailure size.Knows ["B", "C"] symbol token ∧
          parse source = .error (.unknownState token (.transition q symbol)) := by
  intro source size
  have split : tokenLines source = ["2", "2"] ::
      [["A", "B"], ["B", "C"], ["C"], ["7", "7"], ["0"]] := by decide +kernel
  have read : Dimensions.ofTokens "" ["2", "2"] = .ok size := by decide +kernel
  have declares : Declares (lines source) size :=
    declares_iff.mpr ⟨_,_,split,Dimensions.ofTokens_eq_ok_iff.mp read⟩
  have first : FirstFailure size.HasRow ((rowSection source).take 2) 1 ["B", "C"] := by
    decide +kernel
  have report := parse_row_report source size declares
  obtain ⟨q,place,_,unknown⟩ := report.2 1 _ first
  exact ⟨declares,report.1.mpr ⟨_,first.mem,first.fails⟩,first,q,place,unknown rfl⟩

end DigitAutomata
