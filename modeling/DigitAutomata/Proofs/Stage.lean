import DigitAutomata.Proofs.Step

/-! What a stage of the reader says of the lines behind it. A stage is reached over a header, as many
rows as it holds, and then the lines that its place in the table demands, so the lines of a text can be
told from the stage that they lead to. -/
namespace DigitAutomata

open Text (tokens solid)

/-- A header with these dimensions and lines that are rows of them. -/
inductive Dimensions.IsBody (size : Dimensions) (rows : List Row) : List (List String) → Prop where
  | lines : size.IsHeader header → List.Forall₂ size.IsRow rowLines rows →
      IsBody size rows (header :: rowLines)

namespace Dimensions.IsBody

variable {size : Dimensions} {rows : List Row} {body : List (List String)}

theorem length_eq (isBody : size.IsBody rows body) : body.length = rows.length + 1 := by
  cases isBody with
  | lines _ areRows => rw [List.length_cons, areRows.length_eq]

theorem inRange (isBody : size.IsBody rows body) : size.InRange := by
  cases isBody with
  | lines isHeader _ => exact isHeader.inRange

theorem snoc {words : List String} {row : Row} (isBody : size.IsBody rows body)
    (isRow : size.IsRow words row) : size.IsBody (rows ++ [row]) (body ++ [words]) := by
  cases isBody with
  | lines isHeader areRows =>
    exact .lines isHeader (List.rel_append areRows (.cons isRow .nil))

end Dimensions.IsBody

namespace Progress

/-- The lines, as their words, that lead to a stage; blank ones are left out. -/
inductive Covers : Progress → List (List String) → Prop where
  | start : Covers start []
  | inRows : size.IsBody rows body → rows.length < size.stateCount → Covers (inRows size rows) body
  | afterRows : size.IsBody rows body → rows.length = size.stateCount →
      (∀ words ∈ extra, Count.ofTokens? words = none) → extra.length = surplus →
      Covers (afterRows size rows surplus) (body ++ extra)
  | beforeFinals : size.IsBody rows body → rows.length = size.stateCount →
      Count.ofTokens? count = some (.value declared) →
      Covers (beforeFinals size rows declared) (body ++ [count])
  | complete {size : Dimensions} : size.IsBody rows body → rows.length = size.stateCount →
      Count.ofTokens? count = some (.value declared) → words.length = declared →
      List.Forall₂ size.Names words finals →
      Covers (complete (.ofRows size.alphabetSize rows finals)) (body ++ count :: words :: anything)

/-- `Run p given last`: lines with these words lead from the one stage to the other. -/
inductive Run : Progress → List (List String) → Progress → Prop where
  | nil : Run p [] p
  | cons : Step words p next → Run next rest last → Run p (words :: rest) last

variable {p next : Progress} {words : List String} {given : List String}

theorem covers_holding {size : Dimensions} {rows : List Row} {body : List (List String)}
    (isBody : size.IsBody rows body) (room : rows.length ≤ size.stateCount) :
    (holding size rows).Covers body := by
  unfold holding
  split
  next full =>
    have covers : (Progress.afterRows size rows 0).Covers (body ++ []) :=
      .afterRows isBody full (fun _ member => absurd member List.not_mem_nil) rfl
    rwa [List.append_nil] at covers
  next due => exact .inRows isBody (by omega)

theorem Step.of_complete {M : Automaton} (step : Step words (complete M) next) :
    next = complete M := by
  cases step <;> rfl

theorem Covers.step {taken : List (List String)} (covers : p.Covers taken) (step : Step words p next)
    (some : words ≠ []) : next.Covers (taken ++ [words]) := by
  cases covers with
  | start =>
    cases step with
    | blank => contradiction
    | header isHeader => exact .inRows (.lines isHeader .nil) isHeader.inRange.states.1
  | inRows isBody due =>
    cases step with
    | blank => contradiction
    | row _ _ isRow =>
      apply covers_holding (isBody.snoc isRow)
      rw [List.length_append, List.length_singleton]
      exact due
  | @afterRows size rows body extra surplus isBody count counted length =>
    cases step with
    | blank => contradiction
    | surplus _ none =>
      rw [List.append_assoc]
      refine .afterRows isBody count ?_ (by rw [List.length_append, length, List.length_singleton])
      intro line member
      rcases List.mem_append.mp member with before | last
      · exact counted line before
      · exact List.mem_singleton.mp last ▸ none
    | count known =>
      rw [List.length_eq_zero_iff.mp length, List.append_nil]
      exact .beforeFinals isBody count known
  | beforeFinals isBody count known =>
    cases step with
    | blank => contradiction
    | finals _ length names =>
      rw [List.append_assoc]
      exact .complete isBody count known length names
  | complete isBody count known length names =>
    rw [step.of_complete, List.append_assoc]
    exact .complete isBody count known length names

/-- The induction is on the end of the lines, where the stage is. -/
theorem feed_covers (fed : Progress.start.feed given = .ok p) :
    p.Covers ((solid given).map tokens) := by
  induction given using List.reverseRecOn generalizing p with
  | nil => exact Except.ok.inj fed ▸ .start
  | append_singleton front line ih =>
    rw [feed_append] at fed
    obtain ⟨before,reached,last⟩ := bind_eq_ok_iff.mp fed
    obtain ⟨next,step,ended⟩ := feed_cons last
    rw [Except.ok.inj ended] at step
    rw [Text.solid_append]
    by_cases blank : tokens line = []
    · rw [advance_blank before blank] at step
      rw [Text.solid_blank blank, Text.solid_nil, List.append_nil, ← Except.ok.inj step]
      exact ih reached
    · rw [Text.solid_cons blank, Text.solid_nil, List.map_append, List.map_singleton]
      exact (ih reached).step (advance_eq_ok_iff.mp step) blank

theorem Run.append {front back : List (List String)} {last : Progress} (first : Run p front next)
    (second : Run next back last) : Run p (front ++ back) last := by
  induction first with
  | nil => exact second
  | cons step _ ih => exact .cons step (ih second)

theorem Run.snoc {front : List (List String)} {last : Progress} (first : Run p front next)
    (step : Step words next last) : Run p (front ++ [words]) last :=
  first.append (.cons step .nil)

theorem feed_eq_ok_iff_run : p.feed given = .ok next ↔ Run p (given.map tokens) next := by
  induction given generalizing p with
  | nil =>
    constructor
    · intro fed
      exact Except.ok.inj fed ▸ .nil
    · rintro ⟨⟩
      rfl
  | cons line rest ih =>
    constructor
    · intro fed
      obtain ⟨middle,step,fed⟩ := feed_cons fed
      exact .cons (advance_eq_ok_iff.mp step) (ih.mp fed)
    · rintro (_ | ⟨step,later⟩)
      rw [feed_ok (advance_eq_ok_iff.mpr step)]
      exact ih.mpr later

variable {size : Dimensions} {rows : List Row}

/-- The induction is on the rows; there is room for each, so none is taken for a line too many. -/
theorem run_rows (range : size.InRange) {rowLines : List (List String)} {further : List Row}
    (areRows : List.Forall₂ size.IsRow rowLines further)
    (room : rows.length + further.length ≤ size.stateCount) :
    Run (holding size rows) rowLines (holding size (rows ++ further)) := by
  induction areRows generalizing rows with
  | nil => rw [List.append_nil]; exact .nil
  | @cons words row rowLines further isRow _ ih =>
    rw [List.length_cons] at room
    have due : holding size rows = inRows size rows := if_neg (by omega)
    have some : words ≠ [] := by
      apply List.ne_nil_of_length_pos
      rw [isRow.1]
      exact range.alphabet.1
    have letter : rows.length < maxStates := Nat.lt_of_lt_of_le (by omega) range.states.2
    have room' : (rows ++ [row]).length + further.length ≤ size.stateCount := by
      rw [List.length_append, List.length_singleton]
      omega
    have later := ih room'
    rw [List.append_assoc, List.singleton_append] at later
    exact due ▸ .cons (.row some letter isRow) later

theorem run_surplus (size : Dimensions) (rows : List Row) (surplus : Nat)
    {extra : List (List String)} (some : ∀ words ∈ extra, words ≠ [])
    (none : ∀ words ∈ extra, Count.ofTokens? words = none) :
    Run (afterRows size rows surplus) extra (afterRows size rows (surplus + extra.length)) := by
  induction extra generalizing surplus with
  | nil => exact .nil
  | cons words extra ih =>
    obtain ⟨some,others⟩ := List.forall_mem_cons.mp some
    obtain ⟨none,none'⟩ := List.forall_mem_cons.mp none
    have later := ih (surplus + 1) others none'
    rw [List.length_cons, Nat.add_comm extra.length, ← Nat.add_assoc]
    exact .cons (.surplus some none) later

theorem run_complete (M : Automaton) (anything : List (List String)) :
    Run (complete M) anything (complete M) := by
  induction anything with
  | nil => exact .nil
  | cons words rest ih => exact .cons .ignored ih

theorem run_body {body : List (List String)}
    (isBody : size.IsBody rows body) (room : rows.length ≤ size.stateCount) :
    Run start body (holding size rows) := by
  have range := isBody.inRange
  cases isBody with
  | lines isHeader areRows =>
    have begun : holding size [] = inRows size [] := if_neg (Nat.ne_of_lt range.states.1)
    have room' : ([] : List Row).length + rows.length ≤ size.stateCount := by simpa using room
    exact .cons (.header isHeader) (begun ▸ run_rows range areRows room')

theorem run_full {body : List (List String)} (isBody : size.IsBody rows body)
    (count : rows.length = size.stateCount) : Run start body (afterRows size rows 0) := by
  have read := run_body isBody (Nat.le_of_eq count)
  rwa [holding, if_pos count] at read

/-- The lines that a stage stands for lead to it. -/
theorem run_of_covers {taken : List (List String)} (covers : p.Covers taken)
    (some : ∀ words ∈ taken, words ≠ []) : Run start taken p := by
  cases covers with
  | start => exact .nil
  | inRows isBody due =>
    have read := run_body isBody (Nat.le_of_lt due)
    rwa [holding, if_neg (Nat.ne_of_lt due)] at read
  | afterRows isBody count none length =>
    refine (run_full isBody count).append ?_
    simpa only [Nat.zero_add, length] using
      run_surplus _ _ 0 (List.forall_mem_append.mp some).2 none
  | beforeFinals isBody count known => exact (run_full isBody count).snoc (.count known)
  | complete isBody count known length names =>
    have listed := (List.forall_mem_cons.mp (List.forall_mem_cons.mp
      (List.forall_mem_append.mp some).2).2).1
    exact (run_full isBody count).append
      (.cons (.count known) (.cons (.finals listed length names) (run_complete _ _)))

/-- Lines that are not blank lead exactly to the stage that stands for them. -/
theorem feed_eq_ok_iff_covers (some : ∀ line ∈ given, tokens line ≠ []) :
    start.feed given = .ok p ↔ p.Covers (given.map tokens) := by
  constructor
  · intro fed
    have covers := feed_covers fed
    rwa [Text.solid, List.filter_eq_self.mpr (by simpa using some)] at covers
  · intro covers
    apply feed_eq_ok_iff_run.mpr
    apply run_of_covers covers
    intro words member
    obtain ⟨line,inside,rfl⟩ := List.mem_map.mp member
    exact some line inside

end Progress

end DigitAutomata
