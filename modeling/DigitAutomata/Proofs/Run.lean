import DigitAutomata.Proofs.Construction
import DigitAutomata.Proofs.Layout
import DigitAutomata.Table.Load

/-! Whole runs of the table reader. `feed` takes every line, also those after the table is complete;
a load stops early. Both come to the same automaton or error, because nothing that follows a complete
table is looked at. -/
namespace DigitAutomata

open Text (tokens solid)

namespace Progress

/-- Takes all lines in turn, up to the first that breaks a rule. -/
def feed (p : Progress) : List String → Except TableError Progress
  | [] => .ok p
  | line :: rest => (p.advance line).bind fun next => next.feed rest

/-- What the lines come to when the source ends after them. -/
def outcome (p : Progress) (given : List String) : Except TableError Automaton :=
  (p.feed given).bind finish

variable {p last : Progress} {M : Automaton} {e : TableError}
  {line : String} {given rest : List String}

theorem advance_blank (p : Progress) (blank : tokens line = []) : p.advance line = .ok p := by
  simp [advance, blank]

theorem advance_solid (p : Progress) (words : tokens line ≠ []) :
    p.advance line = p.take line (tokens line) := by
  unfold advance
  split
  next blank => contradiction
  next => rfl

@[simp] theorem advance_complete (M : Automaton) (line : String) :
    (complete M).advance line = .ok (complete M) := by
  simp only [advance]
  split <;> rfl

@[simp] theorem feed_nil (p : Progress) : p.feed [] = .ok p := rfl

theorem feed_ok {next : Progress} (step : p.advance line = .ok next) :
    p.feed (line :: rest) = next.feed rest := by
  simp [feed, step, Except.bind]

theorem feed_error (step : p.advance line = .error e) : p.feed (line :: rest) = .error e := by
  simp [feed, step, Except.bind]

/-- A run that succeeds has a first step that succeeds. -/
theorem feed_cons (fed : p.feed (line :: rest) = .ok last) :
    ∃ next, p.advance line = .ok next ∧ next.feed rest = .ok last :=
  bind_eq_ok_iff.mp fed

theorem feed_append (p : Progress) (front back : List String) :
    p.feed (front ++ back) = (p.feed front).bind fun next => next.feed back := by
  induction front generalizing p with
  | nil => rfl
  | cons line front ih =>
    rw [List.cons_append]
    cases step : p.advance line with
    | error e => rw [feed_error step, feed_error step]; rfl
    | ok next => rw [feed_ok step, feed_ok step, ih]

@[simp] theorem feed_complete (M : Automaton) (given : List String) :
    (complete M).feed given = .ok (complete M) := by
  induction given with
  | nil => rfl
  | cons line rest ih => rw [feed_ok (advance_complete M line), ih]

/-- A run fails at a line that breaks a rule and that the lines before it lead up to. -/
theorem feed_eq_error_iff : p.feed given = .error e ↔ ∃ front line rest next,
    given = front ++ line :: rest ∧ p.feed front = .ok next ∧ next.advance line = .error e := by
  constructor
  · intro failed
    induction given generalizing p with
    | nil => contradiction
    | cons line rest ih =>
      cases step : p.advance line with
      | error e' =>
        have same := (feed_error step).symm.trans failed
        exact ⟨[],line,rest,p,rfl,rfl,step.trans same⟩
      | ok next =>
        obtain ⟨front,last,rest,before,split,fed,fault⟩ := ih ((feed_ok step).symm.trans failed)
        exact ⟨line :: front,last,rest,before,by rw [split, List.cons_append],
          (feed_ok step).trans fed,fault⟩
  · rintro ⟨front,line,rest,next,rfl,fed,fault⟩
    rw [feed_append, fed]
    exact feed_error fault

/-- Blank lines may be left out of a run. -/
theorem feed_solid (p : Progress) (given : List String) : p.feed (solid given) = p.feed given := by
  induction given generalizing p with
  | nil => rfl
  | cons line rest ih =>
    by_cases blank : tokens line = []
    · rw [Text.solid_blank blank, ih, feed_ok (p.advance_blank blank)]
    · rw [Text.solid_cons blank]
      cases step : p.advance line with
      | error e => rw [feed_error step, feed_error step]
      | ok next => rw [feed_ok step, feed_ok step, ih]

@[simp] theorem outcome_nil (p : Progress) : p.outcome [] = p.finish := rfl

theorem outcome_ok {next : Progress} (step : p.advance line = .ok next) :
    p.outcome (line :: rest) = next.outcome rest := by
  simp [outcome, feed_ok step]

theorem outcome_error (step : p.advance line = .error e) :
    p.outcome (line :: rest) = .error e := by
  simp [outcome, feed_error step, Except.bind]

theorem outcome_cons (done : p.outcome (line :: rest) = .ok M) :
    ∃ next, p.advance line = .ok next ∧ next.outcome rest = .ok M := by
  cases step : p.advance line with
  | error e => rw [outcome_error step] at done; contradiction
  | ok next => exact ⟨next,rfl,by rwa [outcome_ok step] at done⟩

@[simp] theorem outcome_complete (M : Automaton) (given : List String) :
    (complete M).outcome given = .ok M := by
  simp [outcome, Except.bind, finish]

theorem outcome_append (p : Progress) (front back : List String) :
    p.outcome (front ++ back) = (p.feed front).bind fun next => next.outcome back := by
  rw [outcome, feed_append]
  cases p.feed front <;> rfl

theorem outcome_solid (p : Progress) (given : List String) :
    p.outcome (solid given) = p.outcome given := by
  simp only [outcome, feed_solid]

theorem outcome_feed (done : p.outcome given = .ok M) :
    ∃ last, p.feed given = .ok last ∧ last.finish = .ok M :=
  bind_eq_ok_iff.mp done

theorem isComplete_iff : p.isComplete = true ↔ ∃ M, p = complete M := by
  cases p <;> simp [isComplete]

theorem value_read (p : Progress) (line : String) : (p.read line).value = p.advance line := by
  simp only [read]
  split
  next e step => simp [step]
  next next step => split <;> simp [step]

end Progress

namespace Reading

/-- The lines that are read before the first failure. -/
def sound : List Reading → List String
  | .line text :: rest => text :: sound rest
  | _ => []

@[simp] theorem sound_lines (given : List String) : sound (given.map .line) = given := by
  induction given with
  | nil => rfl
  | cons line rest ih => simp [sound, ih]

/-- After the sound lines a device ends or fails. -/
theorem sound_append (readings : List Reading) :
    ∃ tail, readings = (sound readings).map .line ++ tail ∧
      (tail = [] ∨ ∃ cause rest, tail = .failure cause :: rest) := by
  induction readings with
  | nil => exact ⟨[],rfl,.inl rfl⟩
  | cons reading rest ih =>
    cases reading with
    | line text =>
      obtain ⟨tail,split,ends⟩ := ih
      exact ⟨tail,by simpa [sound] using split,ends⟩
    | failure cause => exact ⟨.failure cause :: rest,rfl,.inr ⟨cause,rest,rfl⟩⟩

end Reading

namespace Automaton

open Progress

@[simp] theorem value_conclude (origin : String) (p : Progress) :
    (conclude origin p).value = p.finish := by
  simp only [conclude]
  split
  next e failed => simp [failed]
  next M done => simp [done]

/-- The early end of a load does not show: only what comes before the end of the lines, or before a
failure, is decided by the plain run. -/
theorem value_loadFrom (origin : String) (p : Progress) (given : List String)
    (tail : List Reading) (unfinished : p.isComplete = false) :
    (loadFrom origin p (given.map .line ++ tail)).value =
      (p.feed given).bind fun last =>
        if last.isComplete then last.finish else (loadFrom origin last tail).value := by
  induction given generalizing p with
  | nil => simp [Except.bind, unfinished]
  | cons line rest ih =>
    rw [List.map_cons, List.cons_append, loadFrom, Journaled.value_bind, value_read]
    cases step : p.advance line with
    | error e => simp [feed_error step, Except.bind]
    | ok next =>
      rw [feed_ok step]
      by_cases complete : next.isComplete = true
      · obtain ⟨M,rfl⟩ := isComplete_iff.mp complete
        simp [isComplete, Except.bind]
      · have unfinished : next.isComplete = false := by simpa using complete
        simpa [unfinished] using ih next unfinished

theorem value_load_lines (origin : String) (given : List String) :
    (load origin (given.map .line)).value = Progress.start.outcome given := by
  have value := value_loadFrom origin .start given [] rfl
  rw [List.append_nil] at value
  rw [load, value, outcome]
  congr 1
  funext last
  simp [loadFrom]

theorem parse_eq_outcome (source : String) :
    parse source = Progress.start.outcome (Text.lines source) :=
  value_load_lines "<string>" (Text.lines source)

/-- A load that succeeds has seen no failure, so it read the lines before the first one. -/
theorem load_outcome (loaded : (load origin readings).value = .ok M) :
    Progress.start.outcome (Reading.sound readings) = .ok M := by
  obtain ⟨tail,split,ends⟩ := Reading.sound_append readings
  rw [split, load, value_loadFrom _ _ _ _ rfl] at loaded
  obtain ⟨last,fed,loaded⟩ := bind_eq_ok_iff.mp loaded
  have finished : last.finish = .ok M := by
    split at loaded
    next => exact loaded
    next =>
      rcases ends with rfl | ⟨cause,rest,rfl⟩
      · simpa [loadFrom] using loaded
      · simp [loadFrom] at loaded
  exact bind_eq_ok_iff.mpr ⟨last,fed,finished⟩

end Automaton

end DigitAutomata
