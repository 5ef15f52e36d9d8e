import DigitAutomata.Proofs.Encoding
import DigitAutomata.Proofs.Spacing

/-! When a load is settled. One line settles it: the first that breaks a rule or the one that completes
the table. What stands after that line, a failure of the device included, has no effect. Without such a
line the load comes down to the first failure or to the end of the lines. -/
namespace DigitAutomata

open Text (byteLines encode lines trim)

namespace Progress

theorem feed_eq_foldlM (p : Progress) (given : List String) :
    p.feed given = given.foldlM advance p := by
  induction given generalizing p with
  | nil => rfl
  | cons line rest ih =>
    rw [List.foldlM_cons, feed]
    congr 1
    funext next
    exact ih next

/-- One of the lines settles the load, with this result. -/
inductive Settles : List String → Except TableError Automaton → Prop
  | fault : start.feed front = .ok p → p.advance line = .error e →
      Settles (front ++ line :: rest) (.error e)
  | completion : start.feed front = .ok p → p.isComplete = false →
      p.advance line = .ok (complete M) → Settles (front ++ line :: rest) (.ok M)

variable {p : Progress} {given given' : List String} {M : Automaton}
  {result : Except TableError Automaton}

theorem Settles.append (settles : Settles given result) (more : List String) :
    Settles (given ++ more) result := by
  cases settles with
  | fault fed broken =>
    rw [List.append_assoc]
    exact .fault fed broken
  | completion fed unfinished done =>
    rw [List.append_assoc]
    exact .completion fed unfinished done

theorem ok_ne_settled (unfinished : p.isComplete = false) : Except.ok p ≠ result.map complete := by
  intro settled
  cases result with
  | error e => contradiction
  | ok M =>
    obtain rfl : p = complete M := Except.ok.inj settled
    contradiction

/-- A run comes to a complete table at the line that completes it. -/
theorem exists_completion (unfinished : p.isComplete = false)
    (fed : p.feed given = .ok (complete M)) : ∃ front line rest next,
      given = front ++ line :: rest ∧ p.feed front = .ok next ∧ next.isComplete = false ∧
      next.advance line = .ok (complete M) := by
  induction given generalizing p with
  | nil =>
    have settled : Except.ok p = Except.map complete (.ok M) := fed
    exact absurd settled (ok_ne_settled unfinished)
  | cons line rest ih =>
    obtain ⟨next,step,later⟩ := feed_cons fed
    by_cases done : next.isComplete = true
    · obtain ⟨N,rfl⟩ := isComplete_iff.mp done
      rw [feed_complete] at later
      exact ⟨[],line,rest,p,rfl,rfl,unfinished,step.trans later⟩
    · obtain ⟨front,last,rest,before,split,fed,pending,done⟩ := ih (by simpa using done) later
      exact ⟨line :: front,last,rest,before,by rw [split, List.cons_append],
        (feed_ok step).trans fed,pending,done⟩

/-- The plain run over all lines tells whether one of them settles the load. -/
theorem settles_iff : Settles given result ↔ start.feed given = result.map complete := by
  constructor
  · rintro (⟨fed,broken⟩ | ⟨fed,_,done⟩)
    · rw [feed_append, fed]
      exact feed_error broken
    · rw [feed_append, fed]
      exact (feed_ok done).trans (feed_complete _ _)
  · intro fed
    cases result with
    | error e =>
      obtain ⟨front,line,rest,next,rfl,before,broken⟩ := feed_eq_error_iff.mp fed
      exact .fault before broken
    | ok M =>
      obtain ⟨front,line,rest,next,rfl,before,unfinished,done⟩ := exists_completion rfl fed
      exact .completion before unfinished done

/-- A line settles a load by what stands between the blanks at its ends. -/
theorem Settles.of_trim (settles : Settles given result) (same : given.map trim = given'.map trim) :
    Settles given' result := by
  rw [settles_iff] at settles ⊢
  rw [← feed_of_trim start same, settles]

/-- Without a line that settles the load the run goes on to the end of the lines. -/
theorem not_settles_iff : (∀ result, ¬Settles given result) ↔
    ∃ p, start.feed given = .ok p ∧ p.isComplete = false := by
  simp only [settles_iff]
  constructor
  · intro unsettled
    cases fed : start.feed given with
    | error e => exact absurd fed (unsettled (.error e))
    | ok p =>
      refine ⟨p,rfl,?_⟩
      cases p with
      | complete M => exact absurd fed (unsettled (.ok M))
      | _ => rfl
  · rintro ⟨p,fed,unfinished⟩ result settled
    exact ok_ne_settled unfinished (fed.symm.trans settled)

end Progress

open Progress

namespace Reading

variable {result : Except TableError Automaton} {text text' : String}

/-- The first failure of the device. -/
def failure? : List Reading → Option FileError
  | [] => none
  | .line _ :: rest => failure? rest
  | .failure cause :: _ => some cause

@[simp] theorem failure?_lines_append (given : List String) (tail : List Reading) :
    failure? (given.map .line ++ tail) = failure? tail := by
  induction given with
  | nil => rfl
  | cons line rest ih => exact ih

theorem sound_prefix (front back : List Reading) :
    ∃ more, sound (front ++ back) = sound front ++ more := by
  induction front with
  | nil => exact ⟨sound back,rfl⟩
  | cons reading front ih =>
    cases reading with
    | line text =>
      obtain ⟨more,split⟩ := ih
      exact ⟨more,congrArg (text :: ·) split⟩
    | failure cause => exact ⟨[],rfl⟩

theorem sound_failure (front : List Reading) (cause : FileError) :
    sound (front ++ [.failure cause]) = sound front := by
  induction front with
  | nil => rfl
  | cons reading front ih =>
    cases reading with
    | line text => exact congrArg (text :: ·) ih
    | failure cause => rfl

theorem map_trim_sound_congr (front : List Reading) (same : trim text = trim text') :
    (sound (front ++ [.line text])).map trim = (sound (front ++ [.line text'])).map trim := by
  induction front with
  | nil => simp [sound, same]
  | cons reading front ih =>
    cases reading with
    | line text => exact congrArg (trim text :: ·) ih
    | failure cause => rfl

theorem settles_append (settles : Settles (sound front) result) (back : List Reading) :
    Settles (sound (front ++ back)) result := by
  obtain ⟨more,split⟩ := sound_prefix front back
  rw [split]
  exact settles.append more

/-- A line feed ends what was read before it: the readings up to there do not depend on what follows,
and a load that is settled without the line feed is settled by them. -/
theorem ofStream_feed (front : List UInt8) : ∃ before,
    (∀ rest, ofStream (front ++ 10 :: rest) = before ++ ofStream rest) ∧
    (∀ rest cause, ofFailingStream (front ++ 10 :: rest) cause =
      before ++ ofFailingStream rest cause) ∧
    ∀ result, Settles (sound (ofStream front)) result → Settles (sound before) result := by
  obtain ⟨last,unended,cut⟩ := Text.split_append 10 13 front
  refine ⟨(byteLines front).ended.map ofBytes ++ [ofBytes last],fun rest => ?_,
    fun rest cause => ?_,?_⟩
  · rw [ofStream, byteLines, cut, List.append_cons, Text.all_append]
    simp [ofStream, byteLines]
  · rw [ofFailingStream, byteLines, cut]
    simp [ofFailingStream, byteLines]
  intro result settles
  by_cases ended : (Text.Lines.split 10 13 front).rest = []
  · rw [ofStream, byteLines, Text.Lines.all, if_pos ended] at settles
    exact settles_append settles _
  rw [ofStream, byteLines, Text.Lines.all, if_neg ended, List.map_append,
    List.map_singleton] at settles
  rcases unended with same | returned
  · rwa [same] at settles
  -- Without the line feed the carriage return is a part of the line, as a blank at its end.
  rw [returned] at settles
  cases decoded : Text.decode? (last ++ [13]) with
  | none =>
    rw [ofBytes, decoded, sound_failure] at settles
    exact settles_append settles _
  | some text =>
    obtain ⟨kept,alone,rfl⟩ := Text.decode?_append_ret decoded
    have same : trim (kept ++ "\r") = trim kept :=
      Text.trim_append_blank (by decide) kept
    rw [ofBytes, decoded] at settles
    rw [ofBytes, alone]
    exact settles.of_trim (map_trim_sound_congr _ same)

end Reading

namespace Automaton

open Reading

variable {readings : List Reading} {result : Except TableError Automaton}

/-- Once a load is settled nothing more is read, so nothing more is recorded either. -/
theorem loadFrom_append (origin : String) (unfinished : p.isComplete = false)
    (settled : p.feed (sound readings) = result.map complete) (more : List Reading) :
    loadFrom origin p (readings ++ more) = loadFrom origin p readings := by
  induction readings generalizing p with
  | nil => exact absurd settled (ok_ne_settled unfinished)
  | cons reading rest ih =>
    cases reading with
    | failure cause => exact absurd settled (ok_ne_settled unfinished)
    | line text =>
      rw [List.cons_append, loadFrom, loadFrom]
      apply Journaled.bind_congr
      rw [value_read]
      cases step : p.advance text with
      | error e => rfl
      | ok next =>
        by_cases done : next.isComplete = true
        · simp only [if_pos done]
        · simp only [if_neg done]
          rw [sound, feed_ok step] at settled
          exact ih (by simpa using done) settled

theorem load_settled (origin : String) (settles : Settles (sound readings) result) :
    (load origin readings).value = result := by
  obtain ⟨tail,split,_⟩ := sound_append readings
  have value := value_loadFrom origin .start (sound readings) tail rfl
  rw [← split, settles_iff.mp settles] at value
  rw [load, value]
  cases result <;> rfl

theorem load_unsettled (origin : String) (unsettled : ∀ result, ¬Settles (sound readings) result) :
    ∃ p, start.feed (sound readings) = .ok p ∧ (load origin readings).value =
      match failure? readings with
      | some cause => .error (.unreadable origin cause)
      | none => p.finish := by
  obtain ⟨p,fed,unfinished⟩ := not_settles_iff.mp unsettled
  obtain ⟨tail,split,ends⟩ := sound_append readings
  have value := value_loadFrom origin .start (sound readings) tail rfl
  have failure : failure? readings = failure? tail := by
    rw [split, failure?_lines_append]
  rw [← split, fed] at value
  refine ⟨p,fed,?_⟩
  rw [load, value, failure]
  rcases ends with rfl | ⟨cause,rest,rfl⟩
  · simp [Except.bind, unfinished, loadFrom, failure?]
  · simp [Except.bind, unfinished, loadFrom, failure?]

/-- How a load ends. A line that settles it is the last one that counts. Without one the first failure
of the device is reported, and without a failure the lines are at their end. So two devices that agree
as far as such a line, ended or not, are loaded alike, and a text, its encoding and a file that holds it
all come to what the plain run over all lines comes to. -/
theorem load_settlement :
    (∀ origin readings result, Settles (sound readings) result →
      (load origin readings).value = result ∧
      ∀ more, load origin (readings ++ more) = load origin readings) ∧
    (∀ origin readings, (∀ result, ¬Settles (sound readings) result) → ∃ p,
      start.feed (sound readings) = .ok p ∧ (load origin readings).value =
        match failure? readings with
        | some cause => .error (.unreadable origin cause)
        | none => p.finish) ∧
    (∀ origin front result, Settles (sound (ofStream front)) result ∨
        Settles (sound (ofStream (front ++ [10]))) result → ∀ rest cause,
      (load origin (ofStream (front ++ 10 :: rest))).value = result ∧
      (load origin (ofFailingStream (front ++ 10 :: rest) cause)).value = result) ∧
    (∀ source, parse source = ((lines source).foldlM advance start >>= finish) ∧
      (ofReadings (ofStream (encode source))).value = parse source ∧
      ∀ files path, files.read path = .ok (encode source) →
        (ofFile files path).value = parse source) := by
  refine ⟨?_,fun origin readings => load_unsettled origin,?_,?_⟩
  · intro origin readings result settles
    exact ⟨load_settled origin settles,loadFrom_append origin rfl (settles_iff.mp settles)⟩
  · intro origin front result settles rest cause
    obtain ⟨before,whole,failing,unended⟩ := ofStream_feed front
    have settles : Settles (sound before) result := by
      rcases settles with opened | ended
      · exact unended result opened
      · rw [whole []] at ended
        exact List.append_nil before ▸ ended
    rw [whole, failing]
    exact ⟨load_settled origin (settles_append settles _),
      load_settled origin (settles_append settles _)⟩
  · intro source
    have encoded : ∀ origin, (load origin (ofStream (encode source))).value = parse source := by
      intro origin
      rw [ofStream_encode, Reading.ofText, value_load_lines, parse_eq_outcome]
    refine ⟨?_,encoded "<reader>",fun files path content => ?_⟩
    · rw [parse_eq_outcome, outcome, feed_eq_foldlM]
      rfl
    · rw [ofFile, Journaled.value_bind, FileSystem.read_eq_ok_iff.mp content]
      exact encoded path

/-- A row that is too wide and a list of final states, each before a byte that encodes nothing; that
byte before the rows; a line that ends in a carriage return and is the last one to count, and a file. -/
theorem load_settlement_cases :
    let wide : TableError := .rowWidth ⟨0⟩ 2 1
    let M := ofRows 1 [[⟨0⟩]] [⟨0⟩]
    let table := ["1 1", "A", "1", "A"]
    let front := encode "1 1\nA A\r"
    let files := (FileSystem.empty []).put ["t"] (.file (encode "1 1\nA\n0"))
    ((Settles ["1 1", "A A"] (.error wide) ∧
      (load "t" [.line "1 1", .line "A A", .failure .invalidUtf8]).value = .error wide) ∧
      (Settles table (.ok M) ∧
        load "t" (table.map .line ++ [.failure .invalidUtf8]) = load "t" (table.map .line))) ∧
    ((∀ result, ¬Settles ["1 1"] result) ∧
      (load "t" [.line "1 1", .failure .invalidUtf8, .line "A"]).value =
        .error (.unreadable "t" .invalidUtf8)) ∧
    (Settles (sound (ofStream front)) (.error wide) ∧
      (load "t" (ofStream (front ++ 10 :: [255]))).value = .error wide ∧
      (load "t" (ofFailingStream (front ++ 10 :: [255]) (.device "broken"))).value = .error wide) ∧
    files.read "/t" = .ok (encode "1 1\nA\n0") ∧ (ofFile files "/t").value = parse "1 1\nA\n0" := by
  intro wide M table front files
  have fault : Settles ["1 1", "A A"] (.error wide) := settles_iff.mpr (by decide +kernel)
  have done : Settles table (.ok M) := settles_iff.mpr (by decide +kernel)
  have still : ∀ result, ¬Settles ["1 1"] result :=
    not_settles_iff.mpr ⟨.inRows ⟨1, 1⟩ [],by decide +kernel,rfl⟩
  have last : Settles (sound (ofStream front)) (.error wide) := settles_iff.mpr (by decide +kernel)
  have content : files.read "/t" = .ok (encode "1 1\nA\n0") := by decide +kernel
  obtain ⟨_,_,reported⟩ := load_settlement.2.1 "t" [.line "1 1", .failure .invalidUtf8, .line "A"] still
  exact ⟨⟨⟨fault,(load_settlement.1 "t" [.line "1 1", .line "A A", .failure .invalidUtf8] _ fault).1⟩,
    done,(load_settlement.1 "t" (table.map .line) _ (by rwa [sound_lines])).2 _⟩,⟨still,reported⟩,
    ⟨last,load_settlement.2.2.1 "t" front _ (.inl last) [255] (.device "broken")⟩,content,
    (load_settlement.2.2.2 _).2.2 files "/t" content⟩

end Automaton

end DigitAutomata
