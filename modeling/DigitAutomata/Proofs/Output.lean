import DigitAutomata.Proofs.Session
import DigitAutomata.Proofs.Transcript

/-! What a run prints on standard output. A run that succeeds prints its report, in one JSON document or
behind the table of the automaton; a run that fails prints nothing but that table, and no more than that
once the automaton is known. A reader of JSON never meets anything else. -/
namespace DigitAutomata.Session

open Text (Palette)

/-- How a run ends once the settings are known, with its result and what it prints. -/
inductive Exit (s : Surroundings) (settings : Settings) (word : Option String) :
    Except String Unit → String → Prop where
  | unloaded : (∀ M left, ¬Loads s settings M left) → Exit s settings word (.error message) ""
  | unread : Loads s settings M left → (∀ e, ¬Completes s settings word M e) →
      Exit s settings word (.error message) (preamble (s.paletteFor settings) settings M)
  | completed : Completes s settings word M e → Exit s settings word (.ok ())
      (preamble (s.paletteFor settings) settings M ++
        report (s.paletteFor settings) settings.effectiveOutput M e)

variable {p : Palette} {M : Automaton} {e : Evaluation} {s : Surroundings}
  {settings saved : Settings} {options : Options} {word : Option String} {left : List Reading}
  {result : Except String Unit} {out message : String}

/-- The result of a run and what it prints if the editor prints nothing. -/
def quietly (s : Surroundings) (settings : Settings) (word : Option String) :
    Except String Unit × String :=
  conclusion (s.paletteFor settings) settings "" "" (choose s settings).value.automaton
    (givenWord word (choose s settings).value.input)

theorem preamble_json (json : settings.effectiveOutput = .json) : preamble p settings M = "" := by
  simp [preamble, json]

theorem preamble_text (text : settings.effectiveOutput = .text) :
    preamble p settings M = if settings.effectiveShow then tableBlock p M else "" := by
  simp [preamble, text]

/-- The printed document and the line feed after it are read as one JSON value. -/
theorem ofText?_report_json (p : Palette) (M : Automaton) (e : Evaluation) :
    Json.ofText? (report p .json M e) = some (Report.evaluationJson M e) :=
  Json.ofText?_pretty_append (Report.plain_evaluationJson M e) "\n" (by simp [Json.isSpace])

theorem quietly_exit (s : Surroundings) (settings : Settings) (word : Option String) :
    Exit s settings word (quietly s settings word).1 (quietly s settings word).2 := by
  rw [quietly]
  cases chosen : (choose s settings).value.automaton with
  | error message =>
    apply Exit.unloaded
    intro M left loads
    cases chosen.symm.trans (choose_iff.mpr loads).1
  | ok M =>
    have loads : Loads s settings M (choose s settings).value.input := choose_iff.mp ⟨chosen,rfl⟩
    -- A run that completes has this input and so this word.
    have reads : ∀ e, Completes s settings word M e → ∃ text,
        givenWord word (choose s settings).value.input = .ok text ∧ M.evaluate text = .ok e := by
      rintro e ⟨left,text,loads',gives,read⟩
      obtain ⟨_,rfl⟩ := loads.unique loads'
      exact ⟨text,givenWord_iff.mpr gives,read⟩
    cases given : givenWord word (choose s settings).value.input with
    | error message =>
      simp only [conclusion, String.empty_append, String.append_empty]
      refine .unread loads fun e completes => ?_
      obtain ⟨text,known,_⟩ := reads e completes
      cases given.symm.trans known
    | ok text =>
      simp only [conclusion, String.empty_append, String.append_empty]
      cases read : M.evaluate text with
      | error fault =>
        refine .unread loads fun e completes => ?_
        obtain ⟨text',known,done⟩ := reads e completes
        obtain rfl := Except.ok.inj (given.symm.trans known)
        cases read.symm.trans done
      | ok e => exact .completed ⟨_,text,loads,givenWord_iff.mp given,read⟩

/-- Whatever the editor prints, the result is the one that it would be in silence. -/
theorem run_result (loaded : (s.settings options.config).value = .ok saved) :
    (run s options).value.result = (quietly s (saved.merge options) options.word).1 := by
  have result := congrArg Prod.fst (run_conclusion s options loaded)
  exact result.trans (conclusion_result _ _ _ _)

theorem run_out (loaded : (s.settings options.config).value = .ok saved)
    (silent : (saved.merge options).defaultFile = none ∨ options.word = none → s.Silent) :
    (run s options).value.out = (quietly s (saved.merge options) options.word).2 := by
  have out := congrArg Prod.snd (run_conclusion s options loaded)
  rw [choose_silent fun unnamed => silent (.inl unnamed),
    wordAsked_silent fun unasked => silent (.inr unasked)] at out
  exact out

theorem Exit.ok_iff (exit : Exit s settings word result out) :
    result = .ok () ↔ ∃ M e, Completes s settings word M e := by
  cases exit with
  | unloaded none =>
    refine iff_of_false nofun ?_
    rintro ⟨M,e,left,_,loads,_⟩
    exact none M left loads
  | unread loads stuck =>
    refine iff_of_false nofun ?_
    rintro ⟨M,e,left,text,loads',read⟩
    obtain ⟨rfl,_⟩ := loads.unique loads'
    exact stuck e ⟨left,text,loads',read⟩
  | completed done => exact iff_of_true rfl ⟨_,_,done⟩

theorem Exit.out_of_completes (exit : Exit s settings word result out)
    (completes : Completes s settings word M e) :
    out = preamble (s.paletteFor settings) settings M ++
      report (s.paletteFor settings) settings.effectiveOutput M e := by
  have done := exit.ok_iff.mpr ⟨M,e,completes⟩
  cases exit with
  | unloaded => contradiction
  | unread => contradiction
  | completed completes' =>
    obtain ⟨rfl,rfl⟩ := completes.unique completes'
    rfl

theorem Exit.out_of_error (exit : Exit s settings word (.error message) out) :
    (∀ M left, Loads s settings M left → out = preamble (s.paletteFor settings) settings M) ∧
    ((∀ M left, ¬Loads s settings M left) → out = "") := by
  cases exit with
  | unloaded none => exact ⟨fun M left loads => absurd loads (none M left),fun _ => rfl⟩
  | unread loads _ =>
    refine ⟨fun M left loads' => ?_,fun none => absurd loads (none _ _)⟩
    rw [(loads.unique loads').1]

theorem Exit.out_of_silent (exit : Exit s settings word (.error message) out)
    (silent : ∀ M, preamble (s.paletteFor settings) settings M = "") : out = "" := by
  cases exit with
  | unloaded => rfl
  | unread => exact silent _

/-- What stands on standard output after a run. Without settings that load it is nothing. With an editor
that is silent, or where nothing is asked for, it is this. In JSON it is one document and a line feed if
the run succeeds, and nothing if it fails. In text it is a heading, the table of the automaton and an
empty line, unless that is turned off, and then the trace and the verdict if the run succeeds; if the run
fails it is the table alone, and nothing where no automaton was loaded. -/
theorem run_output (s : Surroundings) (options : Options) :
    let o := (run s options).value
    let loading := (s.settings options.config).value
    (∀ fault, loading = .error fault → o.result = .error fault.message ∧ o.out = "") ∧
    ∀ saved, loading = .ok saved →
      let settings := saved.merge options
      let p := s.paletteFor settings
      let table := fun M =>
        p.paint .bold "The automaton:" ++ "\n" ++ Report.automatonTable p M ++ "\n"
      (o.result = .ok () ↔ ∃ M e, Completes s settings options.word M e) ∧
      ((settings.defaultFile = none ∨ options.word = none → s.Silent) →
        (∀ M e, Completes s settings options.word M e →
          (settings.effectiveOutput = .json → o.out = Report.document M e ++ "\n" ∧
            Json.ofText? o.out = some (Report.evaluationJson M e)) ∧
          (settings.effectiveOutput = .text →
            o.out = (if settings.effectiveShow then table M else "") ++
              (Report.traceLine p e.trace ++ "\n" ++
                Report.verdictLine p e.trace.word e.verdict ++ "\n"))) ∧
        ∀ message, o.result = .error message →
          (settings.effectiveOutput = .json → o.out = "") ∧
          (settings.effectiveOutput = .text →
            (∀ M left, settings.effectiveShow = true → Loads s settings M left → o.out = table M) ∧
            (settings.effectiveShow = false ∨ (∀ M left, ¬Loads s settings M left) → o.out = ""))) := by
  intro o loading
  refine ⟨fun fault failed => ?_,fun saved loaded => ?_⟩
  · have ends : o = ⟨.error fault.message, "", "", s.files⟩ := run_of_error failed
    rw [ends]
    exact ⟨rfl,rfl⟩
  intro settings p table
  have exit : Exit s settings options.word o.result (quietly s settings options.word).2 :=
    (run_result loaded : o.result = _) ▸ quietly_exit s settings options.word
  refine ⟨exit.ok_iff,fun silent => ?_⟩
  have exit : Exit s settings options.word o.result o.out :=
    (run_out loaded silent : o.out = _) ▸ exit
  refine ⟨fun M e completes => ⟨fun json => ?_,fun text => ?_⟩,fun message failed => ?_⟩
  · have out := exit.out_of_completes completes
    rw [preamble_json json, json, String.empty_append] at out
    exact ⟨out,out ▸ ofText?_report_json p M e⟩
  · have out := exit.out_of_completes completes
    rw [preamble_text text, text] at out
    exact out
  · rw [failed] at exit
    obtain ⟨known,unknown⟩ := exit.out_of_error
    refine ⟨fun json => exit.out_of_silent fun M => preamble_json json,fun text => ⟨?_,?_⟩⟩
    · intro M left shown loads
      rw [known M left loads, preamble_text text, if_pos shown]
      rfl
    · rintro (hidden | none)
      · refine exit.out_of_silent fun M => ?_
        rw [preamble_text text, hidden]
        rfl
      · exact unknown none

/-- No place for settings, and settings that are no JSON; a document and then a text, with the file and the
word from the prompts; and the table alone before a bad symbol, on the automaton that tells odd from even.
That last run asks for nothing, so its editor may say what it likes. -/
theorem run_output_parity :
    let table := Text.encode "2 2\nB A\nA B\n1\nB"
    let files := ((FileSystem.empty []).put ["t"] (.file table)).put ["s"] (.file (Text.encode "["))
    let typed : List Reading := [.line "", .line "/t", .line "01"]
    let s : Surroundings := ⟨files, some "/c", typed, .plain, fun _ => ""⟩
    let nowhere : Surroundings := { s with configDirectory := none }
    let loud : Surroundings := { s with editor := id }
    let M := Automaton.ofRows 2 [[⟨1⟩, .start], [.start, ⟨1⟩]] [⟨1⟩]
    let e : Evaluation := ⟨⟨"01", [.start, ⟨1⟩, ⟨1⟩]⟩, .accepted⟩
    let json : Options := { output := some .json }
    let bad : Options := { file := some "/t", word := some "0x" }
    let message := "invalid symbol 'x' at position 1 (alphabet is 0..2) [invalid-symbol]\n" ++
      "  visited before failure: A B"
    ((nowhere.settings none).value = .error .noDirectory ∧
      (run nowhere {}).value.result = .error "Could not determine configuration directory" ∧
      (run nowhere {}).value.out = "") ∧
    ((s.settings (some "/s")).value = .error (.malformed "/s") ∧
      (run s { config := some "/s" }).value.out = "") ∧
    (s.settings none).value = .ok .default ∧ s.Silent ∧
    (Completes s (Settings.default.merge json) none M e ∧
      (run s json).value.result = .ok () ∧
      (run s json).value.out = Report.document M e ++ "\n" ∧
      Json.ofText? (run s json).value.out = some (Report.evaluationJson M e)) ∧
    (Completes s (Settings.default.merge {}) none M e ∧ (run s {}).value.result = .ok () ∧
      (run s {}).value.out = "The automaton:\n        0  1\n→ A    B A\n  B *  A B\n\n" ++
        "A --0--> B --1--> B\nThe word \"01\" is accepted.\n") ∧
    (Loads loud (Settings.default.merge bad) M typed ∧
      (run loud bad).value.result = .error message ∧
      (run loud bad).value.out = "The automaton:\n        0  1\n→ A    B A\n  B *  A B\n\n") := by
  intro table files typed s nowhere loud M e json bad message
  have homeless : (nowhere.settings none).value = .error .noDirectory := rfl
  have malformed : (s.settings (some "/s")).value = .error (.malformed "/s") := by decide +kernel
  have loaded : (s.settings none).value = .ok .default := by decide +kernel
  have silent : s.Silent := fun _ => rfl
  have opened : (Automaton.ofFile files "/t").value = .ok M := by decide +kernel
  have line : answer "/t" = "/t" := by decide +kernel
  have word : answer "01" = "01" := by decide +kernel
  have blank : answer "" = "" := by decide +kernel
  have prompted : Prompted files typed M [.line "01"] :=
    .passed (.inl blank) (.opened (by rw [line]; decide) (by rw [line]; exact opened))
  have completes : ∀ settings, settings.defaultFile = none → Completes s settings none M e :=
    fun settings unnamed =>
      ⟨[.line "01"],_,.prompted unnamed prompted,.prompted rfl,by rw [word]; decide +kernel⟩
  have loads : Loads loud (Settings.default.merge bad) M typed := .named rfl opened
  have failed : (run loud bad).value.result = .error message := by decide +kernel
  have asked : ¬((Settings.default.merge bad).defaultFile = none ∨ bad.word = none) := by decide
  obtain ⟨done,outputs⟩ := (run_output s json).2 _ loaded
  obtain ⟨done',outputs'⟩ := (run_output s {}).2 _ loaded
  obtain ⟨_,silently⟩ := (run_output loud bad).2 _ loaded
  have complete := completes (Settings.default.merge json) rfl
  have complete' := completes (Settings.default.merge {}) rfl
  have text := ((outputs' fun _ => silent).1 M e complete').2 rfl
  have alone := (((silently fun asks => absurd asks asked).2 message failed).2 rfl).1 M typed rfl loads
  exact ⟨⟨homeless,(run_output nowhere {}).1 _ homeless⟩,⟨malformed,((run_output s { config := some "/s" }).1 _ malformed).2⟩,loaded,silent,
    ⟨complete,done.mpr ⟨M,e,complete⟩,((outputs fun _ => silent).1 M e complete).1 rfl⟩,
    ⟨complete',done'.mpr ⟨M,e,complete'⟩,text.trans (by decide +kernel)⟩,
    loads,failed,alone.trans (by decide +kernel)⟩

end DigitAutomata.Session
