import DigitAutomata.Proofs.Construction
import DigitAutomata.Session

/-! What a run comes to. It asks for an automaton and then for a word, and these two settle its result and
what it prints. The prompts pass over blank lines and over files that cannot be read; any other line
settles which automaton it is, or that there is none. What the line editor prints to ask for them is part
of the output; a statement that leaves it out names the assumption that the editor is silent. -/
namespace DigitAutomata

/-- The line editor prints no prompt, as it is for a file or pipe. -/
def Surroundings.Silent (s : Surroundings) : Prop := ∀ prompt, s.editor prompt = ""

namespace Session

open Automaton (ofFile)
open Text (Palette)

/-- The prompt for a file is repeated after this line. -/
def Passes (files : FileSystem) (line : String) : Prop :=
  answer line = "" ∨ ∃ origin cause,
    (ofFile files (answer line)).value = .error (.unreadable origin cause)

/-- The prompts lead to this automaton, and this input is left after the line that names its file. -/
inductive Prompted (files : FileSystem) : List Reading → Automaton → List Reading → Prop where
  | passed : Passes files line → Prompted files rest M left →
      Prompted files (.line line :: rest) M left
  | opened : answer line ≠ "" → (ofFile files (answer line)).value = .ok M →
      Prompted files (.line line :: rest) M rest

/-- The run works with this automaton and has this input left for the word. -/
inductive Loads (s : Surroundings) (settings : Settings) : Automaton → List Reading → Prop where
  | named : settings.defaultFile = some path → (ofFile s.files path).value = .ok M →
      Loads s settings M s.input
  | prompted : settings.defaultFile = none → Prompted s.files s.input M left →
      Loads s settings M left

/-- The word is given as an option, or else by the next line. -/
inductive Gives (left : List Reading) : Option String → String → Prop where
  | option : Gives left (some text) text
  | prompted : left = .line line :: rest → Gives left none (answer line)

/-- The run reads its word on this automaton to the end. -/
def Completes (s : Surroundings) (settings : Settings) (word : Option String) (M : Automaton)
    (e : Evaluation) : Prop :=
  ∃ left text, Loads s settings M left ∧ Gives left word text ∧ M.evaluate text = .ok e

/-- The word that a run goes on with, given what is left of the input. -/
def givenWord (word : Option String) (left : List Reading) : Except String String :=
  word.elim (askWord left) Except.ok

/-- The result of a run and what it prints, from the automaton and the word that it came to. Asking for
the file printed `shown`, and asking for the word prints `asked`. -/
def conclusion (p : Palette) (settings : Settings) (shown asked : String) :
    Except String Automaton → Except String String → Except String Unit × String
  | .error message, _ => (.error message, shown)
  | .ok M, .error message => (.error message, shown ++ preamble p settings M ++ asked)
  | .ok M, .ok text =>
    let before := shown ++ preamble p settings M ++ asked
    match M.evaluate text with
    | .error e => (.error (Report.wordError p e), before)
    | .ok e => (.ok (), before ++ report p settings.effectiveOutput M e)

variable {files : FileSystem} {p : Palette} {line path text complaint shown asked : String}
  {readings rest left : List Reading} {M : Automaton} {e : Evaluation} {s : Surroundings}
  {settings saved : Settings} {word : Option String} {automaton : Except String Automaton}
  {options : Options}

theorem answer_eq_trim (kept : '\x08' ∉ line.toList) : answer line = Text.trim line := by
  rw [answer, Text.applyBackspaces_of_not_mem kept]

theorem reply_again_iff : (∃ complaint, (reply files p line).value = .again complaint) ↔
    Passes files line := by
  by_cases blank : answer line = ""
  · simp [reply, Passes, blank]
  · simp only [reply, Passes, blank, if_false, Journaled.value_bind, false_or]
    cases (ofFile files (answer line)).value with
    | ok M => simp
    | error e => cases e <;> simp

theorem reply_settled_iff : (reply files p line).value = .settled (.ok M) ↔
    answer line ≠ "" ∧ (ofFile files (answer line)).value = .ok M := by
  by_cases blank : answer line = ""
  · simp [reply, blank]
  · simp only [reply, blank, if_false, Journaled.value_bind]
    cases (ofFile files (answer line)).value with
    | ok M => simp [blank]
    | error e => cases e <;> simp

/-- A path that can be read settles the automaton, or that there is none. -/
theorem reply_readable (answered : answer line = path) (named : path ≠ "")
    (readable : ¬∃ origin cause, (ofFile files path).value = .error (.unreadable origin cause)) :
    (reply files p line).value =
      .settled ((ofFile files path).value.mapError (Report.tableError p)) := by
  simp only [reply, answered, named, if_false, Journaled.value_bind]
  cases loaded : (ofFile files path).value with
  | ok M => rfl
  | error e =>
    cases e with
    | unreadable origin cause => exact absurd ⟨origin,cause,loaded⟩ readable
    | _ => rfl

theorem askFile_again (replied : (reply files p line).value = .again complaint) :
    (askFile files p shown (.line line :: rest)).value =
      { (askFile files p shown rest).value with
        asked := shown ++ (askFile files p shown rest).value.asked
        warnings := complaint ++ (askFile files p shown rest).value.warnings } := by
  rw [askFile, Journaled.value_bind, replied]
  rfl

theorem askFile_settled (replied : (reply files p line).value = .settled automaton) :
    (askFile files p shown (.line line :: rest)).value = ⟨automaton, shown, "", rest⟩ := by
  rw [askFile, Journaled.value_bind, replied]
  rfl

theorem askFile_iff : (askFile files p shown readings).value.automaton = .ok M ∧
    (askFile files p shown readings).value.input = left ↔ Prompted files readings M left := by
  induction readings with
  | nil => exact iff_of_false (fun asked => nomatch asked.1) (fun prompted => nomatch prompted)
  | cons reading rest ih =>
    cases reading with
    | failure cause => exact iff_of_false (fun asked => nomatch asked.1) (fun prompted => nomatch prompted)
    | line line =>
      constructor
      · rintro ⟨automaton,input⟩
        cases replied : (reply files p line).value with
        | again complaint =>
          rw [askFile_again replied] at automaton input
          exact .passed (reply_again_iff.mp ⟨complaint,replied⟩) (ih.mp ⟨automaton,input⟩)
        | settled given =>
          rw [askFile_settled replied] at automaton input
          subst automaton input
          obtain ⟨named,loaded⟩ := reply_settled_iff.mp replied
          exact .opened named loaded
      · intro prompted
        cases prompted with
        | passed passes later =>
          obtain ⟨complaint,replied⟩ := reply_again_iff (p := p).mpr passes
          rw [askFile_again replied]
          exact ih.mpr later
        | opened named loaded =>
          rw [askFile_settled (reply_settled_iff.mpr ⟨named,loaded⟩)]
          exact ⟨rfl,rfl⟩

theorem askFile_silent (files : FileSystem) (p : Palette) (readings : List Reading) :
    (askFile files p "" readings).value.asked = "" := by
  induction readings with
  | nil => rfl
  | cons reading rest ih =>
    cases reading with
    | failure cause => rfl
    | line line =>
      cases replied : (reply files p line).value with
      | again complaint => rw [askFile_again replied, ih, String.empty_append]
      | settled automaton => rw [askFile_settled replied]

theorem openFile_eq (files : FileSystem) (p : Palette) (readings : List Reading) (path : String) :
    (openFile files p readings path).value =
      ⟨(ofFile files path).value.mapError (Report.tableError p), "", "", readings⟩ := by
  rw [openFile, Journaled.value_bind]
  cases (ofFile files path).value <;> rfl

theorem choose_iff : (choose s settings).value.automaton = .ok M ∧
    (choose s settings).value.input = left ↔ Loads s settings M left := by
  cases file : settings.defaultFile with
  | none =>
    simp only [choose, file, askFile_iff]
    constructor
    · exact .prompted file
    · rintro (⟨given,_⟩ | ⟨_,prompted⟩)
      · exact nomatch file.symm.trans given
      · exact prompted
  | some path =>
    simp only [choose, file, openFile_eq, mapError_eq_ok_iff]
    constructor
    · rintro ⟨loaded,rfl⟩
      exact .named file loaded
    · rintro (⟨given,loaded⟩ | ⟨none,_⟩)
      · obtain rfl := Option.some.inj (file.symm.trans given)
        exact ⟨loaded,rfl⟩
      · exact nomatch file.symm.trans none

theorem givenWord_iff : givenWord word left = .ok text ↔ Gives left word text := by
  cases word with
  | some given =>
    constructor
    · rintro ⟨rfl⟩
      exact .option
    · rintro ⟨⟩
      rfl
  | none =>
    constructor
    · intro asked
      match left, asked with
      | .line line :: rest, asked => exact Except.ok.inj asked ▸ .prompted rfl
    · rintro (_ | rfl)
      rfl

theorem choose_silent (silent : settings.defaultFile = none → s.Silent) :
    (choose s settings).value.asked = "" := by
  cases file : settings.defaultFile with
  | none =>
    simp only [choose, file, silent file filePrompt]
    exact askFile_silent s.files (s.paletteFor settings) s.input
  | some path => simp only [choose, file, openFile_eq]

theorem wordAsked_silent (silent : word = none → s.Silent) : wordAsked s word = "" := by
  cases word with
  | none => exact silent rfl wordPrompt
  | some text => rfl

theorem run_of_error {fault : SettingsError}
    (failed : (s.settings options.config).value = .error fault) :
    (run s options).value = ⟨.error fault.message, "", "", s.files⟩ := by
  rw [run, Journaled.value_bind, failed]
  rfl

theorem run_of_ok
    (loaded : (s.settings options.config).value = .ok saved) :
    (run s options).value = (proceed s (saved.merge options) options.word).value := by
  rw [run, Journaled.value_bind, loaded]

/-- The first file that can be read settles the automaton, so a run has at most one. -/
theorem Loads.unique {M' : Automaton} {left' : List Reading} (first : Loads s settings M left)
    (second : Loads s settings M' left') : M = M' ∧ left = left' := by
  obtain ⟨automaton,input⟩ := choose_iff.mpr first
  obtain ⟨automaton',input'⟩ := choose_iff.mpr second
  exact ⟨Except.ok.inj (automaton.symm.trans automaton'),input.symm.trans input'⟩

theorem Completes.unique {M' : Automaton} {e' : Evaluation} (first : Completes s settings word M e)
    (second : Completes s settings word M' e') : M = M' ∧ e = e' := by
  obtain ⟨left,text,loads,gives,read⟩ := first
  obtain ⟨left',text',loads',gives',read'⟩ := second
  obtain ⟨rfl,rfl⟩ := loads.unique loads'
  have same := (givenWord_iff.mpr gives).symm.trans (givenWord_iff.mpr gives')
  obtain rfl := Except.ok.inj same
  exact ⟨rfl,Except.ok.inj (read.symm.trans read')⟩

/-- Which automaton and which word it came to settles the result of a run and what it prints. -/
theorem proceed_conclusion (s : Surroundings) (settings : Settings) (word : Option String) :
    ((proceed s settings word).value.result, (proceed s settings word).value.out) =
      conclusion (s.paletteFor settings) settings (choose s settings).value.asked (wordAsked s word)
        (choose s settings).value.automaton (givenWord word (choose s settings).value.input) := by
  simp only [proceed, Journaled.value_bind, givenWord]
  cases (choose s settings).value.automaton with
  | error message => rfl
  | ok M =>
    cases word.elim (askWord (choose s settings).value.input) Except.ok with
    | error message => rfl
    | ok text =>
      simp only [conclusion, Automaton.evaluate, Journaled.value_bind]
      cases (M.run text).value <;> rfl

theorem run_conclusion (s : Surroundings) (options : Options)
    (loaded : (s.settings options.config).value = .ok saved) :
    ((run s options).value.result, (run s options).value.out) =
      conclusion (s.paletteFor (saved.merge options)) (saved.merge options)
        (choose s (saved.merge options)).value.asked (wordAsked s options.word)
        (choose s (saved.merge options)).value.automaton
        (givenWord options.word (choose s (saved.merge options)).value.input) := by
  rw [run_of_ok loaded]
  exact proceed_conclusion s (saved.merge options) options.word

/-- The prompts are no part of the result. -/
theorem conclusion_result (shown asked : String) (automaton : Except String Automaton)
    (word : Except String String) : (conclusion p settings shown asked automaton word).1 =
      (conclusion p settings "" "" automaton word).1 := by
  rcases automaton with _ | M
  · rfl
  rcases word with _ | text
  · rfl
  simp only [conclusion]
  cases M.evaluate text <;> rfl

end Session

end DigitAutomata
