import DigitAutomata.History.Saved
import DigitAutomata.Report.Console
import DigitAutomata.Report.Document
import DigitAutomata.Settings.Saved
import DigitAutomata.Table.Load
import DigitAutomata.Text.Backspace

/-! One run of the program, from its surroundings to what it prints and leaves behind. The automaton
comes from the file of the options or settings, else from the first prompted file that can be read;
the word comes from the options, else from the next line. How the line editor asks for them is a part of
the surroundings. -/
namespace DigitAutomata

open Text (Palette)

structure Surroundings where
  files : FileSystem
  /-- Where the settings and the history of prompts are kept, if there is such a place. -/
  configDirectory : Option String
  /-- Standard input, line by line. A line may fail to be text. -/
  input : List Reading
  /-- The palette unless the settings turn colours off. -/
  palette : Palette
  /-- What the line editor puts on standard output for a prompt: the prompt on a terminal that it cannot
  edit on, and nothing for a file or pipe. -/
  editor : String → String

namespace Surroundings

def settingsPath? (s : Surroundings) : Option String := s.configDirectory.map (· ++ "/config.json")

def historyPath? (s : Surroundings) : Option String := s.configDirectory.map (· ++ "/history.txt")

/-- The saved settings, from the file that is given or else from the usual one. -/
def settings (s : Surroundings) (given : Option String) : Journaled (Except SettingsError Settings) :=
  match given <|> s.settingsPath? with
  | some path => Settings.load s.files path
  | none => pure (.error .noDirectory)

def paletteFor (s : Surroundings) (settings : Settings) : Palette :=
  if settings.effectiveColor then s.palette else .plain

end Surroundings

structure Outcome where
  result : Except String Unit
  out : String
  err : String
  files : FileSystem

/-- An automaton, or why there is none, with what asking for it and the warnings on the way printed and
with the lines not yet read. -/
structure Choice where
  automaton : Except String Automaton
  asked : String
  warnings : String
  input : List Reading

namespace Session

def warning (p : Palette) (text : String) : String := p.paint .yellow "Warning" ++ ": " ++ text ++ "\n"

def openFile (files : FileSystem) (p : Palette) (input : List Reading) (path : String) :
    Journaled Choice := do
  match ← Automaton.ofFile files path with
  | .ok M => pure ⟨.ok M, "", "", input⟩
  | .error e => pure ⟨.error (Report.tableError p e), "", "", input⟩

def filePrompt : String := "Automaton file: "

def wordPrompt : String := "Word to test: "

/-- What a line says in answer to a prompt. -/
def answer (line : String) : String := Text.trim (Text.applyBackspaces line)

def inputError : String := "Failed to read input"

/-- Where one answer to the prompt for a file leads. -/
inductive Reply
  | again (complaint : String)
  | settled (automaton : Except String Automaton)

/-- A blank line is asked again without a word, and a file that cannot be read with a warning; a table
that breaks a rule ends the run. -/
def reply (files : FileSystem) (p : Palette) (line : String) : Journaled Reply :=
  if answer line = "" then pure (.again "")
  else do
    match ← Automaton.ofFile files (answer line) with
    | .ok M => pure (.settled (.ok M))
    | .error (.unreadable origin cause) =>
      pure (.again (warning p (Report.tableError p (.unreadable origin cause))))
    | .error e => pure (.settled (.error (Report.tableError p e)))

/-- Asks until an answer settles which automaton it is. Asking once puts `shown` on standard output. -/
def askFile (files : FileSystem) (p : Palette) (shown : String) : List Reading → Journaled Choice
  | [] => pure ⟨.error "no automaton file given", shown, "", []⟩
  | .failure _ :: rest => pure ⟨.error inputError, shown, "", rest⟩
  | .line line :: rest => do
    match ← reply files p line with
    | .settled automaton => pure ⟨automaton, shown, "", rest⟩
    | .again complaint =>
      let later ← askFile files p shown rest
      pure { later with asked := shown ++ later.asked, warnings := complaint ++ later.warnings }

/-- The automaton from the file of the settings, or else from a prompted one. -/
def choose (s : Surroundings) (settings : Settings) : Journaled Choice :=
  match settings.defaultFile with
  | some path => openFile s.files (s.paletteFor settings) s.input path
  | none => askFile s.files (s.paletteFor settings) (s.editor filePrompt) s.input

/-- What asking for the word puts on standard output, unless it is given. -/
def wordAsked (s : Surroundings) (word : Option String) : String :=
  if word.isNone then s.editor wordPrompt else ""

/-- A blank line is the empty word. -/
def askWord : List Reading → Except String String
  | [] => .error "no word given"
  | .failure _ :: _ => .error inputError
  | .line line :: _ => .ok (answer line)

/-- Makes the directory for the history of prompts and mends the history there. Nothing is added to it
when the prompts are answered from a file or pipe. -/
def keepHistory (s : Surroundings) (p : Palette) : FileSystem × String :=
  match s.configDirectory, s.historyPath? with
  | some directory, some path =>
    match s.files.makeDirectories directory with
    | .error e => (s.files, warning p s!"Failed to create directory: {directory}: {e.message}")
    | .ok files =>
      match History.mend files path with
      | .error e => (files, warning p s!"Failed to save history: {path}: {e.message}")
      | .ok files => (files, "")
  | _, _ => (s.files, "")

def tableBlock (p : Palette) (M : Automaton) : String :=
  p.paint .bold "The automaton:" ++ "\n" ++ Report.automatonTable p M ++ "\n"

def report (p : Palette) (format : OutputFormat) (M : Automaton) (e : Evaluation) : String :=
  match format with
  | .text => Report.traceLine p e.trace ++ "\n" ++
      Report.verdictLine p e.trace.word e.verdict ++ "\n"
  | .json => Report.document M e ++ "\n"

/-- What is printed before the word is known. -/
def preamble (p : Palette) (settings : Settings) (M : Automaton) : String :=
  if settings.effectiveOutput = .text ∧ settings.effectiveShow then tableBlock p M else ""

/-- The run once the settings are known. -/
def proceed (s : Surroundings) (settings : Settings) (word : Option String) :
    Journaled Outcome := do
  let p := s.paletteFor settings
  let choice ← choose s settings
  match choice.automaton with
  | .error message => pure ⟨.error message, choice.asked, choice.warnings, s.files⟩
  | .ok M =>
    let shown := choice.asked ++ preamble p settings M ++ wordAsked s word
    match word.elim (askWord choice.input) Except.ok with
    | .error message => pure ⟨.error message, shown, choice.warnings, s.files⟩
    | .ok text =>
      let (files, complaint) :=
        if settings.defaultFile.isNone ∨ word.isNone then keepHistory s p else (s.files, "")
      let err := choice.warnings ++ complaint
      match ← M.run text with
      | .error e => pure ⟨.error (Report.wordError p e), shown, err, files⟩
      | .ok e =>
        pure ⟨.ok (), shown ++ report p settings.effectiveOutput M e, err, files⟩

def run (s : Surroundings) (options : Options) : Journaled Outcome := do
  match ← s.settings options.config with
  | .error e => pure ⟨.error e.message, "", "", s.files⟩
  | .ok saved => proceed s (saved.merge options) options.word

end Session

end DigitAutomata
