import DigitAutomata.Proofs.Asking
import DigitAutomata.Proofs.Spacing

/-! Prompts and options. A file and a word come to the same run whether they are given as options or as
answers to the prompts: blank lines before the file are passed over, and each answer is taken as it was
typed. What differs is only what a run leaves behind and says about that. -/
namespace DigitAutomata

open Text (Blank trim)

namespace Session

/-- A line that stands for itself as an answer: no blanks around it, and nothing in it to take back. -/
structure Literal (line : String) : Prop where
  trimmed : trim line = line
  kept : '\x08' ∉ line.toList

variable {files : FileSystem} {line path word : String} {blanks : List String} {rest : List Reading}
  {s : Surroundings} {settings : Settings} {options : Options} {saved : Settings}

theorem answer_literal (literal : Literal line) : answer line = line := by
  rw [answer_eq_trim literal.kept, literal.trimmed]

theorem typed_of_blank (blank : Blank line) : Typed line :=
  fun member => absurd (blank _ member) (by decide)

theorem paths_blank (blank : ∀ line ∈ blanks, Blank line) : paths blanks = [] := by
  rw [paths, List.filter_eq_nil_iff, List.forall_mem_map]
  intro line member
  have empty : trim ("" ++ line) = trim "" := Text.trim_append_blank (blank line member) ""
  rw [String.empty_append] at empty
  rw [empty]
  decide

/-- After any number of blank lines a file that can be read is loaded as it is on its own. -/
theorem choose_prompted (unnamed : settings.defaultFile = none)
    (blank : ∀ line ∈ blanks, Blank line) (literal : Literal path) (named : path ≠ "")
    (readable : ¬Unreadable s.files path) (rest : List Reading) :
    (choose { s with input := blanks.map .line ++ .line path :: rest } settings).value =
      ⟨(Automaton.ofFile s.files path).value.mapError (Report.tableError (s.paletteFor settings)),
        repeated (s.editor filePrompt) (blanks.length + 1), "", rest⟩ := by
  have passed : ∀ path ∈ paths blanks, Unreadable s.files path := by
    rw [paths_blank blank]
    exact List.forall_mem_nil _
  have silently : complaints s.files (s.paletteFor settings) blanks = "" := by
    rw [complaints, paths_blank blank]
    rfl
  rw [← literal.trimmed] at named readable
  have found : (askFile s.files (s.paletteFor settings) (s.editor filePrompt)
      (blanks.map .line ++ .line path :: rest)).value = _ :=
    askFile_found (fun line member => typed_of_blank (blank line member)) passed literal.kept named
      readable
  rw [literal.trimmed, silently] at found
  rw [choose, unnamed]
  exact found

/-- Where the saved settings name no file, it makes no difference whether the file and the word are
given as options, whatever the input, or typed after any number of blank lines: the result is the same,
and so is standard output unless the editor itself prints something there. -/
theorem run_prompted (s : Surroundings) (options : Options)
    (loaded : (s.settings options.config).value = .ok saved)
    (unnamed : saved.defaultFile = none) (literalPath : Literal path) (named : path ≠ "")
    (literalWord : Literal word)
    (readable : ∀ origin cause,
      (Automaton.ofFile s.files path).value ≠ .error (.unreadable origin cause))
    (blank : ∀ line ∈ blanks, Blank line) (rest : List Reading) :
    let given := (run s { options with file := some path, word := some word }).value
    let prompted := (run { s with input := blanks.map .line ++ .line path :: .line word :: rest }
      { options with file := none, word := none }).value
    prompted.result = given.result ∧ (s.Silent → prompted.out = given.out) := by
  intro given prompted
  let typed : Surroundings :=
    { s with input := blanks.map .line ++ .line path :: .line word :: rest }
  let withOptions : Options := { options with file := some path, word := some word }
  let withPrompts : Options := { options with file := none, word := none }
  let settings := saved.merge withPrompts
  let p := s.paletteFor settings
  -- Both come to the same automaton and to the same word.
  let automaton := (Automaton.ofFile s.files path).value.mapError (Report.tableError p)
  have unnamed : settings.defaultFile = none := unnamed
  have usable : ¬Unreadable s.files path := fun ⟨origin,cause,failed⟩ => readable origin cause failed
  have chosen := choose_prompted unnamed blank literalPath named usable (.line word :: rest)
  have answered : givenWord none (.line word :: rest) = .ok word :=
    congrArg Except.ok (answer_literal literalWord)
  have shown : (given.result, given.out) = conclusion p settings "" "" automaton (.ok word) := by
    have opened : (choose s (saved.merge withOptions)).value = ⟨automaton, "", "", s.input⟩ :=
      openFile_eq s.files p s.input path
    refine (run_conclusion s withOptions loaded).trans ?_
    rw [opened]
    rfl
  have printed : (prompted.result, prompted.out) = conclusion p settings
      (choose typed settings).value.asked (wordAsked typed none) automaton (.ok word) := by
    refine (run_conclusion typed withPrompts loaded).trans ?_
    rw [chosen, ← answered]
    rfl
  constructor
  · calc prompted.result
      _ = (conclusion p settings (choose typed settings).value.asked (wordAsked typed none) automaton
            (.ok word)).1 := congrArg Prod.fst printed
      _ = (conclusion p settings "" "" automaton (.ok word)).1 := conclusion_result _ _ _ _
      _ = given.result := (congrArg Prod.fst shown).symm
  · intro silent
    have quiet : (choose typed settings).value.asked = "" :=
      choose_silent fun _ => (silent : typed.Silent)
    have quiet' : wordAsked typed none = "" := wordAsked_silent fun _ => (silent : typed.Silent)
    rw [quiet, quiet', ← shown] at printed
    exact congrArg Prod.snd printed

/-- Two blank lines, the table that tells odd from even, and a word with a symbol that is none. -/
theorem run_prompted_parity :
    let files := (FileSystem.empty []).put ["t"] (.file (Text.encode "2 2\nB A\nA B\n1\nB"))
    let s : Surroundings := ⟨files, some "/c", ([] : List Reading), .ansi, fun _ => ""⟩
    let options : Options := { noColor := true }
    let given := (run s { options with file := some "/t", word := some "0x" }).value
    let prompted := (run { s with
      input := ["", " \t"].map .line ++ [.line "/t", .line "0x", .failure .invalidUtf8] }
      { options with file := none, word := none }).value
    (s.settings none).value = .ok .default ∧ Settings.default.defaultFile = none ∧
      Literal "/t" ∧ "/t" ≠ "" ∧ Literal "0x" ∧
      (∀ origin cause, (Automaton.ofFile files "/t").value ≠ .error (.unreadable origin cause)) ∧
      (∀ line ∈ ["", " \t"], Blank line) ∧ s.Silent ∧
      prompted.result = given.result ∧ prompted.out = given.out := by
  intro files s options given prompted
  have loaded : (s.settings none).value = .ok .default := by decide +kernel
  have silent : s.Silent := fun _ => rfl
  have path : Literal "/t" := ⟨by decide +kernel,by decide⟩
  have word : Literal "0x" := ⟨by decide +kernel,by decide⟩
  have table : (Automaton.ofFile files "/t").value =
      .ok (.ofRows 2 [[⟨1⟩, .start], [.start, ⟨1⟩]] [⟨1⟩]) := by decide +kernel
  have readable : ∀ origin cause,
      (Automaton.ofFile files "/t").value ≠ .error (.unreadable origin cause) := by
    intro origin cause
    rw [table]
    exact nofun
  have blank : ∀ line ∈ ["", " \t"], Blank line := by decide
  obtain ⟨result,out⟩ :=
    run_prompted s options loaded rfl path (by decide) word readable blank [.failure .invalidUtf8]
  exact ⟨loaded,rfl,path,by decide,word,readable,blank,silent,result,out silent⟩

end Session

end DigitAutomata
