import DigitAutomata.Proofs.Session

/-! The prompts, line by line. Of the lines up to the first path that can be read the blank ones are
passed over and every other costs one warning. The line with that path is the last one that is read, but
for the line after it where the word is asked for too. The editor is asked once for each line and, where
they do not suffice, once more. -/
namespace DigitAutomata.Session

open Automaton (ofFile)
open Text (Palette trim)

/-- A line without anything to take back. It is read as it was typed, up to the blanks around it. -/
def Typed (line : String) : Prop := '\x08' ∉ line.toList

instance (line : String) : Decidable (Typed line) := inferInstanceAs (Decidable (_ ∉ _))

def Unreadable (files : FileSystem) (path : String) : Prop :=
  ∃ origin cause, (ofFile files path).value = .error (.unreadable origin cause)

/-- The paths that are given in answer to the prompts, one by each line that is not blank. -/
def paths (lines : List String) : List String := (lines.map trim).filter (· ≠ "")

/-- The warning about a path that cannot be read. -/
def complaint (files : FileSystem) (p : Palette) (path : String) : String :=
  match (ofFile files path).value with
  | .error e => warning p (Report.tableError p e)
  | .ok _ => ""

def complaints (files : FileSystem) (p : Palette) (lines : List String) : String :=
  String.join ((paths lines).map (complaint files p))

/-- What asking with one prompt so many times puts on standard output. -/
def repeated (shown : String) (times : Nat) : String := String.join (List.replicate times shown)

/-- What a run comes to that asks for its file. Asking for that printed `shown`, and asking for the word
prints `asked`. Once there is a word too, the history of prompts is kept. -/
def promptedOutcome (s : Surroundings) (settings : Settings) (shown asked warnings : String)
    (automaton : Except String Automaton) (word : Except String String) : Outcome :=
  let p := s.paletteFor settings
  let (result, out) := conclusion p settings shown asked automaton word
  match automaton, word with
  | .ok _, .ok _ => ⟨result, out, warnings ++ (keepHistory s p).2, (keepHistory s p).1⟩
  | _, _ => ⟨result, out, warnings, s.files⟩

variable {files : FileSystem} {p : Palette} {line : String} {lines front : List String}
  {rest : List Reading} {s : Surroundings} {options : Options} {saved : Settings}
  {holds : String → Prop} {path warnings shown : String} {input left : List Reading} {e : TableError}
  {automaton : Except String Automaton}

theorem forall_paths_cons : (∀ path ∈ paths (line :: lines), holds path) ↔
    (trim line ≠ "" → holds (trim line)) ∧ ∀ path ∈ paths lines, holds path := by
  by_cases blank : trim line = ""
  · simp [paths, blank]
  · simp [paths, blank]

theorem complaints_cons (line : String) (lines : List String) :
    complaints files p (line :: lines) =
      (if trim line = "" then "" else complaint files p (trim line)) ++ complaints files p lines := by
  by_cases blank : trim line = ""
  · simp [complaints, paths, blank]
  · simp [complaints, paths, blank, String.join_cons]

theorem repeated_append (shown : String) (times : Nat) :
    repeated shown times ++ shown = repeated shown (times + 1) := by
  rw [repeated, repeated, List.replicate_succ', String.join_append, String.join_cons, String.join_nil,
    String.append_empty]

theorem repeated_succ (shown : String) (times : Nat) :
    repeated shown (times + 1) = shown ++ repeated shown times := by
  rw [repeated, List.replicate_succ, String.join_cons, repeated]

/-- The prompt is repeated after a blank line and after a path that cannot be read. -/
theorem reply_passing (typed : Typed line) (passes : trim line ≠ "" → Unreadable files (trim line)) :
    (reply files p line).value =
      .again (if trim line = "" then "" else complaint files p (trim line)) := by
  rw [reply, answer_eq_trim typed]
  by_cases blank : trim line = ""
  · rw [if_pos blank, if_pos blank]
    rfl
  · obtain ⟨origin,cause,failed⟩ := passes blank
    rw [if_neg blank, if_neg blank, complaint, Journaled.value_bind, failed]
    rfl

/-- What comes after such lines is asked as if it stood alone, but the warnings about them go first. -/
theorem askFile_passing (typed : ∀ line ∈ front, Typed line)
    (unreadable : ∀ path ∈ paths front, Unreadable files path) :
    (askFile files p shown (front.map .line ++ rest)).value =
      { (askFile files p shown rest).value with
        asked := repeated shown front.length ++ (askFile files p shown rest).value.asked
        warnings := complaints files p front ++ (askFile files p shown rest).value.warnings } := by
  induction front with
  | nil =>
    have nothing : complaints files p [] = "" := rfl
    have unasked : repeated shown ([] : List String).length = "" := rfl
    rw [nothing, unasked, String.empty_append, String.empty_append]
    rfl
  | cons line front ih =>
    obtain ⟨first,later⟩ := List.forall_mem_cons.mp typed
    obtain ⟨passes,others⟩ := forall_paths_cons.mp unreadable
    rw [List.map_cons, List.cons_append, askFile_again (reply_passing first passes), ih later others,
      complaints_cons, List.length_cons, repeated_succ, String.append_assoc, String.append_assoc]

theorem askFile_exhausted (typed : ∀ line ∈ lines, Typed line)
    (unreadable : ∀ path ∈ paths lines, Unreadable files path) :
    (askFile files p shown (lines.map .line)).value =
      ⟨.error "no automaton file given", repeated shown (lines.length + 1), complaints files p lines,
        []⟩ := by
  rw [← List.append_nil (lines.map Reading.line), askFile_passing typed unreadable, askFile,
    Journaled.value_pure, String.append_empty, repeated_append]

theorem askFile_found (typed : ∀ line ∈ front, Typed line)
    (unreadable : ∀ path ∈ paths front, Unreadable files path) (last : Typed line)
    (named : trim line ≠ "") (readable : ¬Unreadable files (trim line)) :
    (askFile files p shown (front.map .line ++ .line line :: rest)).value =
      ⟨(ofFile files (trim line)).value.mapError (Report.tableError p),
        repeated shown (front.length + 1), complaints files p front, rest⟩ := by
  rw [askFile_passing typed unreadable,
    askFile_settled (reply_readable (answer_eq_trim last) named readable), String.append_empty,
    repeated_append]

/-- The lines either lead to a path that can be read, and to the first such, or to none. -/
theorem exists_readable (files : FileSystem) (lines : List String) :
    (∀ path ∈ paths lines, Unreadable files path) ∨
      ∃ front line later, lines = front ++ line :: later ∧
        (∀ path ∈ paths front, Unreadable files path) ∧ trim line ≠ "" ∧
        ¬Unreadable files (trim line) := by
  induction lines with
  | nil => exact .inl (List.forall_mem_nil _)
  | cons line lines ih =>
    by_cases passes : trim line ≠ "" → Unreadable files (trim line)
    · rcases ih with all | ⟨front,other,later,rfl,before,found⟩
      · exact .inl (forall_paths_cons.mpr ⟨passes,all⟩)
      · exact .inr ⟨line :: front,other,later,rfl,forall_paths_cons.mpr ⟨passes,before⟩,found⟩
    · obtain ⟨named,readable⟩ := Classical.not_imp.mp passes
      exact .inr ⟨[],line,lines,rfl,List.forall_mem_nil _,named,readable⟩

/-- Without a file of its own, a run comes to what the prompts lead to. -/
theorem run_prompts
    (loaded : (s.settings options.config).value = .ok saved)
    (unnamed : (saved.merge options).defaultFile = none)
    (asked : (askFile s.files (s.paletteFor (saved.merge options)) (s.editor filePrompt) input).value =
      ⟨automaton, shown, warnings, left⟩) :
    (run { s with input := input } options).value =
      promptedOutcome s (saved.merge options) shown (wordAsked s options.word) warnings automaton
        (givenWord options.word left) := by
  have chosen : (choose { s with input := input } (saved.merge options)).value =
      ⟨automaton, shown, warnings, left⟩ := by
    rw [choose, unnamed]
    exact asked
  have same : Surroundings.settings { s with input := input } options.config =
      s.settings options.config := rfl
  rw [run_of_ok (same ▸ loaded)]
  simp only [proceed, Journaled.value_bind, chosen, unnamed, promptedOutcome, givenWord]
  cases automaton with
  | error message => rfl
  | ok M =>
    cases options.word.elim (askWord left) Except.ok with
    | error message => rfl
    | ok text =>
      simp only [conclusion, Automaton.evaluate, Journaled.value_bind]
      cases (M.run text).value <;> rfl

theorem run_unreadable
    (loaded : (s.settings options.config).value = .ok saved)
    (named : (saved.merge options).defaultFile = some path)
    (failed : (ofFile s.files path).value = .error e) :
    (run s options).value =
      ⟨.error (Report.tableError (s.paletteFor (saved.merge options)) e), "", "", s.files⟩ := by
  have chosen : (choose s (saved.merge options)).value =
      ⟨.error (Report.tableError (s.paletteFor (saved.merge options)) e), "", "", s.input⟩ := by
    rw [choose, named, openFile_eq, failed]
    rfl
  rw [run_of_ok loaded]
  simp only [proceed, Journaled.value_bind, chosen]
  rfl

/-- A run whose file is not named reads its input up to the first path that can be read, and the line
after it where no word is given; what comes later has no effect. Before that path it passes over blank
lines and warns about each path that cannot be read, in order. If the file at that path does not load,
the run ends there; otherwise it goes on with that automaton and with the word. A file that is named but
does not load ends the run at once, whatever the input. The editor is asked for a file once for each of
these lines, and for the word once where none is given; what it prints then is all that is added. -/
theorem run_asks (s : Surroundings) (options : Options)
    (loaded : (s.settings options.config).value = .ok saved) :
    let settings := saved.merge options
    let p := s.paletteFor settings
    let runOn := fun input => (run { s with input := input } options).value
    let asking := repeated (s.editor filePrompt)
    (settings.defaultFile = none →
      (∀ lines, (∀ path ∈ paths lines, Unreadable s.files path) ∨
        ∃ front line later, lines = front ++ line :: later ∧
          (∀ path ∈ paths front, Unreadable s.files path) ∧ trim line ≠ "" ∧
          ¬Unreadable s.files (trim line)) ∧
      (∀ lines, (∀ line ∈ lines, Typed line) → (∀ path ∈ paths lines, Unreadable s.files path) →
        runOn (lines.map .line) =
          ⟨.error "no automaton file given", asking (lines.length + 1), complaints s.files p lines,
            s.files⟩) ∧
      ∀ front line, (∀ line ∈ front, Typed line) → (∀ path ∈ paths front, Unreadable s.files path) →
        Typed line → trim line ≠ "" → ¬Unreadable s.files (trim line) →
        let shown := asking (front.length + 1)
        let warnings := complaints s.files p front
        let runWith := fun rest => runOn (front.map .line ++ .line line :: rest)
        (∀ e, (ofFile s.files (trim line)).value = .error e → ∀ rest,
          runWith rest = ⟨.error (Report.tableError p e), shown, warnings, s.files⟩) ∧
        ∀ M, (ofFile s.files (trim line)).value = .ok M →
          (∀ text, options.word = some text → ∀ rest,
            runWith rest = promptedOutcome s settings shown "" warnings (.ok M) (.ok text)) ∧
          (options.word = none →
            let asked := s.editor wordPrompt
            runWith [] = ⟨.error "no word given", shown ++ preamble p settings M ++ asked, warnings,
              s.files⟩ ∧
            ∀ next, Typed next → ∀ later, runWith (.line next :: later) =
              promptedOutcome s settings shown asked warnings (.ok M) (.ok (trim next)))) ∧
    (∀ path e, settings.defaultFile = some path → (ofFile s.files path).value = .error e →
      ∀ input, runOn input = ⟨.error (Report.tableError p e), "", "", s.files⟩) := by
  intro settings p runOn asking
  refine ⟨fun unnamed => ⟨exists_readable s.files,?_,?_⟩,?_⟩
  · intro lines typed unreadable
    exact run_prompts loaded unnamed (askFile_exhausted typed unreadable)
  · intro front line typed unreadable last named readable shown warnings runWith
    -- The input up to here settles all but the word.
    have settled : ∀ rest, runWith rest = promptedOutcome s settings shown (wordAsked s options.word)
        warnings ((ofFile s.files (trim line)).value.mapError (Report.tableError p))
        (givenWord options.word rest) := fun rest =>
      run_prompts loaded unnamed (askFile_found typed unreadable last named readable)
    constructor
    · intro e failed rest
      rw [settled, failed]
      rfl
    · intro M opened
      constructor
      · intro text given rest
        rw [settled, opened, given]
        rfl
      · intro absent
        constructor
        · rw [settled, opened, absent]
          rfl
        · intro next typedNext later
          rw [settled, opened, absent, ← answer_eq_trim typedNext]
          rfl
  · intro path e named failed input
    exact run_unreadable (s := { s with input := input }) loaded named failed

/-- A blank line, a file that may not be opened and one that is missing come before the table that tells
odd from even; then there is no more input, or a word. Named as an option the first of these files is the
end. An editor that prints its prompts has asked four times by then. -/
theorem run_asks_parity :
    let M := Automaton.ofRows 2 [[⟨1⟩, .start], [.start, ⟨1⟩]] [⟨1⟩]
    let files := ((FileSystem.empty []).put ["t"] (.file (Text.encode "2 2\nB A\nA B\n1\nB"))).put ["x"]
      (.failing [] .permissionDenied)
    let silent : String → String := fun _ => ""
    let s : Surroundings := ⟨files, some "/c", ([] : List Reading), .plain, silent⟩
    let runOn := fun editor options input =>
      (run { s with input := input, editor := editor } options).value
    let refused := "cannot read source /x: Permission denied (os error 13) [source-unreadable]"
    let missing := "cannot read source /y: No such file or directory (os error 2) [source-unreadable]"
    let warned := "Warning: " ++ refused ++ "\nWarning: " ++ missing ++ "\n"
    let ask := "Automaton file: "
    (s.settings none).value = .ok .default ∧ paths ["", "/x", "/y"] = ["/x", "/y"] ∧
      Unreadable files "/x" ∧ Unreadable files "/y" ∧ (ofFile files "/t").value = .ok M ∧
      runOn silent {} [.line "", .line "/x", .line "/y"] =
        ⟨.error "no automaton file given", "", warned, files⟩ ∧
      runOn silent {} [.line "", .line "/x", .line "/y", .line " /t "] =
        ⟨.error "no word given", tableBlock .plain M, warned, files⟩ ∧
      (∀ later,
        runOn silent {} (.line "" :: .line "/x" :: .line "/y" :: .line " /t " :: .line "01 " :: later) =
          promptedOutcome s .default "" "" warned (.ok M) (.ok "01")) ∧
      (∀ input, runOn silent { file := some "/x" } input = ⟨.error refused, "", "", files⟩) ∧
      runOn id {} [.line "", .line "/x", .line "/y"] =
        ⟨.error "no automaton file given", ask ++ ask ++ ask ++ ask, warned, files⟩ := by
  intro M files silent s runOn refused missing warned ask
  have loaded : (s.settings none).value = .ok .default := by decide +kernel
  have named : paths ["", "/x", "/y"] = ["/x", "/y"] := by decide +kernel
  have failed : (ofFile files "/x").value = .error (.unreadable "/x" .permissionDenied) := by
    decide +kernel
  have failed' : (ofFile files "/y").value = .error (.unreadable "/y" .notFound) := by decide +kernel
  have opened : (ofFile files "/t").value = .ok M := by decide +kernel
  have warnings : complaints files .plain ["", "/x", "/y"] = warned := by decide +kernel
  have typed : ∀ line ∈ ["", "/x", "/y"], Typed line := by decide
  have unreadable : ∀ path ∈ paths ["", "/x", "/y"], Unreadable files path := by
    rw [named]
    exact List.forall_mem_cons.mpr ⟨⟨_,_,failed⟩,List.forall_mem_singleton.mpr ⟨_,_,failed'⟩⟩
  have path : trim " /t " = "/t" := by decide +kernel
  have word : trim "01 " = "01" := by decide +kernel
  have readable : ¬Unreadable files (trim " /t ") := by
    rintro ⟨origin,cause,wrong⟩
    rw [path, opened] at wrong
    exact nomatch wrong
  have quiet : repeated (silent filePrompt) 4 = "" := by decide
  have loud : repeated filePrompt 4 = ask ++ ask ++ ask ++ ask := by decide
  obtain ⟨_,exhausted,found⟩ := (run_asks s {} loaded).1 rfl
  obtain ⟨_,loads⟩ :=
    found ["", "/x", "/y"] " /t " typed unreadable (by decide) (by decide +kernel) readable
  obtain ⟨absent,present⟩ := (loads M (path.symm ▸ opened)).2 rfl
  obtain ⟨_,exhausted',_⟩ := (run_asks { s with editor := id } {} loaded).1 rfl
  refine ⟨loaded,named,⟨_,_,failed⟩,⟨_,_,failed'⟩,opened,?_,?_,?_,?_,?_⟩
  · exact warnings ▸ quiet ▸ exhausted ["", "/x", "/y"] typed unreadable
  · exact warnings ▸ absent
  · intro later
    exact warnings ▸ word ▸ present "01 " (by decide) later
  · exact (run_asks s { file := some "/x" } loaded).2 "/x" _ rfl failed
  · exact warnings ▸ loud ▸ exhausted' ["", "/x", "/y"] typed unreadable

end DigitAutomata.Session
