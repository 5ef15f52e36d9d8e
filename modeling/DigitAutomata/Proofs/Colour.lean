import DigitAutomata.Proofs.Session

/-! Colour and text. What is printed in colour shows the text that is printed without: where no text
from outside holds an escape character, the only escape characters are those of the style sequences, and
without these sequences the plain text is left. A run whose settings turn colours off is the same run
whatever the terminal can show. -/
namespace DigitAutomata

namespace Text

/-- What may stand between the bracket and the last letter of a control sequence. -/
def isParameter (c : Char) : Bool := '0' ≤ c && c ≤ '?'

/-- The characters that are left without the style sequences. Such a sequence is an escape character, a
bracket, parameters and an `m`; any other escape character stays. -/
def withoutStyles : List Char → List Char
  | [] => []
  | '\x1b' :: '[' :: cs =>
    if (cs.dropWhile isParameter).head? = some 'm' then
      withoutStyles (cs.dropWhile isParameter).tail
    else '\x1b' :: '[' :: withoutStyles cs
  | c :: cs => c :: withoutStyles cs
termination_by cs => cs.length
decreasing_by
  · have shorter := (List.dropWhile_suffix isParameter (l := cs)).length_le
    simp only [List.length_cons, List.length_tail]
    omega
  · simp only [List.length_cons]
    omega
  · exact Nat.lt_succ_self _

def unstyled (text : String) : String := String.ofList (withoutStyles text.toList)

/-- There is no escape character in the text. -/
def Clean (text : String) : Prop := '\x1b' ∉ text.toList

instance (text : String) : Decidable (Clean text) := inferInstanceAs (Decidable (_ ∉ _))

/-- The styled text reads as the text. What follows is left open, so that styled texts can be put
together: on its own the beginning of a sequence would not be taken out. -/
def Shows (styled text : String) : Prop :=
  ∀ rest, withoutStyles (styled.toList ++ rest) = text.toList ++ withoutStyles rest

variable {s t styled text styled' text' : String} {cs rest : List Char} {style : Style} {α : Type}
  {items : List α} {f g : α → String}

theorem clean_ofList (clean : '\x1b' ∉ cs) : Clean (String.ofList cs) := by
  rwa [Clean, String.toList_ofList]

/-- A text that is written out is clean by inspection. -/
theorem clean_literal (clean : cs.contains '\x1b' = false) : Clean (String.ofList cs) :=
  clean_ofList (by simpa using clean)

theorem Clean.append (first : Clean s) (second : Clean t) : Clean (s ++ t) := by
  rw [Clean, String.toList_append, List.mem_append]
  exact not_or.mpr ⟨first,second⟩

theorem Clean.between {front back : List Char} (known : Clean t)
    (opens : front.contains '\x1b' = false) (closes : back.contains '\x1b' = false) :
    Clean (String.ofList front ++ t ++ String.ofList back) :=
  ((clean_literal opens).append known).append (clean_literal closes)

theorem escape_not_mem_toDigits {b : Nat} (more : 1 < b) (few : b ≤ 16) (n : Nat) :
    '\x1b' ∉ Nat.toDigits b n := by
  have digit : ∀ d < 16, '\x1b' ∉ [Nat.digitChar d] := by decide
  induction n using Nat.strongRecOn with
  | ind n ih =>
    rw [Nat.toDigits_eq_if more]
    split
    next below => exact digit n (Nat.lt_of_lt_of_le below few)
    next above =>
      have smaller : n / b < n := Nat.div_lt_self (by omega) more
      have last : n % b < 16 := Nat.lt_of_lt_of_le (Nat.mod_lt n (by omega)) few
      rw [List.mem_append]
      exact not_or.mpr ⟨ih _ smaller,digit _ last⟩

theorem clean_nat (n : Nat) : Clean (toString n) := by
  rw [Nat.toString_eq_ofList_toDigits]
  exact clean_ofList (escape_not_mem_toDigits (by decide) (by decide) n)

theorem clean_int (n : Int) : Clean (toString n) := by
  cases n with
  | ofNat n => exact clean_nat n
  | negSucc n => exact .append (clean_literal rfl) (clean_nat (n + 1))

theorem clean_letter (q : StateId) : Clean (toString q) := by
  have letters : ∀ i : Fin 26, Clean (toString (StateId.mk i)) := by decide
  exact letters q.index

/-- An escape character is quoted by its number. -/
theorem clean_quoted (c : Char) : Clean (quoted c) := by
  have named : Clean ("\\u\x7b" ++ hexadecimal c.toNat ++ "\x7d") := by
    have digits : Clean (hexadecimal c.toNat) :=
      clean_ofList (escape_not_mem_toDigits (by decide) (by decide) c.toNat)
    exact digits.between rfl rfl
  have inner : Clean (escaped c) := by
    rw [escaped.eq_def]
    split
    next => decide
    next => decide
    next => decide
    next => decide
    next => decide
    next => decide
    next =>
      split
      next => exact named
      next visible =>
        intro member
        rw [String.toList_singleton, List.mem_singleton] at member
        subst member
        exact visible (by decide +kernel)
  exact inner.between rfl rfl

theorem withoutStyles_cons (other : c ≠ '\x1b') :
    withoutStyles (c :: cs) = c :: withoutStyles cs := by
  rw [withoutStyles]
  rintro _ rfl
  contradiction

theorem withoutStyles_sequence (parameters : ∀ c ∈ cs, isParameter c = true) :
    withoutStyles ('\x1b' :: '[' :: (cs ++ 'm' :: rest)) = withoutStyles rest := by
  have seen : (cs ++ 'm' :: rest).dropWhile isParameter = 'm' :: rest := by
    rw [List.dropWhile_append_of_pos parameters, List.dropWhile_cons_of_neg (by decide)]
  rw [withoutStyles, seen]
  rfl

theorem reopen_clean (again : List Char) (clean : '\x1b' ∉ cs) : reopen again cs = cs := by
  induction cs with
  | nil => rfl
  | cons c cs ih =>
    rw [List.mem_cons, not_or] at clean
    rw [reopen, ih clean.2]
    rintro _ rfl
    exact absurd rfl clean.1

theorem withoutStyles_append (clean : '\x1b' ∉ cs) :
    withoutStyles (cs ++ rest) = cs ++ withoutStyles rest := by
  induction cs with
  | nil => rfl
  | cons c cs ih =>
    rw [List.mem_cons, not_or] at clean
    rw [List.cons_append, withoutStyles_cons (Ne.symm clean.1), ih clean.2, List.cons_append]

theorem Shows.of_clean (clean : Clean text) : Shows text text := fun _ =>
  withoutStyles_append clean

theorem Shows.append (first : Shows styled text) (second : Shows styled' text') :
    Shows (styled ++ styled') (text ++ text') := by
  intro rest
  rw [String.toList_append, List.append_assoc, first, second, String.toList_append,
    List.append_assoc]

theorem Shows.join (each : ∀ a ∈ items, Shows (f a) (g a)) :
    Shows (String.join (items.map f)) (String.join (items.map g)) := by
  induction items with
  | nil => exact .of_clean (clean_literal rfl : Clean "")
  | cons a items ih =>
    rw [List.map_cons, List.map_cons, String.join_cons, String.join_cons]
    exact (each a List.mem_cons_self).append
      (ih fun b member => each b (List.mem_cons_of_mem a member))

/-- A style is set and ended by a sequence each, and a clean text does not end it before. -/
theorem Shows.paint (p : Palette) (parameters : style.parameters.toList.all isParameter = true)
    (clean : Clean text) : Shows (p.paint style text) text := by
  cases p with
  | plain => exact .of_clean clean
  | ansi =>
    intro rest
    have opened : ∀ after, withoutStyles (style.opening ++ after) = withoutStyles after := by
      intro after
      simp only [Style.opening, List.cons_append, List.append_assoc, List.nil_append]
      exact withoutStyles_sequence (List.all_eq_true.mp parameters)
    have zero : ∀ c ∈ ['0'], isParameter c = true := List.all_eq_true.mp rfl
    have ended : withoutStyles (reset ++ rest) = withoutStyles rest := withoutStyles_sequence zero
    rw [Palette.paint, String.toList_ofList, reopen_clean _ clean, List.append_assoc,
      List.append_assoc, opened, Shows.of_clean clean, ended]

theorem Shows.unstyled_eq (shows : Shows styled text) : unstyled styled = text := by
  have whole := shows []
  rw [List.append_nil, withoutStyles, List.append_nil] at whole
  rw [unstyled, whole, String.ofList_toList]

end Text

open Text

namespace TableError

/-- What a table error repeats of the table and of the source it was read from. -/
def texts : TableError → List String
  | .unreadable origin cause => [origin, cause.message]
  | .malformedHeader line => [line]
  | .unknownState token _ => [token]
  | .invalidFinalCount token => [token]
  | _ => []

theorem clean_message {e : TableError} (clean : ∀ text ∈ e.texts, Clean text) : Clean e.message := by
  cases e with
  | unreadable origin cause =>
    have source : Clean origin := clean origin (by simp [texts])
    have failure : Clean cause.message := clean cause.message (by simp [texts])
    exact (source.between rfl rfl).append failure
  | malformedHeader line =>
    have known : Clean line := clean line (by simp [texts])
    exact known.between rfl rfl
  | invalidAlphabetSize value => exact (clean_int value).between rfl rfl
  | invalidStateCount value => exact (clean_int value).between rfl rfl
  | rowWidth state actual expected =>
    exact ((((clean_letter state).between rfl rfl).append (clean_nat actual)).append
      (clean_literal rfl)).append (clean_nat expected)
  | unknownState token site =>
    have known : Clean token := clean token (by simp [texts])
    cases site with
    | transition source symbol =>
      exact (((known.between rfl rfl).append (clean_letter source)).append
        (clean_literal rfl)).append (clean_nat symbol)
    | finalList => exact known.between rfl rfl
  | stateCountMismatch actual expected =>
    exact (((clean_nat actual).between rfl rfl).append (clean_nat expected)).append
      (clean_literal rfl)
  | invalidFinalCount token =>
    have known : Clean token := clean token (by simp [texts])
    exact known.between rfl rfl
  | finalCountMismatch declared actual =>
    exact (((clean_nat declared).between rfl rfl).append (clean_nat actual)).append
      (clean_literal rfl)
  | missingHeader => exact clean_literal rfl
  | missingFinalCount => exact clean_literal rfl

theorem clean_tag (e : TableError) : Clean e.tag := by
  cases e <;> exact clean_literal rfl

end TableError

theorem WordError.clean_message (e : WordError) : Clean e.message :=
  ((((clean_quoted e.symbol).between rfl rfl).append (clean_nat e.position)).append
    (clean_literal rfl)).append (clean_nat e.alphabetSize) |>.append (clean_literal rfl)

theorem Trace.symbol_mem_of_mem_stepsOf {visited : List StateId} {cs : List Char} {s : Step}
    (member : s ∈ stepsOf visited cs) : s.symbol ∈ cs := by
  induction cs generalizing visited with
  | nil => simp [stepsOf] at member
  | cons c cs ih =>
    match visited, member with
    | p :: q :: rest, member =>
      rcases List.mem_cons.mp member with rfl | later
      · exact List.mem_cons_self
      · exact List.mem_cons_of_mem c (ih later)

namespace Report

variable {word : String} {e : TableError}

theorem shows_stateLine (p : Palette) (s : State) : Shows (stateLine p s) (stateLine .plain s) := by
  have marker : Clean (if s.id = .start then "→" else " ") := by
    split
    next => exact clean_literal rfl
    next => exact clean_literal rfl
  have name : Shows (if s.isFinal then p.paint .boldGreen s!"{s.id} *" else s!"{s.id}  ")
      (if s.isFinal then s!"{s.id} *" else s!"{s.id}  ") := by
    split
    next => exact .paint p rfl ((clean_letter s.id).append (clean_literal rfl))
    next => exact .of_clean ((clean_letter s.id).append (clean_literal rfl))
  have destinations : Shows (String.join (s.transitions.map fun q => s!" {q}"))
      (String.join (s.transitions.map fun q => s!" {q}")) :=
    .join fun q _ => .of_clean (.append (clean_literal rfl) (clean_letter q))
  have blank : Shows " " " " := .of_clean (clean_literal rfl)
  have ended : Shows "\n" "\n" := .of_clean (clean_literal rfl)
  exact (((((Shows.of_clean marker).append blank).append name).append blank).append
    destinations).append ended

theorem shows_automatonTable (p : Palette) (M : Automaton) :
    Shows (automatonTable p M) (automatonTable .plain M) := by
  have front : Shows "      " "      " := .of_clean (clean_literal rfl)
  have blank : Shows " " " " := .of_clean (clean_literal rfl)
  have ended : Shows "\n" "\n" := .of_clean (clean_literal rfl)
  have column : ∀ symbol : Nat, Clean (column (toString symbol)) := by
    intro symbol
    have filling : ∀ width, '\x1b' ∉ List.replicate width ' ' := by
      intro width member
      exact absurd (List.eq_of_mem_replicate member) (by decide)
    exact (clean_ofList (filling _)).append (clean_nat symbol)
  have symbols : Shows
      (String.join ((List.range M.alphabetSize).map fun symbol =>
        " " ++ p.paint .bold (Report.column (toString symbol))))
      (String.join ((List.range M.alphabetSize).map fun symbol =>
        " " ++ Palette.plain.paint .bold (Report.column (toString symbol)))) :=
    .join fun symbol _ => blank.append (.paint p rfl (column symbol))
  have states : Shows (String.join (M.states.map (stateLine p)))
      (String.join (M.states.map (stateLine .plain))) :=
    .join fun s _ => shows_stateLine p s
  exact ((front.append symbols).append ended).append states

theorem shows_traceLine (p : Palette) {t : Trace} (clean : Clean t.word) :
    Shows (traceLine p t) (traceLine .plain t) := by
  have blank : Shows " " " " := .of_clean (clean_literal rfl)
  have state : ∀ q : StateId, Shows (p.paint .boldCyan (toString q)) (toString q) :=
    fun q => .paint p rfl (clean_letter q)
  have step : ∀ s ∈ t.steps, Shows (p.paint .dimmed s!"--{s.symbol}-->") s!"--{s.symbol}-->" := by
    intro s member
    have symbol : Clean (toString s.symbol) := by
      rw [Clean]
      intro escape
      have same : '\x1b' = s.symbol := by simpa [toString] using escape
      exact clean (same ▸ Trace.symbol_mem_of_mem_stepsOf member)
    exact .paint p rfl (symbol.between rfl rfl)
  cases visited : t.visited with
  | nil =>
    simp only [traceLine, visited]
    exact .of_clean (clean_literal rfl)
  | cons first later =>
    simp only [traceLine, visited]
    exact (state first).append (.join fun s member =>
      ((blank.append (step s member)).append blank).append (state s.target))

theorem shows_verdictLine (p : Palette) (clean : Clean word) (verdict : Verdict) :
    Shows (verdictLine p word verdict) (verdictLine .plain word verdict) := by
  have quoted : Shows (p.paint .bold ("\"" ++ word ++ "\"")) ("\"" ++ word ++ "\"") :=
    .paint p rfl (clean.between rfl rfl)
  have front : Shows "The word " "The word " := .of_clean (clean_literal rfl)
  have between : Shows " is " " is " := .of_clean (clean_literal rfl)
  have ended : Shows "." "." := .of_clean (clean_literal rfl)
  cases verdict with
  | accepted =>
    exact (((front.append quoted).append between).append
      (.paint p rfl (clean_literal rfl))).append ended
  | rejected =>
    exact (((front.append quoted).append between).append
      (.paint p rfl (clean_literal rfl))).append ended

theorem shows_tableError (p : Palette) (clean : ∀ text ∈ e.texts, Clean text) :
    Shows (tableError p e) (tableError .plain e) := by
  have message : Clean (e.message ++ " [") :=
    (TableError.clean_message clean).append (clean_literal rfl)
  have ended : Shows "]" "]" := .of_clean (clean_literal rfl)
  exact ((Shows.of_clean message).append (.paint p rfl (TableError.clean_tag e))).append ended

theorem clean_letters (qs : List StateId) : Clean (" ".intercalate (qs.map toString)) := by
  induction qs with
  | nil => exact (clean_literal rfl : Clean "")
  | cons q qs ih =>
    cases qs with
    | nil => simpa using clean_letter q
    | cons r qs =>
      rw [List.map_cons, List.map_cons, String.intercalate_cons_cons]
      exact ((clean_letter q).append (clean_literal rfl)).append ih

theorem shows_wordError (p : Palette) (e : WordError) : Shows (wordError p e) (wordError .plain e) := by
  have message : Clean (e.message ++ " [") := e.clean_message.append (clean_literal rfl)
  have tag : Clean e.tag := clean_literal rfl
  have between : Shows "]\n  visited before failure: " "]\n  visited before failure: " :=
    .of_clean (clean_literal rfl)
  exact (((Shows.of_clean message).append (.paint p rfl tag)).append between).append
    (.of_clean (clean_letters e.visited))

end Report

namespace Session

variable {settings : Settings}

/-- Without colours the palette is not looked at. -/
theorem proceed_palette (colourless : settings.effectiveColor = false) (s : Surroundings)
    (palette : Palette) (word : Option String) :
    proceed { s with palette := palette } settings word = proceed s settings word := by
  have same : Surroundings.paletteFor { s with palette := palette } settings = s.paletteFor settings := by
    simp [Surroundings.paletteFor, colourless]
  simp only [proceed, choose, same]
  rfl

theorem run_palette (s : Surroundings) (options : Options) (palette : Palette)
    (colourless : ∀ saved, (s.settings options.config).value = .ok saved →
      (saved.merge options).effectiveColor = false) :
    run { s with palette := palette } options = run s options := by
  have same : Surroundings.settings { s with palette := palette } options.config =
      s.settings options.config := rfl
  rw [run, run, same]
  apply Journaled.bind_congr
  cases loaded : (s.settings options.config).value with
  | error fault => rfl
  | ok saved => exact proceed_palette (colourless saved loaded) s palette options.word

end Session

open Report in
/-- Colour never changes the text. Without its style sequences whatever is printed in colour is what is
printed without: the table of an automaton, the trace of a word and the verdict on it, and the errors; a
word, or what an error repeats, must hold no escape character of its own, but a refused symbol may be
one. And where the settings turn colours off, or do not load, the palette has no effect on a run. -/
theorem colour_immaterial :
    (∀ M, unstyled (automatonTable .ansi M) = automatonTable .plain M) ∧
    (∀ t, Clean t.word → unstyled (traceLine .ansi t) = traceLine .plain t) ∧
    (∀ word verdict, Clean word →
      unstyled (verdictLine .ansi word verdict) = verdictLine .plain word verdict) ∧
    (∀ e : TableError, (∀ text ∈ e.texts, Clean text) →
      unstyled (tableError .ansi e) = tableError .plain e) ∧
    (∀ e, unstyled (wordError .ansi e) = wordError .plain e) ∧
    (∀ s options palette, (∀ saved, (s.settings options.config).value = .ok saved →
        (saved.merge options).effectiveColor = false) →
      Session.run { s with palette := palette } options = Session.run s options) := by
  refine ⟨?_,?_,?_,?_,?_,Session.run_palette⟩
  · exact fun M => (shows_automatonTable .ansi M).unstyled_eq
  · exact fun t clean => (shows_traceLine .ansi clean).unstyled_eq
  · exact fun word verdict clean => (shows_verdictLine .ansi clean verdict).unstyled_eq
  · exact fun e clean => (shows_tableError .ansi clean).unstyled_eq
  · exact fun e => (shows_wordError .ansi e).unstyled_eq

open Report in
/-- The automaton that tells odd from even, a word on it, an unknown state, an escape character in a word,
and a run without colours that meets that word. -/
theorem colour_immaterial_parity :
    let M := Automaton.ofRows 2 [[⟨1⟩, .start], [.start, ⟨1⟩]] [⟨1⟩]
    let t : Trace := ⟨"01", [.start, ⟨1⟩, ⟨1⟩]⟩
    let unknown : TableError := .unknownState "x" (.transition .start 1)
    let escape : WordError := ⟨'\x1b', 0, 2, [.start]⟩
    let files := (FileSystem.empty []).put ["t"] (.file (Text.encode "2 2\nB A\nA B\n1\nB"))
    let s : Surroundings := ⟨files, some "/c", ([] : List Reading), .plain, id⟩
    let options : Options := { file := some "/t", word := some "\x1b", noColor := true }
    unstyled (automatonTable .ansi M) = "        0  1\n→ A    B A\n  B *  A B\n" ∧
      (Clean t.word ∧ unstyled (traceLine .ansi t) = "A --0--> B --1--> B") ∧
      unstyled (verdictLine .ansi t.word .accepted) = "The word \"01\" is accepted." ∧
      ((∀ text ∈ unknown.texts, Clean text) ∧ unstyled (tableError .ansi unknown) =
        "unknown state `x` in transition of state A on symbol 1 [unknown-state-reference]") ∧
      unstyled (wordError .ansi escape) = "invalid symbol '\\u\x7b1b\x7d' at position 0 " ++
        "(alphabet is 0..2) [invalid-symbol]\n  visited before failure: A" ∧
      ((s.settings none).value = .ok .default ∧
        (Settings.default.merge options).effectiveColor = false ∧
        Session.run { s with palette := .ansi } options = Session.run s options) := by
  intro M t unknown escape files s options
  obtain ⟨table,trace,verdict,tableFault,wordFault,run⟩ := colour_immaterial
  have word : Clean t.word := by decide
  have token : ∀ text ∈ unknown.texts, Clean text := by decide
  have loaded : (s.settings none).value = .ok .default := by decide +kernel
  have colourless : (Settings.default.merge options).effectiveColor = false := rfl
  refine ⟨(table M).trans (by decide +kernel),⟨word,(trace t word).trans (by decide +kernel)⟩,
    (verdict _ _ word).trans (by decide +kernel),
    ⟨token,(tableFault unknown token).trans (by decide +kernel)⟩,
    (wordFault escape).trans (by decide +kernel),loaded,colourless,?_⟩
  refine run s options .ansi fun saved known => ?_
  obtain rfl : Settings.default = saved := Except.ok.inj (loaded.symm.trans known)
  exact colourless

end DigitAutomata
