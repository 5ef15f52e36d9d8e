import DigitAutomata.Proofs.Grammar
import Mathlib.Data.List.TakeWhile
import Mathlib.Logic.Relation

/-! Blanks around the words of a text. How many there are, and which, makes no difference to what is
loaded, as long as words stay apart and lines stay lines; only the report of a malformed header shows
its line, and that without the blanks at its ends. -/
namespace DigitAutomata

namespace Text

/-- Blanks only, line ends included. -/
def Blank (text : String) : Prop := ∀ c ∈ text.toList, isBlank c = true

instance (text : String) : Decidable (Blank text) :=
  decidable_of_iff (text.toList.all isBlank = true) List.all_eq_true

theorem words_blanks_append (blank : ∀ c ∈ bs, isBlank c = true) :
    words (bs ++ cs) = words cs := by
  induction bs with
  | nil => rfl
  | cons b bs ih =>
    rw [List.cons_append, words_blank (blank b (by simp)),
      ih fun c member => blank c (List.mem_cons_of_mem _ member)]

theorem words_append_blanks (blank : ∀ c ∈ bs, isBlank c = true) :
    words (cs ++ bs) = words cs := by
  cases bs with
  | nil => rw [List.append_nil]
  | cons b bs =>
    obtain ⟨first,later⟩ := List.forall_mem_cons.mp blank
    rw [words_append_blank first, words_eq_nil_iff.mpr later, List.append_nil]

theorem tokens_blank_append (blank : Blank b) (line : String) :
    tokens (b ++ line) = tokens line := by
  simp only [tokens, String.toList_append, words_blanks_append blank]

theorem tokens_append_blank (blank : Blank b) (line : String) :
    tokens (line ++ b) = tokens line := by
  simp only [tokens, String.toList_append, words_append_blanks blank]

/-- A gap between words may be of any width. -/
theorem tokens_gap (blank : Blank b) (some : b ≠ "") (front back : String) :
    tokens (front ++ b ++ back) = tokens front ++ tokens back := by
  simp only [Blank] at blank
  cases chars : b.toList with
  | nil => exact absurd (String.toList_eq_nil_iff.mp chars) some
  | cons c cs =>
    rw [chars] at blank
    obtain ⟨first,later⟩ := List.forall_mem_cons.mp blank
    simp only [tokens, String.toList_append, chars, List.append_assoc, List.cons_append]
    rw [words_append_blank first, words_blanks_append later, List.map_append]

/-- What `trimLeft` takes away. -/
theorem blanks_append_trimLeft (cs : List Char) :
    ∃ bs, (∀ c ∈ bs, isBlank c = true) ∧ bs ++ trimLeft cs = cs :=
  ⟨cs.takeWhile isBlank,fun _ => List.mem_takeWhile_imp,List.takeWhile_append_dropWhile⟩

theorem trimLeft_blanks_append (blank : ∀ c ∈ bs, isBlank c = true) (cs : List Char) :
    trimLeft (bs ++ cs) = trimLeft cs :=
  List.dropWhile_append_of_pos blank

theorem tokens_trim (line : String) : tokens (trim line) = tokens line := by
  obtain ⟨front,blankFront,left⟩ := blanks_append_trimLeft line.toList
  obtain ⟨back,blankBack,right⟩ := blanks_append_trimLeft (trimLeft line.toList).reverse
  have right : (trimLeft (trimLeft line.toList).reverse).reverse ++ back.reverse =
      trimLeft line.toList := by
    rw [← List.reverse_append, right, List.reverse_reverse]
  have blankBack : ∀ c ∈ back.reverse, isBlank c = true :=
    fun c member => blankBack c (List.mem_reverse.mp member)
  simp only [tokens, trim, String.toList_ofList]
  rw [← words_append_blanks blankBack, right, ← words_blanks_append blankFront, left]

theorem trim_append_blank (blank : Blank b) (line : String) : trim (line ++ b) = trim line := by
  obtain ⟨front,blankFront,left⟩ := blanks_append_trimLeft line.toList
  have back : ∀ c ∈ b.toList.reverse, isBlank c = true :=
    fun c member => blank c (List.mem_reverse.mp member)
  simp only [trim, String.toList_append]
  cases rest : trimLeft line.toList with
  | nil =>
    rw [rest, List.append_nil] at left
    rw [← left, trimLeft_blanks_append blankFront, ← List.append_nil b.toList,
      trimLeft_blanks_append blank]
    rfl
  | cons c cs =>
    have kept : trimLeft (line.toList ++ b.toList) = c :: cs ++ b.toList := by
      rw [trimLeft, List.dropWhile_append, ← trimLeft, rest]
      rfl
    rw [kept, List.reverse_append, trimLeft_blanks_append back]

theorem tokens_of_trim {line line' : String} (same : trim line = trim line') :
    tokens line = tokens line' := by
  rw [← tokens_trim, same, tokens_trim]

theorem map_trim_solid_congr {line line' : String} (same : trim line = trim line') :
    (solid [line]).map trim = (solid [line']).map trim := by
  have words := tokens_of_trim same
  by_cases blank : tokens line = []
  · rw [solid_blank blank, solid_blank (words ▸ blank)]
  · rw [solid_cons blank, solid_cons (words ▸ blank), List.map_cons, List.map_cons, same]

/-- A line feed between two texts keeps their lines apart. The last line before it may lose a carriage
return, and that is a blank. -/
theorem map_trim_solid_append (s t : String) :
    (solid (lines (s ++ "\n" ++ t))).map trim =
      (solid (lines s)).map trim ++ (solid (lines t)).map trim := by
  obtain ⟨last,unended,cut⟩ := split_append '\n' '\r' s.toList
  have feed : (s ++ "\n" ++ t).toList = s.toList ++ '\n' :: t.toList := by simp
  have joined : lines (s ++ "\n" ++ t) = (Lines.split '\n' '\r' s.toList).ended.map String.ofList ++
      [String.ofList last] ++ lines t := by
    simp only [lines, feed, cut]
    rw [List.append_cons, all_append, List.map_append, List.map_append, List.map_singleton]
  have opened : solid (lines s) = solid ((Lines.split '\n' '\r' s.toList).ended.map String.ofList ++
      [String.ofList (Lines.split '\n' '\r' s.toList).rest]) := by
    simp only [lines, Lines.all]
    split
    next none => simp [none, solid, tokens]
    next => simp
  have same : trim (String.ofList last) = trim (String.ofList (Lines.split '\n' '\r' s.toList).rest) := by
    rcases unended with rest | rest
    · rw [rest]
    · rw [rest, String.ofList_append]
      exact (trim_append_blank (by decide) _).symm
  rw [joined, opened, solid_append, solid_append, solid_append, List.map_append, List.map_append,
    List.map_append, map_trim_solid_congr same]

/-- No line is begun at the end of the text. -/
def LineStart (text : String) : Prop := text = "" ∨ ∃ front, text = front ++ "\n"

/-- No line goes on at the beginning of the text. -/
def LineEnd (text : String) : Prop := text = "" ∨ ∃ back, text = "\n" ++ back

theorem exists_lineStart (text : String) :
    ∃ front line, LineStart front ∧ '\n' ∉ line.toList ∧ text = front ++ line := by
  by_cases feed : '\n' ∈ text.toList
  · obtain ⟨line,front,cut,whole⟩ := List.eq_append_cons_of_mem (List.mem_reverse.mpr feed)
    refine ⟨String.ofList front.reverse ++ "\n",String.ofList line.reverse,
      .inr ⟨String.ofList front.reverse,rfl⟩,by simpa using whole,?_⟩
    apply String.toList_inj.mp
    rw [← List.reverse_reverse text.toList, cut]
    simp
  · exact ⟨"",text,.inl rfl,feed,String.empty_append.symm⟩

theorem exists_lineEnd (text : String) :
    ∃ line back, '\n' ∉ line.toList ∧ LineEnd back ∧ text = line ++ back := by
  by_cases feed : '\n' ∈ text.toList
  · obtain ⟨line,back,cut,whole⟩ := List.eq_append_cons_of_mem feed
    refine ⟨String.ofList line,"\n" ++ String.ofList back,by simpa using whole,
      .inr ⟨String.ofList back,rfl⟩,?_⟩
    apply String.toList_inj.mp
    rw [cut]
    simp
  · exact ⟨text,"",feed,.inl rfl,String.append_empty.symm⟩

end Text

open Text

theorem map_tokens_solid_congr {line line' : String} (same : tokens line = tokens line') :
    (solid [line]).map tokens = (solid [line']).map tokens := by
  by_cases blank : tokens line = []
  · rw [solid_blank blank, solid_blank (same ▸ blank)]
  · rw [solid_cons blank, solid_cons (same ▸ blank), List.map_cons, List.map_cons, same]

theorem tokenLines_eq_map_trim (source : String) :
    tokenLines source = ((solid (lines source)).map trim).map tokens := by
  have same : tokens ∘ trim = tokens := by
    funext line
    rw [Function.comp_apply, tokens_trim]
  rw [tokenLines, List.map_map, same]

@[simp] theorem tokenLines_empty : tokenLines "" = [] := rfl

theorem tokenLines_append (s t : String) :
    tokenLines (s ++ "\n" ++ t) = tokenLines s ++ tokenLines t := by
  simp only [tokenLines_eq_map_trim, map_trim_solid_append, List.map_append]

theorem tokenLines_line (whole : '\n' ∉ line.toList) :
    tokenLines line = (solid [line]).map tokens := by
  by_cases some : line = ""
  · subst some
    rfl
  · rw [tokenLines, lines_unbroken whole some]

theorem tokenLines_lineStart (start : LineStart s) (t : String) :
    tokenLines (s ++ t) = tokenLines s ++ tokenLines t := by
  rcases start with rfl | ⟨front,rfl⟩
  · rw [String.empty_append, tokenLines_empty, List.nil_append]
  · have ended : tokenLines (front ++ "\n") = tokenLines front := by
      simpa using tokenLines_append front ""
    rw [tokenLines_append, ended]

theorem tokenLines_lineEnd (s : String) (stop : LineEnd t) :
    tokenLines (s ++ t) = tokenLines s ++ tokenLines t := by
  rcases stop with rfl | ⟨back,rfl⟩
  · rw [String.append_empty, tokenLines_empty, List.append_nil]
  · have begun : tokenLines ("\n" ++ back) = tokenLines back := by
      simpa using tokenLines_append "" back
    rw [← String.append_assoc, tokenLines_append, begun]

/-- The induction is on the blanks: a line feed ends an empty line and any other blank stands before
the first line. -/
theorem tokenLines_blank_append (blank : Blank b) (t : String) :
    tokenLines (b ++ t) = tokenLines t := by
  obtain ⟨cs,rfl⟩ : ∃ cs, b = String.ofList cs := ⟨b.toList,String.ofList_toList.symm⟩
  simp only [Blank, String.toList_ofList] at blank
  induction cs with
  | nil => rw [String.ofList_nil, String.empty_append]
  | cons c cs ih =>
    obtain ⟨first,later⟩ := List.forall_mem_cons.mp blank
    rw [← List.singleton_append, String.ofList_append, String.append_assoc]
    generalize String.ofList cs ++ t = rest at ih
    by_cases feed : c = '\n'
    · subst feed
      have ended := tokenLines_append "" rest
      rw [String.empty_append, tokenLines_empty, List.nil_append] at ended
      exact ended.trans (ih later)
    · obtain ⟨line,back,whole,stop,rfl⟩ := exists_lineEnd rest
      have same : tokens (String.ofList [c] ++ line) = tokens line :=
        tokens_blank_append (by simpa [Blank] using first) line
      have whole' : '\n' ∉ (String.ofList [c] ++ line).toList := by
        simpa [whole] using Ne.symm feed
      rw [← ih later, ← String.append_assoc, tokenLines_lineEnd _ stop, tokenLines_lineEnd _ stop,
        tokenLines_line whole, tokenLines_line whole', map_tokens_solid_congr same]

theorem tokenLines_append_blank (blank : Blank b) (s : String) :
    tokenLines (s ++ b) = tokenLines s := by
  obtain ⟨cs,rfl⟩ : ∃ cs, b = String.ofList cs := ⟨b.toList,String.ofList_toList.symm⟩
  simp only [Blank, String.toList_ofList] at blank
  induction cs using List.reverseRecOn with
  | nil => rw [String.ofList_nil, String.append_empty]
  | append_singleton cs c ih =>
    obtain ⟨before,last⟩ := List.forall_mem_append.mp blank
    rw [String.ofList_append, ← String.append_assoc]
    generalize s ++ String.ofList cs = front at ih
    by_cases feed : c = '\n'
    · subst feed
      have ended := tokenLines_append front ""
      rw [String.append_empty, tokenLines_empty, List.append_nil] at ended
      exact ended.trans (ih before)
    · obtain ⟨front,line,start,whole,rfl⟩ := exists_lineStart front
      have same : tokens (line ++ String.ofList [c]) = tokens line :=
        tokens_append_blank (by simpa [Blank] using last) line
      have whole' : '\n' ∉ (line ++ String.ofList [c]).toList := by
        simpa [whole] using Ne.symm feed
      rw [← ih before, String.append_assoc, tokenLines_lineStart start, tokenLines_lineStart start,
        tokenLines_line whole, tokenLines_line whole', map_tokens_solid_congr same]

/-- A change of layout: blanks come in front of a line or after one, whole blank lines among them, or
a gap between words is made wider, narrower or of other blanks. -/
inductive Relaid : String → String → Prop
  | before : LineStart s → Blank b → Relaid (s ++ t) (s ++ b ++ t)
  | after : LineEnd t → Blank b → Relaid (s ++ t) (s ++ b ++ t)
  | between : Blank b → b ≠ "" → '\n' ∉ b.toList → Blank c → c ≠ "" → '\n' ∉ c.toList →
      Relaid (s ++ b ++ t) (s ++ c ++ t)

/-- A gap stands on one line, between the words before it and the words after it. -/
theorem tokenLines_gap (blank : Blank b) (some : b ≠ "") (whole : '\n' ∉ b.toList)
    (start : LineStart u) (front : '\n' ∉ l.toList) (back : '\n' ∉ r.toList) (stop : LineEnd v) :
    tokenLines (u ++ l ++ b ++ (r ++ v)) = tokenLines u ++
      (if tokens l ++ tokens r = [] then [] else [tokens l ++ tokens r]) ++ tokenLines v := by
  have parts : u ++ l ++ b ++ (r ++ v) = u ++ (l ++ b ++ r) ++ v := by
    simp only [String.append_assoc]
  have line : '\n' ∉ (l ++ b ++ r).toList := by simp [front, whole, back]
  have gap := tokens_gap blank some l r
  rw [parts, tokenLines_lineEnd _ stop, tokenLines_lineStart start, tokenLines_line line]
  by_cases none : tokens l ++ tokens r = []
  · rw [solid_blank (gap.trans none), if_pos none]
    rfl
  · rw [solid_cons (gap.symm ▸ none), if_neg none, List.map_cons, gap]
    rfl

theorem Relaid.tokenLines_eq (relaid : Relaid s t) : tokenLines s = tokenLines t := by
  cases relaid with
  | before start blank =>
    rw [String.append_assoc, tokenLines_lineStart start, tokenLines_lineStart start,
      tokenLines_blank_append blank]
  | after stop blank =>
    rw [tokenLines_lineEnd _ stop, tokenLines_lineEnd _ stop, tokenLines_append_blank blank]
  | @between b c s t blank some whole blank' some' whole' =>
    obtain ⟨u,l,start,front,rfl⟩ := exists_lineStart s
    obtain ⟨r,v,back,stop,rfl⟩ := exists_lineEnd t
    rw [tokenLines_gap blank some whole start front back stop,
      tokenLines_gap blank' some' whole' start front back stop]

namespace Dimensions

/-- A line is shown as it is only where its words are no header. -/
theorem ofTokens_line (words : List String) :
    (∀ line line', ofTokens line words = ofTokens line' words) ∨
      ∀ line, ofTokens line words = .error (.malformedHeader (trim line)) := by
  unfold ofTokens
  split
  next first second =>
    split
    next => exact .inl fun _ _ => rfl
    next => exact .inr fun _ => rfl
  next => exact .inr fun _ => rfl

end Dimensions

namespace Progress

variable {p next : Progress} {line line' : String} {words given given' : List String}

/-- After the header a line counts by its words only. -/
theorem advance_of_started (started : p ≠ start) (same : tokens line = tokens line') :
    p.advance line = p.advance line' := by
  have taken : ∀ words, p.take line words = p.take line' words := by
    intro words
    cases p with
    | start => contradiction
    | _ => rfl
  unfold advance
  rw [same]
  split
  next => rfl
  next => exact taken _

/-- At the beginning it counts by its words and by what would be shown of it. -/
theorem advance_of_trim (p : Progress) (same : trim line = trim line') :
    p.advance line = p.advance line' := by
  have words := tokens_of_trim same
  by_cases started : p = start
  · have read : ∀ words, Dimensions.ofTokens line words = Dimensions.ofTokens line' words := by
      intro words
      rcases Dimensions.ofTokens_line words with equal | malformed
      · exact equal line line'
      · rw [malformed, malformed, same]
    subst started
    simp only [advance, take, words, read]
  · exact advance_of_started started words

theorem feed_of_trim (p : Progress) (same : given.map trim = given'.map trim) :
    p.feed given = p.feed given' := by
  induction given generalizing p given' with
  | nil =>
    rw [List.map_nil] at same
    rw [List.map_eq_nil_iff.mp same.symm]
  | cons line rest ih =>
    cases given' with
    | nil => contradiction
    | cons line' rest' =>
      obtain ⟨first,others⟩ := List.cons.inj same
      have equal := p.advance_of_trim first
      cases step : p.advance line with
      | error e => rw [feed_error step, feed_error (equal ▸ step)]
      | ok next => rw [feed_ok step, feed_ok (equal ▸ step), ih next others]

theorem Step.started (step : Step words p next) (started : p ≠ start) : next ≠ start := by
  cases step with
  | blank => exact started
  | header => contradiction
  | row =>
    unfold holding
    split <;> exact Progress.noConfusion
  | surplus => exact Progress.noConfusion
  | count => exact Progress.noConfusion
  | finals => exact Progress.noConfusion
  | ignored => exact Progress.noConfusion

theorem outcome_of_started (started : p ≠ start) (same : given.map tokens = given'.map tokens) :
    p.outcome given = p.outcome given' := by
  induction given generalizing p given' with
  | nil =>
    rw [List.map_nil] at same
    rw [List.map_eq_nil_iff.mp same.symm]
  | cons line rest ih =>
    cases given' with
    | nil => contradiction
    | cons line' rest' =>
      obtain ⟨words,others⟩ := List.cons.inj same
      have equal := advance_of_started started words
      cases step : p.advance line with
      | error e => rw [outcome_error step, outcome_error (equal ▸ step)]
      | ok next =>
        rw [outcome_ok step, outcome_ok (equal ▸ step)]
        exact ih ((advance_eq_ok_iff.mp step).started started) others

/-- Only the header of two sources with the same words can tell them apart. -/
theorem outcome_start_of_words (some : ∀ line ∈ given, tokens line ≠ [])
    (same : given.map tokens = given'.map tokens) :
    start.outcome given = start.outcome given' ∨
      ∃ line rest line' rest', given = line :: rest ∧ given' = line' :: rest' ∧
        start.outcome given = .error (.malformedHeader (trim line)) ∧
        start.outcome given' = .error (.malformedHeader (trim line')) := by
  cases given with
  | nil =>
    rw [List.map_nil] at same
    rw [List.map_eq_nil_iff.mp same.symm]
    exact .inl rfl
  | cons line rest =>
    cases given' with
    | nil => contradiction
    | cons line' rest' =>
      obtain ⟨words,others⟩ := List.cons.inj same
      have solid := (List.forall_mem_cons.mp some).1
      have taken : start.advance line = start.take line (tokens line) := advance_solid _ solid
      have taken' : start.advance line' = start.take line' (tokens line) := by
        rw [advance_solid _ (words ▸ solid), words]
      rcases Dimensions.ofTokens_line (tokens line) with equal | malformed
      · left
        have equal : start.advance line = start.advance line' := by
          rw [taken, taken', take, take, equal line line']
        cases step : start.advance line with
        | error e => rw [outcome_error step, outcome_error (equal ▸ step)]
        | ok next =>
          rw [outcome_ok step, outcome_ok (equal ▸ step)]
          have header := take_start (taken ▸ step)
          generalize tokens line = words at header solid
          cases header with
          | header => exact outcome_of_started Progress.noConfusion others
          | blank => contradiction
      · right
        refine ⟨line,rest,line',rest',rfl,rfl,outcome_error ?_,outcome_error ?_⟩
        · rw [taken, take, malformed]
          rfl
        · rw [taken', take, malformed]
          rfl

end Progress

open Automaton Progress

/-- Texts with the same words on their lines are loaded alike: the same automaton or the same error,
except that a malformed header is reported as it stands in each. So blank lines, line ends, indentation
and the width of gaps have no part in what is loaded. -/
theorem layout_immaterial :
    (∀ s t, tokenLines s = tokenLines t → parse s = parse t ∨
      ∃ line rest line' rest', solid (lines s) = line :: rest ∧ solid (lines t) = line' :: rest' ∧
        parse s = .error (.malformedHeader (trim line)) ∧
        parse t = .error (.malformedHeader (trim line'))) ∧
    (∀ s t, Relation.EqvGen Relaid s t →
      tokenLines s = tokenLines t ∧ ∀ M, parse s = .ok M ↔ parse t = .ok M) := by
  have alike : ∀ s t, tokenLines s = tokenLines t → parse s = parse t ∨
      ∃ line rest line' rest', solid (lines s) = line :: rest ∧ solid (lines t) = line' :: rest' ∧
        parse s = .error (.malformedHeader (trim line)) ∧
        parse t = .error (.malformedHeader (trim line')) := by
    intro s t same
    rw [parse_eq_outcome, parse_eq_outcome, ← outcome_solid, ← outcome_solid start (lines t)]
    exact outcome_start_of_words (fun line member => tokens_of_mem_solid member) same
  refine ⟨alike,?_⟩
  intro s t relaid
  have same : tokenLines s = tokenLines t := by
    induction relaid with
    | rel _ _ once => exact once.tokenLines_eq
    | refl => rfl
    | symm _ _ _ ih => exact ih.symm
    | trans _ _ _ _ _ first second => exact first.trans second
  refine ⟨same,fun M => ?_⟩
  rcases alike s t same with equal | ⟨_,_,_,_,_,_,failed,failed'⟩
  · rw [equal]
  · rw [failed, failed']
    simp

/-- A blank line and a carriage return are put in, and the table is loaded as before. Two headers that
are malformed alike are each shown without the blanks around them. -/
theorem layout_immaterial_edits :
    let s := "2 1\nA A\n0"
    let t := "2 1\n \t\nA A\r\n0"
    (Relation.EqvGen Relaid s t ∧ (parse s = .ok (.ofRows 2 [[⟨0⟩, ⟨0⟩]] []) ↔
      parse t = .ok (.ofRows 2 [[⟨0⟩, ⟨0⟩]] []))) ∧
    tokenLines " 1  x" = tokenLines "\n1 x\n" ∧
    (parse " 1  x" = parse "\n1 x\n" ∨ ∃ line rest line' rest',
      solid (lines " 1  x") = line :: rest ∧ solid (lines "\n1 x\n") = line' :: rest' ∧
      parse " 1  x" = .error (.malformedHeader (trim line)) ∧
      parse "\n1 x\n" = .error (.malformedHeader (trim line'))) ∧
    parse " 1  x" = .error (.malformedHeader "1  x") ∧
    parse "\n1 x\n" = .error (.malformedHeader "1 x") := by
  intro s t
  have blankLine : Relaid ("2 1\n" ++ "A A\n0") ("2 1\n" ++ " \t\n" ++ "A A\n0") :=
    .before (.inr ⟨"2 1",rfl⟩) (by decide)
  have lineEnd : Relaid ("2 1\n \t\nA A" ++ "\n0") ("2 1\n \t\nA A" ++ "\r" ++ "\n0") :=
    .after (.inr ⟨"0",rfl⟩) (by decide)
  have relaid : Relation.EqvGen Relaid s t := .trans _ _ _ (.rel _ _ blankLine) (.rel _ _ lineEnd)
  have same : tokenLines " 1  x" = tokenLines "\n1 x\n" := by decide +kernel
  exact ⟨⟨relaid,(layout_immaterial.2 s t relaid).2 _⟩,same,layout_immaterial.1 _ _ same,
    by decide +kernel,by decide +kernel⟩

end DigitAutomata
