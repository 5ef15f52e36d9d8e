import DigitAutomata.Text.Lines

/-! Lines and words of a text that was put together from them. A line that holds words only, with a
blank between each two, is cut into these words; a text of such lines is cut into the lines. Blank
lines are left out, since no reader of a table looks at them. -/
namespace DigitAutomata.Text

/-- The lines that have a word. -/
def solid (lines : List String) : List String := lines.filter fun line => decide (tokens line ≠ [])

@[simp] theorem solid_nil : solid [] = [] := rfl
theorem solid_blank (blank : tokens line = []) : solid (line :: rest) = solid rest := by
  simp [solid, blank]
theorem solid_cons (words : tokens line ≠ []) : solid (line :: rest) = line :: solid rest := by
  simp [solid, words]
theorem solid_append (front back : List String) :
    solid (front ++ back) = solid front ++ solid back :=
  List.filter_append ..
theorem tokens_of_mem_solid (member : line ∈ solid given) : tokens line ≠ [] := by
  simpa using (List.mem_filter.mp member).2

/-- A token stands between blanks: it is not empty and has no blank itself. -/
def IsWord (token : String) : Prop := token.toList ≠ [] ∧ ∀ c ∈ token.toList, isBlank c = false

/-- No character of the line can be part of a line end. -/
def Unbroken (line : String) : Prop := '\n' ∉ line.toList ∧ '\r' ∉ line.toList

/-- The text has these lines, with a line feed between each two. One at the end is optional. -/
def Consists (source : String) (lines : List String) : Prop :=
  source = "\n".intercalate lines ∨ source = "\n".intercalate lines ++ "\n"

theorem words_last (solid : ¬isBlank c = true) (last : cs.head?.all isBlank = true) :
    words (c :: cs) = [c] :: words cs := by
  rw [words, if_neg solid, if_pos last]

theorem words_inner (solid : ¬isBlank c = true) (inner : ¬isBlank d = true) :
    words (c :: d :: cs) = consHead c (words (d :: cs)) := by
  rw [words, if_neg solid, if_neg (by simpa using inner)]

theorem words_word (nonempty : w ≠ []) (word : ∀ c ∈ w, isBlank c = false) : words w = [w] := by
  induction w with
  | nil => contradiction
  | cons c w ih =>
    have solid : ¬isBlank c = true := by simp [word c (by simp)]
    cases w with
    | nil => exact words_last solid rfl
    | cons d w =>
      have next : ¬isBlank d = true := by simp [word d (by simp)]
      rw [words_inner solid next, ih (by simp) fun e member => word e (List.mem_cons_of_mem _ member),
        consHead_cons]

theorem consHead_append (some : ws ≠ []) : consHead c (ws ++ vs) = consHead c ws ++ vs := by
  cases ws with
  | nil => contradiction
  | cons w ws => rfl

/-- A blank parts the words before it from the words after it. -/
theorem words_append_blank (blank : isBlank b = true) :
    words (cs ++ b :: rest) = words cs ++ words rest := by
  induction cs with
  | nil => exact words_blank blank
  | cons c cs ih =>
    by_cases gap : isBlank c = true
    · rw [List.cons_append, words_blank gap, words_blank gap, ih]
    · cases cs with
      | nil =>
        rw [List.cons_append, List.nil_append, words_last gap (by simp [blank]), words_blank blank,
          words_last gap rfl]
        rfl
      | cons d cs =>
        rw [List.cons_append] at ih ⊢
        by_cases next : isBlank d = true
        · rw [List.cons_append, words_last gap (by simp [next]), ih,
            words_last gap (by simp [next]), List.cons_append]
        · have some : words (d :: cs) ≠ [] := by simp [words_eq_nil_iff, next]
          rw [List.cons_append, words_inner gap next, ih, words_inner gap next,
            consHead_append some]

theorem words_word_blank (nonempty : w ≠ []) (word : ∀ c ∈ w, isBlank c = false)
    (blank : isBlank b = true) : words (w ++ b :: rest) = w :: words rest := by
  rw [words_append_blank blank, words_word nonempty word, List.singleton_append]

theorem tokens_word (word : IsWord token) : tokens token = [token] := by
  simp [tokens, words_word word.1 word.2]

/-- Words with a space between each two are found again. -/
theorem tokens_intercalate (words : ∀ token ∈ parts, IsWord token) :
    tokens (" ".intercalate parts) = parts := by
  induction parts with
  | nil => simp [tokens]
  | cons token rest ih =>
    have word := words token (by simp)
    cases rest with
    | nil => simpa using tokens_word word
    | cons next rest =>
      have later := ih fun token member => words token (List.mem_cons_of_mem _ member)
      simp only [tokens] at later ⊢
      rw [String.intercalate_cons_cons, String.toList_append, String.toList_append,
        List.append_assoc]
      change (Text.words (token.toList ++ ' ' :: (" ".intercalate (next :: rest)).toList)).map
        String.ofList = _
      rw [words_word_blank word.1 word.2 (by decide), List.map_cons, later, String.ofList_toList]

theorem all_append {α : Type} (front : List (List α)) (ls : Lines α) :
    Lines.all ⟨front ++ ls.ended, ls.rest⟩ = front ++ ls.all := by
  simp only [Lines.all]
  split
  next => rfl
  next => rw [List.append_assoc]

variable {α : Type} [DecidableEq α] {feed ret : α}

theorem split_end : Lines.split feed ret (feed :: xs) =
    ⟨[] :: (Lines.split feed ret xs).ended, (Lines.split feed ret xs).rest⟩ := by
  rw [Lines.split, if_pos rfl]

theorem split_ret (other : ret ≠ feed) (ends : xs.head? = some feed) :
    Lines.split feed ret (ret :: xs) = Lines.split feed ret xs := by
  rw [Lines.split, if_neg other, if_pos ⟨rfl,ends⟩]

theorem split_only (inner : x ≠ feed ∧ ¬(x = ret ∧ xs.head? = some feed))
    (none : (Lines.split feed ret xs).ended = []) :
    Lines.split feed ret (x :: xs) = ⟨[], x :: (Lines.split feed ret xs).rest⟩ := by
  rw [Lines.split, if_neg inner.1, if_neg inner.2, none]

theorem split_inner (inner : x ≠ feed ∧ ¬(x = ret ∧ xs.head? = some feed))
    (some : (Lines.split feed ret xs).ended = line :: later) :
    Lines.split feed ret (x :: xs) = ⟨(x :: line) :: later, (Lines.split feed ret xs).rest⟩ := by
  rw [Lines.split, if_neg inner.1, if_neg inner.2, some]

/-- Without a line feed there is no line end either, so a carriage return stays where it is. -/
theorem split_run (feeds : feed ∉ w) : Lines.split feed ret w = ⟨[], w⟩ := by
  induction w with
  | nil => rfl
  | cons x w ih =>
    simp only [List.mem_cons, not_or] at feeds
    have later := ih feeds.2
    rw [split_only ⟨Ne.symm feeds.1,fun both => feeds.2 (List.mem_of_head? both.2)⟩ (by rw [later]),
      later]

/-- A line feed ends the line that is left open before it, and takes a carriage return with it. -/
theorem split_append (feed ret : α) (xs : List α) : ∃ last,
    ((Lines.split feed ret xs).rest = last ∨ (Lines.split feed ret xs).rest = last ++ [ret]) ∧
    ∀ ys, Lines.split feed ret (xs ++ feed :: ys) =
      ⟨(Lines.split feed ret xs).ended ++ last :: (Lines.split feed ret ys).ended,
        (Lines.split feed ret ys).rest⟩ := by
  induction xs with
  | nil => exact ⟨[],.inl rfl,fun ys => split_end⟩
  | cons x xs ih =>
    obtain ⟨last,opened,cut⟩ := ih
    by_cases isFeed : x = feed
    · subst isFeed
      refine ⟨last,by rwa [split_end],fun ys => ?_⟩
      rw [List.cons_append, split_end, split_end, cut ys, List.cons_append]
    by_cases ends : x = ret ∧ (xs ++ [feed]).head? = some feed
    · -- The carriage return is dropped, at the end of `xs` only once the line feed follows it.
      have before : ∀ ys, (xs ++ feed :: ys).head? = some feed := by
        cases xs <;> simp_all
      obtain ⟨rfl,-⟩ := ends
      cases xs with
      | nil =>
        refine ⟨[],.inr ?_,fun ys => ?_⟩
        · rw [split_only ⟨isFeed,by simp⟩ (by rfl)]
          rfl
        · rw [List.cons_append, split_ret isFeed (before ys), List.nil_append, split_end,
            split_only ⟨isFeed,by simp⟩ (by rfl)]
          rfl
      | cons y xs =>
        have ends : (y :: xs).head? = some feed := before []
        refine ⟨last,by rwa [split_ret isFeed ends],fun ys => ?_⟩
        rw [List.cons_append, split_ret isFeed (before ys), split_ret isFeed ends, cut ys]
    · have inner : ∀ ys, x ≠ feed ∧ ¬(x = ret ∧ (xs ++ feed :: ys).head? = some feed) := by
        intro ys
        cases xs <;> exact ⟨isFeed,by simpa using ends⟩
      have whole : x ≠ feed ∧ ¬(x = ret ∧ xs.head? = some feed) := by
        cases xs with
        | nil => exact ⟨isFeed,by simp⟩
        | cons y xs => exact inner []
      cases kept : (Lines.split feed ret xs).ended with
      | nil =>
        refine ⟨x :: last,?_,fun ys => ?_⟩
        · rw [split_only whole kept]
          simpa using opened
        · have cut := cut ys
          rw [kept, List.nil_append] at cut
          rw [List.cons_append, split_inner (inner ys) (by rw [cut]), cut, split_only whole kept,
            List.nil_append]
      | cons line later =>
        refine ⟨last,by rwa [split_inner whole kept],fun ys => ?_⟩
        have cut := cut ys
        rw [kept, List.cons_append] at cut
        rw [List.cons_append, split_inner (inner ys) (by rw [cut]), cut, split_inner whole kept,
          List.cons_append]

theorem split_feed (feeds : feed ∉ w) (rets : ret ∉ w) :
    Lines.split feed ret (w ++ feed :: rest) =
      ⟨w :: (Lines.split feed ret rest).ended, (Lines.split feed ret rest).rest⟩ := by
  obtain ⟨last,unended,cut⟩ := split_append feed ret w
  have cut := cut rest
  rw [split_run feeds] at cut unended
  rcases unended with same | returned
  · simp only at same
    rw [cut, same, List.nil_append]
  · simp only at returned
    exact absurd (returned ▸ by simp) rets

theorem lines_unbroken (whole : '\n' ∉ line.toList) (some : line ≠ "") : lines line = [line] := by
  have chars : line.toList ≠ [] := by simpa using some
  simp [lines, split_run whole, Lines.all, chars]

theorem lines_feed (rest : String) (unbroken : Unbroken line) :
    lines (line ++ "\n" ++ rest) = line :: lines rest := by
  simp only [lines]
  rw [String.toList_append, String.toList_append, List.append_assoc]
  change (Lines.split '\n' '\r' (line.toList ++ '\n' :: _)).all.map String.ofList = _
  rw [split_feed unbroken.1 unbroken.2]
  by_cases last : (Lines.split '\n' '\r' rest.toList).rest = [] <;> simp [Lines.all, last]

theorem lines_join (unbroken : ∀ line ∈ parts, Unbroken line) :
    lines (String.join (parts.map (· ++ "\n"))) = parts := by
  induction parts with
  | nil => rfl
  | cons line rest ih =>
    rw [List.map_cons, String.join_cons, lines_feed _ (unbroken line (by simp)),
      ih fun line member => unbroken line (List.mem_cons_of_mem _ member)]

/-- The lines of a text that was put together from them are these lines, up to blank ones: the text
does not show whether its last line is empty. -/
theorem solid_lines (unbroken : ∀ line ∈ parts, Unbroken line) (consists : Consists source parts) :
    solid (lines source) = solid parts := by
  have empty : tokens "" = [] := rfl
  rcases consists with rfl | rfl
  · induction parts with
    | nil => rfl
    | cons line rest ih =>
      cases rest with
      | nil =>
        by_cases some : line = ""
        · subst some
          exact (solid_blank empty).symm
        · rw [String.intercalate_singleton, lines_unbroken (unbroken line (by simp)).1 some]
      | cons next rest =>
        have later := ih fun line member => unbroken line (List.mem_cons_of_mem _ member)
        rw [String.intercalate_cons_cons, lines_feed _ (unbroken line (by simp))]
        simp only [solid, List.filter_cons] at later ⊢
        rw [later]
  · induction parts with
    | nil => rfl
    | cons line rest ih =>
      cases rest with
      | nil =>
        have ended := lines_feed "" (unbroken line (by simp))
        rw [String.append_empty] at ended
        rw [String.intercalate_singleton, ended]
        rfl
      | cons next rest =>
        have later := ih fun line member => unbroken line (List.mem_cons_of_mem _ member)
        rw [String.intercalate_cons_cons, String.append_assoc, lines_feed _ (unbroken line (by simp))]
        simp only [solid, List.filter_cons] at later ⊢
        rw [later]

end DigitAutomata.Text
