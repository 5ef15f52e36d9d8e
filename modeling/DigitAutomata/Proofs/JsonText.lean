import DigitAutomata.Json.Printer
import DigitAutomata.Json.Reader
import DigitAutomata.Proofs.Numeral
import Mathlib.Data.List.DropRight

/-! JSON values and their texts. What is printed is read back as the value that was printed, at any
depth and before any text that does not go on with a number; so a printed value is a text of the format,
and no other value is printed alike. -/
namespace DigitAutomata.Json

variable {c : Char} {cs rest : List Char} {pieces : List Piece} {j : Json} {depth fuel code : Nat}

/-- Values made of texts, natural numbers and the words of the format. -/
inductive Plain : Json → Prop where
  | null : Plain .null
  | bool : Plain (.bool value)
  | nat : Plain (.ofNat n)
  | text : Plain (.ofText text)
  | array : (∀ item ∈ items, Plain item) → Plain (.array items)
  | record : (∀ field ∈ fields, Plain field.2) → Plain (.record fields)

/-- A number that is printed before the text ends where the text begins. -/
def Stops (rest : List Char) : Prop :=
  ∀ c, rest.head? = some c → c.isDigit = false ∧ c ≠ '.' ∧ c ≠ 'e' ∧ c ≠ 'E'

theorem hexDigit?_digitChar (small : d < 16) : hexDigit? (Nat.digitChar d) = some d := by
  revert d
  decide

theorem readString_unit (small : code < 65536) (read : readString cs = some (pieces, rest)) :
    readString ('\\' :: 'u' :: hex4 code ++ cs) = some (consUnit code pieces, rest) := by
  have digits : ∀ d, hexDigit? (Nat.digitChar (d % 16)) = some (d % 16) :=
    fun d => hexDigit?_digitChar (Nat.mod_lt d (by decide))
  have value : ((code / 4096 % 16 * 16 + code / 256 % 16) * 16 + code / 16 % 16) * 16 + code % 16 =
      code := by omega
  rw [readString.eq_def]
  simp [hex4, digits, read, value]

theorem readString_short {e : Char} (known : shortEscape? e = some c)
    (read : readString cs = some (pieces, rest)) :
    readString ('\\' :: e :: cs) = some (.char c :: pieces, rest) := by
  have unit : e ≠ 'u' := by
    rintro rfl
    contradiction
  rw [readString.eq_def]
  simp [known, read, unit]

theorem readString_char (unquoted : c ≠ '"') (plain : c ≠ '\\') (visible : ¬c.toNat < 32)
    (read : readString cs = some (pieces, rest)) :
    readString (c :: cs) = some (.char c :: pieces, rest) := by
  rw [readString.eq_def]
  simp [unquoted, plain, visible, read]

/-- A character is written by its short name, by its number, or as it is. -/
theorem escape_cases (c : Char) :
    (∃ e, escape (.char c) = ['\\', e] ∧ shortEscape? e = some c) ∨
    (c.toNat < 32 ∧ escape (.char c) = '\\' :: 'u' :: hex4 c.toNat) ∨
    (c ≠ '"' ∧ c ≠ '\\' ∧ ¬c.toNat < 32 ∧ escape (.char c) = [c]) := by
  by_cases named : c ∈ ['"', '\\', '\x08', '\t', '\n', '\x0c', '\r']
  · left
    simp only [List.mem_cons, List.not_mem_nil, or_false] at named
    rcases named with rfl | rfl | rfl | rfl | rfl | rfl | rfl <;> exact ⟨_,rfl,rfl⟩
  · right
    simp only [List.mem_cons, List.not_mem_nil, or_false, not_or] at named
    by_cases control : c.toNat < 32
    · exact .inl ⟨control,by simp [escape, named, control]⟩
    · exact .inr ⟨named.1,named.2.1,control,by simp [escape, named, control]⟩

theorem readString_escape (c : Char) (read : readString cs = some (pieces, rest)) :
    readString (escape (.char c) ++ cs) = some (.char c :: pieces, rest) := by
  rcases escape_cases c with ⟨e,written,known⟩ | ⟨control,written⟩ | ⟨unquoted,plain,visible,written⟩
  · rw [written]
    exact readString_short known read
  · have small : c.toNat < 65536 := by omega
    have unit := readString_unit small read
    have whole : isHighHalf c.toNat = false ∧ isLowHalf c.toNat = false := by
      simp only [isHighHalf, isLowHalf, Bool.and_eq_false_iff, decide_eq_false_iff_not]
      omega
    rw [written]
    simpa [consUnit, whole] using unit
  · rw [written]
    exact readString_char unquoted plain visible read

theorem readString_text (chars rest : List Char) :
    readString ((chars.map Piece.char).flatMap escape ++ '"' :: rest) =
      some (chars.map .char, rest) := by
  induction chars with
  | nil =>
    rw [readString.eq_def]
    rfl
  | cons c chars ih =>
    rw [List.map_cons, List.flatMap_cons, List.append_assoc]
    exact readString_escape c ih

theorem quote_append (pieces : List Piece) (rest : List Char) :
    quote pieces ++ rest = '"' :: (pieces.flatMap escape ++ '"' :: rest) := by
  simp [quote]

theorem readDigits_append {digits : List Char} (some : digits ≠ [])
    (all : ∀ c ∈ digits, c.isDigit = true) (stops : Stops rest) :
    readDigits (digits ++ rest) = .some (digits, rest) := by
  have ends : rest.takeWhile Char.isDigit = [] ∧ rest.dropWhile Char.isDigit = rest := by
    cases rest with
    | nil => exact ⟨rfl,rfl⟩
    | cons c rest => simp [(stops c rfl).1]
  have first : (digits ++ rest).head?.any Char.isDigit = true := by
    cases digits with
    | nil => contradiction
    | cons c digits => simpa using all c (by simp)
  rw [readDigits, if_pos first, List.takeWhile_append_of_pos all, List.dropWhile_append_of_pos all,
    ends.1, ends.2, List.append_nil]

/-- Only zero is written with a zero in front. -/
theorem toDigits_zero {digits : List Char} (written : Nat.toDigits 10 n = '0' :: digits) :
    digits = [] := by
  induction n using Nat.strongRecOn generalizing digits with
  | ind n ih =>
    by_cases small : n < 10
    · rw [Nat.toDigits_of_lt_base small] at written
      exact (List.cons.inj written).2.symm
    · have large : 10 ≤ n := Nat.le_of_not_lt small
      rw [Nat.toDigits_of_base_le (by decide) large] at written
      cases front : Nat.toDigits 10 (n / 10) with
      | nil => exact absurd front (List.ne_nil_of_length_pos Nat.length_toDigits_pos)
      | cons c cs =>
        rw [front] at written
        obtain rfl : c = '0' := (List.cons.inj written).1
        have zero := Nat.ofDigitChars_toDigits (b := 10) (n := n / 10) (by decide) (by decide)
        rw [front, ih (n / 10) (by omega) front] at zero
        have : n / 10 = 0 := zero.symm
        omega

theorem exists_digit (n : Nat) : ∃ c digits, Nat.toDigits 10 n = c :: digits ∧ c.isDigit = true := by
  cases written : Nat.toDigits 10 n with
  | nil => exact absurd written (List.ne_nil_of_length_pos Nat.length_toDigits_pos)
  | cons c digits =>
    have member : c ∈ Nat.toDigits 10 n := written ▸ List.mem_cons_self
    exact ⟨c,digits,rfl,Nat.isDigit_of_mem_toDigits (by decide) (by decide) member⟩

theorem readWhole_nat (n : Nat) (stops : Stops rest) :
    readWhole (Nat.toDigits 10 n ++ rest) = some (Nat.toDigits 10 n, rest) := by
  obtain ⟨c,digits,written,_⟩ := exists_digit n
  by_cases zero : c = '0'
  · subst zero
    rw [written, toDigits_zero written]
    rfl
  · have other : ∀ cs, Nat.toDigits 10 n ++ rest = '0' :: cs → False := by
      intro cs same
      rw [written] at same
      exact zero (List.cons.inj same).1
    rw [readWhole.eq_2 _ other]
    apply readDigits_append (written ▸ List.cons_ne_nil _ _) _ stops
    exact fun c member => Nat.isDigit_of_mem_toDigits (by decide) (by decide) member

theorem readNumber_nat (n : Nat) (stops : Stops rest) :
    readNumber (Nat.toDigits 10 n ++ rest) = some (Nat.toDigits 10 n, rest) := by
  have fraction : readFraction rest = some ([], rest) := by
    apply readFraction.eq_2
    rintro cs rfl
    exact (stops '.' rfl).2.1 rfl
  have exponent : readExponent rest = some ([], rest) := by
    cases rest with
    | nil => rfl
    | cons c cs => simp [readExponent, (stops c rfl).2.2]
  simp only [readNumber]
  split
  next front signed =>
    obtain ⟨c,digits,written,digit⟩ := exists_digit n
    rw [written] at signed
    obtain rfl : c = '-' := (List.cons.inj signed).1
    contradiction
  next => simp [readWhole_nat n stops, fraction, exponent]

@[simp] theorem skipSpace_solid (solid : isSpace c = false) : skipSpace (c :: cs) = c :: cs :=
  List.dropWhile_cons_of_neg (by simp [solid])

@[simp] theorem skipSpace_newline (depth : Nat) (cs : List Char) :
    skipSpace (newline depth ++ cs) = skipSpace cs :=
  List.dropWhile_append_of_pos fun c member => by
    rcases List.mem_cons.mp member with rfl | blank
    · rfl
    · rw [List.eq_of_mem_replicate blank]
      rfl

theorem readValue_skipSpace (fuel : Nat) (cs : List Char) :
    readValue fuel (skipSpace cs) = readValue fuel cs := by
  have again : skipSpace (skipSpace cs) = skipSpace cs := List.dropWhile_idempotent _ _
  cases fuel with
  | zero => rw [readValue, readValue]
  | succ fuel => rw [readValue, readValue, again]

theorem readValue_newline (fuel depth : Nat) (cs : List Char) :
    readValue fuel (newline depth ++ cs) = readValue fuel cs := by
  rw [← readValue_skipSpace, skipSpace_newline, readValue_skipSpace]

theorem readValue_space (fuel : Nat) (cs : List Char) :
    readValue fuel (' ' :: cs) = readValue fuel cs := by
  rw [← readValue_skipSpace, ← readValue_skipSpace fuel cs]
  rfl

theorem readItems_newline (fuel depth : Nat) (cs : List Char) :
    readItems fuel (newline depth ++ cs) = readItems fuel cs := by
  cases fuel with
  | zero => rw [readItems, readItems]
  | succ fuel => rw [readItems, readItems, readValue_newline]

theorem readFields_newline (fuel depth : Nat) (cs : List Char) :
    readFields fuel (newline depth ++ cs) = readFields fuel cs := by
  cases fuel with
  | zero => rw [readFields, readFields]
  | succ fuel => rw [readFields, readFields, skipSpace_newline]

theorem isSpace_of_isDigit (digit : c.isDigit = true) : isSpace c = false := by
  by_contra space
  simp only [isSpace, Bool.not_eq_false, Bool.or_eq_true, beq_iff_eq] at space
  rcases space with ((rfl | rfl) | rfl) | rfl <;> contradiction

/-- A value begins with a character that neither separates nor closes anything. -/
theorem Plain.print_head (plain : Plain j) (depth : Nat) : ∃ c cs, print depth j = c :: cs ∧
    isSpace c = false ∧ c ≠ ']' := by
  cases plain with
  | null => exact ⟨_,_,rfl,rfl,by decide⟩
  | @bool value => cases value <;> exact ⟨_,_,rfl,rfl,by decide⟩
  | @nat n =>
    obtain ⟨c,digits,written,digit⟩ := exists_digit n
    refine ⟨c,digits,by rw [ofNat, print, written],isSpace_of_isDigit digit,?_⟩
    rintro rfl
    contradiction
  | text => exact ⟨_,_,rfl,rfl,by decide⟩
  | @array items => cases items <;> exact ⟨_,_,rfl,rfl,by decide⟩
  | @record fields => cases fields <;> exact ⟨_,_,rfl,rfl,by decide⟩

/-- The value is read back from its text, with two units of fuel for each character. -/
def ReadsBack (j : Json) : Prop :=
  ∀ depth fuel rest, 2 * (print depth j).length ≤ fuel → Stops rest →
    readValue fuel (print depth j ++ rest) = some (j, rest)

theorem stops_cons (last : c.isDigit = false ∧ c ≠ '.' ∧ c ≠ 'e' ∧ c ≠ 'E') : Stops (c :: cs) :=
  fun _ same => Option.some.inj same ▸ last

theorem stops_newline (depth : Nat) (cs : List Char) : Stops (newline depth ++ cs) :=
  stops_cons (by decide)

theorem stops_printItems (depth outer : Nat) (items : List Json) (rest : List Char) :
    Stops (printItems depth items ++ (newline outer ++ rest)) := by
  cases items with
  | nil => exact stops_newline outer rest
  | cons item items => exact stops_cons (by decide)

theorem stops_printFields (depth outer : Nat) (fields : List (List Piece × Json))
    (rest : List Char) : Stops (printFields depth fields ++ (newline outer ++ rest)) := by
  cases fields with
  | nil => exact stops_newline outer rest
  | cons field fields => exact stops_cons (by decide)

theorem readValue_text (text : String) (fuel : Nat) (rest : List Char) :
    readValue (fuel + 1) (quote (Piece.ofText text) ++ rest) = some (.ofText text, rest) := by
  rw [quote_append, readValue, skipSpace_solid rfl]
  simp [Piece.ofText, readString_text, ofText]

theorem readValue_nat (n fuel : Nat) (stops : Stops rest) :
    readValue (fuel + 1) (Nat.toDigits 10 n ++ rest) = some (.ofNat n, rest) := by
  obtain ⟨c,digits,written,digit⟩ := exists_digit n
  have number := readNumber_nat n stops
  have other : ∀ d, d.isDigit = false → c ≠ d := by
    rintro d none rfl
    rw [digit] at none
    contradiction
  rw [written, List.cons_append] at number ⊢
  rw [readValue, skipSpace_solid (isSpace_of_isDigit digit)]
  simp [other '"' rfl, other '[' rfl, other '{' rfl, other 'n' rfl, other 't' rfl, other 'f' rfl,
    number, ofNat, written]

theorem readItems_last (read : readValue fuel cs = some (j, after))
    (closed : skipSpace after = ']' :: rest) : readItems (fuel + 1) cs = some ([j], rest) := by
  simp [readItems, read, closed]

theorem readItems_more {items : List Json} (read : readValue fuel cs = some (j, after))
    (more : skipSpace after = ',' :: later) (others : readItems fuel later = some (items, rest)) :
    readItems (fuel + 1) cs = some (j :: items, rest) := by
  simp [readItems, read, more, others]

theorem readItems_print {item : Json} {items : List Json} (outer : Nat)
    (each : ∀ i ∈ item :: items, ReadsBack i)
    (enough : 2 * (print depth item ++ printItems depth items).length + 1 ≤ fuel) :
    readItems fuel (print depth item ++ (printItems depth items ++ (newline outer ++ ']' :: rest))) =
      some (item :: items, rest) := by
  induction items generalizing item fuel with
  | nil =>
    obtain ⟨fuel,rfl⟩ := Nat.exists_eq_add_one.mpr (show 0 < fuel by omega)
    simp only [List.length_append] at enough
    apply readItems_last
    · exact each item (by simp) depth fuel _ (by omega) (stops_printItems depth outer [] _)
    · rw [printItems, List.nil_append, skipSpace_newline, skipSpace_solid rfl]
  | cons next items ih =>
    obtain ⟨fuel,rfl⟩ := Nat.exists_eq_add_one.mpr (show 0 < fuel by omega)
    simp only [List.length_append, printItems, List.length_cons] at enough
    apply readItems_more
    · exact each item (by simp) depth fuel _ (by omega) (stops_printItems depth outer (next :: items) _)
    · simp only [printItems, List.append_assoc, List.cons_append]
      exact skipSpace_solid rfl
    · rw [readItems_newline]
      apply ih fun i member => each i (List.mem_cons_of_mem _ member)
      rw [List.length_append]
      omega

/-- The fields of a record under their keys. -/
def keyed (fields : List (String × Json)) : List (List Piece × Json) :=
  fields.map fun field => (Piece.ofText field.1, field.2)

theorem keyed_cons (field : String × Json) (fields : List (String × Json)) :
    keyed (field :: fields) = (Piece.ofText field.1, field.2) :: keyed fields := rfl

theorem record_eq (fields : List (String × Json)) : record fields = .object (keyed fields) := rfl

theorem ofText_injective (text text' : String) (same : Piece.ofText text = Piece.ofText text') :
    text = text' := by
  have read := congrArg Piece.text? same
  rw [Piece.text?_ofText, Piece.text?_ofText] at read
  exact Option.some.inj read

/-- A key is found in its written form where it stands in the record. -/
theorem filter_keyed (key : String) (fields : List (String × Json)) :
    ((keyed fields).filter fun field => decide (field.1 = Piece.ofText key)) =
      keyed (fields.filter fun field => decide (field.1 = key)) := by
  have same : (fun field : List Piece × Json => decide (field.1 = Piece.ofText key)) ∘
      (fun field : String × Json => (Piece.ofText field.1, field.2)) =
        fun field => decide (field.1 = key) := by
    funext field
    exact decide_eq_decide.mpr ⟨ofText_injective _ _,fun same => same ▸ rfl⟩
  rw [keyed, List.filter_map, same, keyed]

theorem readFields_last (key : String) (read : readValue fuel cs = some (j, after))
    (closed : skipSpace after = '\x7d' :: rest) :
    readFields (fuel + 1) (quote (Piece.ofText key) ++ ':' :: cs) =
      some ([(Piece.ofText key, j)], rest) := by
  have colon : skipSpace (':' :: cs) = ':' :: cs := skipSpace_solid rfl
  rw [quote_append, readFields, skipSpace_solid rfl]
  simp [Piece.ofText, readString_text, colon, read, closed]

theorem readFields_more {fields : List (List Piece × Json)} (key : String)
    (read : readValue fuel cs = some (j, after)) (more : skipSpace after = ',' :: later)
    (others : readFields fuel later = some (fields, rest)) :
    readFields (fuel + 1) (quote (Piece.ofText key) ++ ':' :: cs) =
      some ((Piece.ofText key, j) :: fields, rest) := by
  have colon : skipSpace (':' :: cs) = ':' :: cs := skipSpace_solid rfl
  rw [quote_append, readFields, skipSpace_solid rfl]
  simp [Piece.ofText, readString_text, colon, read, more, others]

theorem readFields_print {value : Json} {fields : List (String × Json)} (key : String) (outer : Nat)
    (each : ∀ field ∈ (key, value) :: fields, ReadsBack field.2)
    (enough : 2 * (print depth value ++ printFields depth (keyed fields)).length + 1 ≤ fuel) :
    readFields fuel (quote (Piece.ofText key) ++ ':' :: ' ' :: (print depth value ++
      (printFields depth (keyed fields) ++ (newline outer ++ '\x7d' :: rest)))) =
      some (keyed ((key, value) :: fields), rest) := by
  have first : ReadsBack value := each (key, value) List.mem_cons_self
  induction fields generalizing key value fuel with
  | nil =>
    obtain ⟨fuel,rfl⟩ := Nat.exists_eq_add_one.mpr (show 0 < fuel by omega)
    simp only [List.length_append] at enough
    apply readFields_last
    · rw [readValue_space]
      exact first depth fuel _ (by omega) (stops_printFields depth outer [] _)
    · rw [keyed, List.map_nil, printFields, List.nil_append, skipSpace_newline, skipSpace_solid rfl]
  | cons next fields ih =>
    obtain ⟨fuel,rfl⟩ := Nat.exists_eq_add_one.mpr (show 0 < fuel by omega)
    have others := fun field member => each field (List.mem_cons_of_mem _ member)
    simp only [keyed_cons, List.length_append, printFields, List.length_cons] at enough
    apply readFields_more
    · rw [readValue_space]
      exact first depth fuel _ (by omega) (stops_printFields depth outer (keyed (next :: fields)) _)
    · simp only [keyed_cons, printFields, List.append_assoc, List.cons_append]
      exact skipSpace_solid rfl
    · rw [readFields_newline]
      apply ih next.1 others _ (others next List.mem_cons_self)
      rw [List.length_append]
      omega

theorem readWord_append (word rest : List Char) (j : Json) :
    readWord word j (word ++ rest) = some (j, rest) := by
  simp [readWord]

theorem readValue_null (fuel : Nat) (rest : List Char) :
    readValue (fuel + 1) (print depth .null ++ rest) = some (.null, rest) := by
  rw [print, readValue]
  exact readWord_append "ull".toList rest .null

theorem readValue_bool (value : Bool) (fuel : Nat) (rest : List Char) :
    readValue (fuel + 1) (print depth (.bool value) ++ rest) = some (.bool value, rest) := by
  cases value with
  | false =>
    rw [print, readValue]
    exact readWord_append "alse".toList rest (.bool false)
  | true =>
    rw [print, readValue]
    exact readWord_append "rue".toList rest (.bool true)

/-- An array is opened and then read item by item. -/
theorem readValue_array {item : Json} {items : List Json} (plain : Plain item)
    (each : ∀ i ∈ item :: items, ReadsBack i)
    (enough : 2 * (print depth (.array (item :: items))).length ≤ fuel + 1) :
    readValue (fuel + 1) (print depth (.array (item :: items)) ++ rest) =
      some (.array (item :: items), rest) := by
  have text : print depth (.array (item :: items)) ++ rest = '[' :: (newline (depth + 1) ++
      (print (depth + 1) item ++ (printItems (depth + 1) items ++ (newline depth ++ ']' :: rest)))) := by
    simp [print]
  have read : readItems fuel (print (depth + 1) item ++ (printItems (depth + 1) items ++
      (newline depth ++ ']' :: rest))) = some (item :: items, rest) := by
    apply readItems_print depth each
    simp only [print, List.length_append, List.length_cons] at enough ⊢
    omega
  obtain ⟨c,cs,written,solid,unclosed⟩ := plain.print_head (depth + 1)
  rw [written, List.cons_append] at read
  rw [text, readValue, skipSpace_solid rfl]
  simp only [skipSpace_newline, written, List.cons_append, skipSpace_solid solid]
  simp [unclosed, read]

/-- A record is opened and then read field by field. -/
theorem readValue_record {field : String × Json} {fields : List (String × Json)}
    (each : ∀ f ∈ field :: fields, ReadsBack f.2)
    (enough : 2 * (print depth (.record (field :: fields))).length ≤ fuel + 1) :
    readValue (fuel + 1) (print depth (.record (field :: fields)) ++ rest) =
      some (.record (field :: fields), rest) := by
  have text : print depth (.record (field :: fields)) ++ rest = '\x7b' :: (newline (depth + 1) ++
      (quote (Piece.ofText field.1) ++ ':' :: ' ' :: (print (depth + 1) field.2 ++
        (printFields (depth + 1) (keyed fields) ++ (newline depth ++ '\x7d' :: rest))))) := by
    simp [record_eq, keyed_cons, print]
  have read : readFields fuel (quote (Piece.ofText field.1) ++ ':' :: ' ' ::
      (print (depth + 1) field.2 ++ (printFields (depth + 1) (keyed fields) ++
        (newline depth ++ '\x7d' :: rest)))) = some (keyed (field :: fields), rest) := by
    apply readFields_print field.1 depth each
    simp only [record_eq, keyed_cons, print, List.length_append, List.length_cons] at enough ⊢
    omega
  rw [quote_append] at read
  rw [text, quote_append, readValue, skipSpace_solid rfl]
  simp only [skipSpace_newline, skipSpace_solid (c := '"') rfl]
  simp [read, record_eq]

theorem Plain.readsBack_of_succ (plain : Plain j) (read : ∀ depth fuel rest,
    2 * (print depth j).length ≤ fuel + 1 → Stops rest →
      readValue (fuel + 1) (print depth j ++ rest) = some (j, rest)) : ReadsBack j := by
  intro depth fuel rest enough stops
  obtain ⟨c,cs,written,_⟩ := plain.print_head depth
  have some : 0 < (print depth j).length := by simp [written]
  obtain ⟨fuel,rfl⟩ := Nat.exists_eq_add_one.mpr (show 0 < fuel by omega)
  exact read depth fuel rest enough stops

/-- By induction on how the value is made: the text of an array or a record is that of its parts. -/
theorem Plain.readsBack (plain : Plain j) : ReadsBack j := by
  induction plain with
  | null => exact Plain.null.readsBack_of_succ fun _ fuel rest _ _ => readValue_null fuel rest
  | @bool value =>
    exact Plain.bool.readsBack_of_succ fun _ fuel rest _ _ => readValue_bool value fuel rest
  | @nat n =>
    apply Plain.nat.readsBack_of_succ
    intro depth fuel rest _ stops
    rw [ofNat, print]
    exact readValue_nat n fuel stops
  | @text text =>
    apply Plain.text.readsBack_of_succ
    intro depth fuel rest _ _
    rw [ofText, print]
    exact readValue_text text fuel rest
  | @array items plain ih =>
    apply (Plain.array plain).readsBack_of_succ
    intro depth fuel rest enough _
    cases items with
    | nil => rw [print, readValue]; rfl
    | cons item items => exact readValue_array (plain item List.mem_cons_self) ih enough
  | @record fields plain ih =>
    apply (Plain.record plain).readsBack_of_succ
    intro depth fuel rest enough _
    cases fields with
    | nil => rw [record_eq, keyed, List.map_nil, print, readValue]; rfl
    | cons field fields => exact readValue_record ih enough

/-- The text of a value, with any blanks after it, is read as the value. -/
theorem ofText?_pretty_append (plain : Plain j) (blanks : String)
    (blank : ∀ c ∈ blanks.toList, isSpace c = true) : ofText? (j.pretty ++ blanks) = some j := by
  have stops : Stops blanks.toList := by
    intro c first
    have space := blank c (List.mem_of_head? first)
    simp only [isSpace, Bool.or_eq_true, beq_iff_eq] at space
    rcases space with ((rfl | rfl) | rfl) | rfl <;> decide
  have text : (j.pretty ++ blanks).toList = print 0 j ++ blanks.toList := by simp [pretty]
  have read := plain.readsBack 0 (2 * (j.pretty ++ blanks).toList.length + 2) blanks.toList
    (by rw [text, List.length_append]; omega) stops
  have ends : skipSpace blanks.toList = [] := List.dropWhile_eq_nil_iff.mpr blank
  rw [← text] at read
  simp only [ofText?, read, Option.bind_eq_bind, Option.bind_some, if_pos ends]

theorem ofText?_pretty (plain : Plain j) : ofText? j.pretty = some j := by
  have read := ofText?_pretty_append plain "" (by simp)
  rwa [String.append_empty] at read

end DigitAutomata.Json
