import DigitAutomata.Proofs.Layout
import DigitAutomata.Table.Load

/-! Lines of encoded text. UTF-8 writes every character but the line feed and the carriage return in
bytes that are neither of these two, so the lines of the bytes are the lines of the text, and each can
be decoded by itself. -/
namespace DigitAutomata

namespace Text

theorem encode_eq_flatMap (text : String) :
    encode text = text.toList.flatMap String.utf8EncodeChar := by
  have bytes : text.toByteArray = (text.toList.flatMap String.utf8EncodeChar).toByteArray := by
    obtain ⟨cs,rfl⟩ : ∃ cs, text = String.ofList cs := ⟨text.toList,String.ofList_toList.symm⟩
    rw [String.toByteArray_ofList, String.toList_ofList]
    rfl
  rw [encode, bytes, List.toList_data_toByteArray]

theorem decode?_flatMap (cs : List Char) :
    decode? (cs.flatMap String.utf8EncodeChar) = some (String.ofList cs) := by
  have bytes : (cs.flatMap String.utf8EncodeChar).toByteArray = (String.ofList cs).toByteArray :=
    String.toByteArray_ofList.symm
  simp only [decode?, String.fromUTF8?, bytes, dif_pos (String.ofList cs).isValidUTF8]
  rfl

theorem decode?_eq_some_iff : decode? bytes = some text ↔ bytes = encode text := by
  constructor
  · intro decoded
    simp only [decode?, String.fromUTF8?] at decoded
    split at decoded
    next =>
      obtain rfl := Option.some.inj decoded
      exact List.toList_data_toByteArray.symm
    next => contradiction
  · rintro rfl
    rw [encode_eq_flatMap, decode?_flatMap, String.ofList_toList]

theorem utf8EncodeChar_ne_nil (c : Char) : String.utf8EncodeChar c ≠ [] := by
  apply List.ne_nil_of_length_pos
  rw [String.length_utf8EncodeChar]
  exact c.utf8Size_pos

theorem utf8EncodeChar_feed : String.utf8EncodeChar '\n' = [10] := by decide
theorem utf8EncodeChar_ret : String.utf8EncodeChar '\r' = [13] := by decide

/-- A byte below 128 stands for its character only, never for a part of another one. -/
theorem toNat_of_ascii_mem {byte : UInt8} (ascii : byte.toNat < 128)
    (member : byte ∈ String.utf8EncodeChar c) : c.toNat = byte.toNat := by
  have value : c.val.toNat = c.toNat := rfl
  simp only [String.utf8EncodeChar, value] at member
  split at member
  next =>
    have same := congrArg UInt8.toNat (List.mem_singleton.mp member)
    simp only [UInt8.toNat_ofNat'] at same
    omega
  next =>
    -- All bytes of a longer code are lead or continuation bytes.
    have high : 128 ≤ byte.toNat := by
      split at member
      next =>
        simp only [List.mem_cons, List.not_mem_nil, or_false] at member
        rcases member with rfl | rfl <;> simp only [UInt8.toNat_ofNat'] <;> omega
      next =>
        split at member
        next =>
          simp only [List.mem_cons, List.not_mem_nil, or_false] at member
          rcases member with rfl | rfl | rfl <;> simp only [UInt8.toNat_ofNat'] <;> omega
        next =>
          simp only [List.mem_cons, List.not_mem_nil, or_false] at member
          rcases member with rfl | rfl | rfl | rfl <;> simp only [UInt8.toNat_ofNat'] <;> omega
    omega

theorem eq_feed_of_mem (member : 10 ∈ String.utf8EncodeChar c) : c = '\n' :=
  Char.toNat_inj.mp (toNat_of_ascii_mem (by decide) member)

theorem eq_ret_of_mem (member : 13 ∈ String.utf8EncodeChar c) : c = '\r' :=
  Char.toNat_inj.mp (toNat_of_ascii_mem (by decide) member)

/-- A carriage return at the end of a line is decoded by itself. -/
theorem decode?_append_ret (decoded : decode? (bytes ++ [13]) = some text) :
    ∃ front, decode? bytes = some front ∧ text = front ++ "\r" := by
  obtain ⟨cs,rfl⟩ : ∃ cs, text = String.ofList cs := ⟨text.toList,String.ofList_toList.symm⟩
  rw [decode?_eq_some_iff, encode_eq_flatMap, String.toList_ofList] at decoded
  rcases List.eq_nil_or_concat cs with rfl | ⟨front,c,rfl⟩
  · simp at decoded
  rw [List.concat_eq_append] at decoded ⊢
  rw [List.flatMap_append, List.flatMap_singleton] at decoded
  have last : 13 ∈ String.utf8EncodeChar c := by
    rcases List.eq_nil_or_concat (String.utf8EncodeChar c) with none | ⟨inits,byte,written⟩
    · exact absurd none (utf8EncodeChar_ne_nil c)
    rw [List.concat_eq_append] at written
    rw [written, ← List.append_assoc] at decoded
    obtain ⟨-,same⟩ := List.append_inj' decoded rfl
    rw [written, ← same]
    exact List.mem_append_right _ (List.mem_singleton_self 13)
  obtain rfl := eq_ret_of_mem last
  rw [utf8EncodeChar_ret] at decoded
  refine ⟨String.ofList front,?_,String.ofList_append⟩
  rw [List.append_cancel_right decoded, decode?_flatMap]

theorem head?_flatMap_utf8EncodeChar (cs : List Char) :
    (cs.flatMap String.utf8EncodeChar).head? = some 10 ↔ cs.head? = some '\n' := by
  cases cs with
  | nil => simp
  | cons c cs =>
    obtain ⟨byte,bytes,written⟩ := List.exists_cons_of_ne_nil (utf8EncodeChar_ne_nil c)
    rw [List.flatMap_cons, written, List.cons_append, List.head?_cons, List.head?_cons,
      Option.some.injEq, Option.some.injEq]
    constructor
    · rintro rfl
      exact eq_feed_of_mem (written ▸ List.mem_cons_self)
    · rintro rfl
      exact (List.cons.inj (written.symm.trans utf8EncodeChar_feed)).1

namespace Lines

def map (f : List α → List β) (ls : Lines α) : Lines β := ⟨ls.ended.map f, f ls.rest⟩

theorem all_map (f : List α → List β) (ls : Lines α) [DecidableEq α] [DecidableEq β]
    (empty : ∀ xs, f xs = [] ↔ xs = []) : (ls.map f).all = ls.all.map f := by
  simp only [all, map, empty]
  split
  next => rfl
  next => rw [List.map_append, List.map_singleton]

end Lines

variable {α : Type} [DecidableEq α] {feed ret : α}

/-- A run without line ends goes in front of the first line, ended or not. -/
theorem split_run_append (feeds : feed ∉ w) (rets : ret ∉ w) (xs : List α) :
    Lines.split feed ret (w ++ xs) = match (Lines.split feed ret xs).ended with
      | [] => ⟨[], w ++ (Lines.split feed ret xs).rest⟩
      | line :: lines => ⟨(w ++ line) :: lines, (Lines.split feed ret xs).rest⟩ := by
  induction w with
  | nil =>
    rw [List.nil_append]
    cases cut : Lines.split feed ret xs with
    | mk ended rest => cases ended <;> rfl
  | cons x w ih =>
    simp only [List.mem_cons, not_or] at feeds rets
    rw [List.cons_append, Lines.split, ih feeds.2 rets.2, if_neg (Ne.symm feeds.1),
      if_neg fun both => rets.1 both.1.symm]
    cases (Lines.split feed ret xs).ended <;> rfl

/-- The bytes of a text are cut where the text is. -/
theorem split_flatMap_utf8EncodeChar (cs : List Char) :
    Lines.split 10 13 (cs.flatMap String.utf8EncodeChar) =
      (Lines.split '\n' '\r' cs).map (·.flatMap String.utf8EncodeChar) := by
  induction cs with
  | nil => rfl
  | cons c cs ih =>
    rw [List.flatMap_cons, Lines.split]
    by_cases feed : c = '\n'
    · subst feed
      rw [utf8EncodeChar_feed, List.singleton_append, Lines.split, if_pos rfl, if_pos rfl, ih]
      rfl
    by_cases ret : c = '\r'
    · subst ret
      rw [utf8EncodeChar_ret, List.singleton_append, Lines.split, if_neg (by decide), if_neg feed, ih]
      simp only [head?_flatMap_utf8EncodeChar, true_and]
      split
      next => rfl
      next =>
        simp only [Lines.map]
        cases (Lines.split '\n' '\r' cs).ended with
        | nil => simp [utf8EncodeChar_ret]
        | cons line lines => simp [utf8EncodeChar_ret]
    · rw [split_run_append (mt eq_feed_of_mem feed) (mt eq_ret_of_mem ret), ih, if_neg feed,
        if_neg fun both => ret both.1]
      simp only [Lines.map]
      cases (Lines.split '\n' '\r' cs).ended with
      | nil => simp
      | cons line lines => simp

end Text

/-- A device that delivers a text in UTF-8 is read line by line as the text is. -/
theorem Reading.ofStream_encode (source : String) :
    Reading.ofStream (Text.encode source) = Reading.ofText source := by
  have empty : ∀ cs : List Char, cs.flatMap String.utf8EncodeChar = [] ↔ cs = [] := by
    intro cs
    simp only [List.flatMap_eq_nil_iff, Text.utf8EncodeChar_ne_nil]
    exact List.eq_nil_iff_forall_not_mem.symm
  rw [ofStream, ofText, Text.byteLines, Text.encode_eq_flatMap, Text.split_flatMap_utf8EncodeChar,
    Text.Lines.all_map _ _ empty, Text.lines, List.map_map, List.map_map]
  apply List.map_congr_left
  intro line _
  simp only [Function.comp_apply, ofBytes, Text.decode?_flatMap]

end DigitAutomata
