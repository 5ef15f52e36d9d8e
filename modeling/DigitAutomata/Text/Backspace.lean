import DigitAutomata.Text.Cluster

/-! Backspaces in a typed line. A backspace takes back the cluster kept last, or nothing at the start
of the line. Clusters are those of the line as typed: a mark after a backspace does not join what the
backspace leaves. -/
namespace DigitAutomata.Text

def byteCount : List Char → Nat
  | [] => 0
  | c :: cs => c.utf8Size + byteCount cs

/-- Drops characters until so many bytes are gone. -/
def dropBytes : Nat → List Char → List Char
  | _, [] => []
  | n, c :: cs => if n = 0 then c :: cs else dropBytes (n - c.utf8Size) cs

theorem dropBytes_append (cs rest : List Char) : dropBytes (byteCount cs) (cs ++ rest) = rest := by
  induction cs with
  | nil => cases rest <;> simp [byteCount, dropBytes]
  | cons c cs ih =>
    have h : c.utf8Size + byteCount cs ≠ 0 := by have := c.utf8Size_pos; omega
    rw [List.cons_append, byteCount, dropBytes, if_neg h, Nat.add_sub_cancel_left, ih]

theorem byteCount_append (cs ds : List Char) : byteCount (cs ++ ds) = byteCount cs + byteCount ds := by
  induction cs with
  | nil => simp [byteCount]
  | cons c cs ih => simp [byteCount, ih, Nat.add_assoc]

@[simp] theorem byteCount_reverse (cs : List Char) : byteCount cs.reverse = byteCount cs := by
  induction cs with
  | nil => rfl
  | cons c cs ih => simp [byteCount, byteCount_append, ih, Nat.add_comm]

/-- What is kept of a line, its last character first, and the sizes of the clusters in it, the last
first. A byte holds a size, so that of a cluster of 256 bytes or more a backspace takes back only the
remainder. -/
structure Typed where
  kept : List Char
  sizes : List UInt8

namespace Typed

def empty : Typed := ⟨[], []⟩

def add (t : Typed) (cluster : List Char) : Typed :=
  ⟨cluster.reverse ++ t.kept, UInt8.ofNat (byteCount cluster) :: t.sizes⟩

def takeBack (t : Typed) : Typed :=
  match t.sizes with
  | [] => t
  | size :: sizes => ⟨dropBytes size.toNat t.kept, sizes⟩

def press (t : Typed) (cluster : List Char) : Typed :=
  if cluster = ['\x08'] then t.takeBack else t.add cluster

/-- A backspace undoes a cluster whose size a byte can hold. -/
theorem takeBack_add (t : Typed) (cluster : List Char) (h : byteCount cluster < 256) :
    (t.add cluster).takeBack = t := by
  have size : (UInt8.ofNat (byteCount cluster)).toNat = byteCount cluster.reverse := by
    simpa using Nat.mod_eq_of_lt h
  simp only [takeBack, add, size, dropBytes_append]

theorem kept_foldl_press (t : Typed) (typed : List (List Char)) (none : ['\x08'] ∉ typed) :
    (typed.foldl press t).kept = typed.flatten.reverse ++ t.kept := by
  induction typed generalizing t with
  | nil => rfl
  | cons cluster typed ih =>
    have other : cluster ≠ ['\x08'] := fun same => none (by simp [same])
    have later : ['\x08'] ∉ typed := fun member => none (List.mem_cons_of_mem _ member)
    rw [List.foldl_cons, ih _ later, press, if_neg other]
    simp [add]

end Typed

def applyBackspaces (line : String) : String :=
  String.ofList ((clusters line.toList).foldl Typed.press .empty).kept.reverse

/-- Without a backspace a line is as it was typed. -/
theorem applyBackspaces_of_not_mem (none : '\x08' ∉ line.toList) : applyBackspaces line = line := by
  have typed : ['\x08'] ∉ clusters line.toList := by
    intro member
    rw [← flatten_clusters line.toList] at none
    exact none (List.mem_flatten.mpr ⟨_, member, List.mem_singleton.mpr rfl⟩)
  rw [applyBackspaces, Typed.kept_foldl_press _ _ typed]
  simp [Typed.empty]

end DigitAutomata.Text
