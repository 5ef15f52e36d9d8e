import DigitAutomata.Text.Blank

/-! The answers given to earlier prompts, oldest first. An answer is left out if it is empty, starts
with a blank or repeats the one before it; beyond the capacity the oldest answer goes. -/
namespace DigitAutomata

structure History where
  entries : List String
deriving DecidableEq

namespace History

def empty : History := ⟨[]⟩

def capacity : Nat := 100

def omits (h : History) (entry : String) : Bool :=
  entry.toList.head?.all Text.isBlank || h.entries.getLast? == some entry

def add (h : History) (entry : String) : History :=
  if h.omits entry then h
  else if h.entries.length < capacity then ⟨h.entries ++ [entry]⟩
  else ⟨h.entries.drop 1 ++ [entry]⟩

def ofEntries (entries : List String) : History := entries.foldl add empty

theorem length_add (h : History) (entry : String) (full : h.entries.length ≤ capacity) :
    (h.add entry).entries.length ≤ capacity := by
  unfold add
  split
  · exact full
  · split
    · simp; omega
    · simp [capacity] at *; omega

theorem length_foldl_add (h : History) (entries : List String)
    (full : h.entries.length ≤ capacity) : (entries.foldl add h).entries.length ≤ capacity := by
  induction entries generalizing h with
  | nil => exact full
  | cons entry entries ih => exact ih _ (length_add h entry full)

/-- A history never outgrows its capacity. -/
theorem length_ofEntries (entries : List String) :
    (ofEntries entries).entries.length ≤ capacity :=
  length_foldl_add empty entries (by simp [empty])

end History

end DigitAutomata
