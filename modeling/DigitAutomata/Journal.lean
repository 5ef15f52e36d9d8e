/-! What a computation notes while it runs. A journaled value carries its records, oldest first;
sequencing appends them and never rewrites an earlier one. -/
namespace DigitAutomata

inductive Level
  | debug | trace
deriving DecidableEq

/-- The part of the program that wrote a record. -/
inductive Topic
  | tableLine | table | word | settings
deriving DecidableEq

structure Record where
  level : Level
  topic : Topic
  text : String
deriving DecidableEq

structure Journaled (α : Type) where
  value : α
  records : List Record

namespace Journaled

instance : Monad Journaled where
  pure a := ⟨a, []⟩
  bind j f :=
    let next := f j.value
    ⟨next.value, j.records ++ next.records⟩

def note (level : Level) (topic : Topic) (text : String) : Journaled Unit :=
  ⟨(), [⟨level, topic, text⟩]⟩

@[simp] theorem value_pure (a : α) : (pure a : Journaled α).value = a := rfl
@[simp] theorem records_pure (a : α) : (pure a : Journaled α).records = [] := rfl
@[simp] theorem value_bind (j : Journaled α) (f : α → Journaled β) :
    (j >>= f).value = (f j.value).value := rfl
@[simp] theorem records_bind (j : Journaled α) (f : α → Journaled β) :
    (j >>= f).records = j.records ++ (f j.value).records := rfl
theorem ext {j k : Journaled α} (hv : j.value = k.value) (hr : j.records = k.records) : j = k := by
  cases j; cases k; simp_all

/-- What comes next need only agree on the value at hand. -/
theorem bind_congr {j : Journaled α} {f g : α → Journaled β} (same : f j.value = g j.value) :
    (j >>= f) = (j >>= g) := by
  apply ext
  · rw [value_bind, value_bind, same]
  · rw [records_bind, records_bind, same]

instance : LawfulMonad Journaled :=
  LawfulMonad.mk' Journaled (fun j => ext rfl (List.append_nil _)) (fun _ _ => ext rfl rfl)
    (fun _ _ _ => ext rfl (List.append_assoc _ _ _))

@[simp] theorem value_map (f : α → β) (j : Journaled α) : (f <$> j).value = f j.value := rfl
@[simp] theorem records_map (f : α → β) (j : Journaled α) : (f <$> j).records = j.records :=
  List.append_nil _
@[simp] theorem value_note : (note level topic text).value = () := rfl
@[simp] theorem records_note : (note level topic text).records = [⟨level, topic, text⟩] := rfl

end Journaled

end DigitAutomata
