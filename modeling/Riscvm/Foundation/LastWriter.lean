import Mathlib.Data.List.GetD

/-!
# Last writer wins

A list stands for an array that is `zero` past its end. `Reflects` says that such an array is
what a history of writes left of an initial array: each position holds what was written there
last, or what it held at first.
-/

namespace Riscvm.LastWriter

variable {α : Type}

/-- A write of `items` to the positions from `start` on. -/
structure Write (α : Type) where
  start : Nat
  items : List α

/-- The positions that a write covers. -/
def Write.Covers (write : Write α) (i : Nat) : Prop :=
  write.start ≤ i ∧ i < write.start + write.items.length

instance (write : Write α) (i : Nat) : Decidable (write.Covers i) := instDecidableAnd

/-- What was written last at position `i`, or `initial` where nothing was; the newest write is
at the head. -/
def lastWritten (initial : Nat → α) : List (Write α) → Nat → α
  | [], i => initial i
  | write :: writes, i =>
      if write.Covers i then write.items.getD (i - write.start) (initial i)
      else lastWritten initial writes i

/-- The array holds at each position what was written there last. -/
def Reflects (zero : α) (initial : Nat → α) (writes : List (Write α)) (array : List α) : Prop :=
  ∀ i, array.getD i zero = lastWritten initial writes i

variable {zero : α} {initial : Nat → α} {writes : List (Write α)} {array array' : List α}

/-- An array filled up with zeros reads as before. -/
theorem getD_pad (xs : List α) (n i : Nat) :
    (xs ++ List.replicate n zero).getD i zero = xs.getD i zero := by
  rcases Nat.lt_or_ge i xs.length with hi | hi
  · rw [List.getD_append _ _ _ _ hi]
  · rw [List.getD_append_right _ _ _ _ hi, List.getD_eq_default _ _ hi]
    rcases Nat.lt_or_ge (i - xs.length) n with hn | hn
    · rw [List.getD_replicate _ hn]
    · rw [List.getD_eq_default _ _ (by rwa [List.length_replicate])]

theorem Reflects.congr (h : Reflects zero initial writes array)
    (same : ∀ i, array'.getD i zero = array.getD i zero) : Reflects zero initial writes array' :=
  fun i => (same i).trans (h i)

/-- A write that changes the positions it covers to its items, and no other. -/
theorem Reflects.write (h : Reflects zero initial writes array) {write : Write α}
    (covered : ∀ i, write.Covers i → array'.getD i zero = write.items.getD (i - write.start) zero)
    (others : ∀ i, ¬write.Covers i → array'.getD i zero = array.getD i zero) :
    Reflects zero initial (write :: writes) array' := by
  intro i
  rw [lastWritten]
  by_cases hi : write.Covers i
  · have hlt : i - write.start < write.items.length := by
      obtain ⟨hlow, hhigh⟩ := hi
      omega
    rw [if_pos hi, covered i hi, List.getD_eq_getElem _ _ hlt, List.getD_eq_getElem _ _ hlt]
  · rw [if_neg hi, others i hi, h i]

end Riscvm.LastWriter
