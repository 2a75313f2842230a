import Mathlib.Data.List.Induction
import Mathlib.Logic.Function.Basic

/-!
# Processes that take turns

A schedule lists whose turn it is. What one turn makes of the number of turns that each process
has had is carried over every schedule; in rounds, these numbers differ by at most one.
-/

namespace Riscvm.Turns

variable {σ ι : Type} [DecidableEq ι]

theorem count_append_singleton (schedule : List ι) (i : ι) :
    (fun j => (schedule ++ [i]).count j) =
      Function.update (fun j => schedule.count j) i (schedule.count i + 1) := by
  funext j
  rw [List.count_append, List.count_singleton, Function.update_apply]
  by_cases h : j = i
  · subst h
    simp
  · have hne : ¬(i == j) = true := by
      rw [beq_iff_eq]
      exact fun hij => h hij.symm
    rw [if_neg h, if_neg hne, Nat.add_zero]

/-- If each turn keeps `I` as long as nobody has had more than `limit` turns, then a schedule that
gives nobody more turns than that does. -/
theorem foldl_count {step : σ → ι → σ} {I : (ι → Nat) → σ → Prop} {limit : Nat}
    (turn : ∀ turns s i, turns i < limit → I turns s →
      I (Function.update turns i (turns i + 1)) (step s i))
    {s : σ} (start : I (fun _ => 0) s) (schedule : List ι)
    (bounded : ∀ i, schedule.count i ≤ limit) :
    I (fun i => schedule.count i) (schedule.foldl step s) := by
  induction schedule using List.reverseRecOn with
  | nil => exact start
  | append_singleton schedule i ih =>
      rw [List.foldl_append, List.foldl_cons, List.foldl_nil, count_append_singleton]
      have hle (j : ι) : schedule.count j ≤ (schedule ++ [i]).count j := by
        rw [List.count_append]
        exact Nat.le_add_right _ _
      apply turn
      · have hi := bounded i
        rw [List.count_append, List.count_singleton_self] at hi
        exact hi
      · exact ih fun j => Nat.le_trans (hle j) (bounded j)

/-- `k` rounds in which each of `n` processes takes one turn, in order. -/
def rounds (n : Nat) : Nat → List Nat
  | 0 => []
  | k + 1 => rounds n k ++ List.range n

theorem count_range (n i : Nat) : (List.range n).count i = if i < n then 1 else 0 := by
  rw [List.nodup_range.count]
  simp only [List.mem_range]

theorem count_rounds (n k i : Nat) : (rounds n k).count i = if i < n then k else 0 := by
  induction k with
  | zero => simp [rounds]
  | succ k ih =>
      rw [rounds, List.count_append, ih, count_range]
      split <;> rfl

/-- The first round comes before the others. -/
theorem rounds_succ (n k : Nat) : rounds n (k + 1) = List.range n ++ rounds n k := by
  induction k with
  | zero => exact (List.append_nil _).symm
  | succ k ih =>
      calc rounds n (k + 1 + 1) = rounds n (k + 1) ++ List.range n := rfl
        _ = List.range n ++ rounds n k ++ List.range n := by rw [ih]
        _ = List.range n ++ rounds n (k + 1) := List.append_assoc _ _ _

/-- What comes before a turn of a round. -/
theorem range_eq_append {n i : Nat} {done rest : List Nat} (h : List.range n = done ++ i :: rest) :
    done = List.range i ∧ i < n := by
  have hlength := congrArg List.length h
  rw [List.length_range, List.length_append, List.length_cons] at hlength
  have hget : (List.range n)[done.length]? = some i := by
    rw [h, List.getElem?_append_right (Nat.le_refl _), Nat.sub_self]
    rfl
  obtain ⟨hlt, hi⟩ := List.getElem?_eq_some_iff.mp hget
  rw [List.getElem_range] at hi
  have htake : (List.range n).take done.length = done := by
    rw [h, List.take_left]
  rw [List.take_range, hi, Nat.min_eq_left (by omega)] at htake
  exact ⟨htake.symm, by omega⟩

end Riscvm.Turns
