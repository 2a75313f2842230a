import Mathlib.Data.BitVec

/-!
# Runs of a step function

A run feeds a list of inputs to `step`, one after another. If from a good state exactly
the bad inputs lead out of the good states, then a run stays good exactly as long as no
step of it is bad.
-/

namespace Riscvm.Runs

variable {σ ι : Type}

theorem forall_good_iff {step : σ → ι → σ} {Good : σ → Prop} {Bad : σ → ι → Prop}
    (hstep : ∀ s i, Good s → (Good (step s i) ↔ ¬Bad s i)) {s : σ} (start : Good s)
    (inputs : List ι) :
    (∀ done rest, inputs = done ++ rest → Good (done.foldl step s)) ↔
      ∀ done i rest, inputs = done ++ i :: rest → ¬Bad (done.foldl step s) i := by
  constructor
  · intro good done i rest hinputs
    have hbefore := good done (i :: rest) hinputs
    have hafter := good (done ++ [i]) rest (by rw [hinputs, List.append_assoc]; rfl)
    rw [List.foldl_append, List.foldl_cons, List.foldl_nil] at hafter
    exact (hstep _ i hbefore).mp hafter
  · intro safe
    induction inputs generalizing s with
    | nil =>
        intro done rest hinputs
        rw [(List.append_eq_nil_iff.mp hinputs.symm).1]
        exact start
    | cons i inputs ih =>
        intro done rest hinputs
        cases done with
        | nil => exact start
        | cons j done =>
            rw [List.cons_append, List.cons.injEq] at hinputs
            obtain ⟨rfl, hinputs⟩ := hinputs
            have hgood := (hstep s i start).mpr (safe [] i inputs rfl)
            refine ih hgood ?_ done rest hinputs
            exact fun done' j rest' h => safe (i :: done') j rest' (congrArg (i :: ·) h)

end Riscvm.Runs
