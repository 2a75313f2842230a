import Riscvm.Foundation.Exec

/-!
# Two runs side by side

`Agree R x y` runs `x` and `y` from states related by `R`: both return the same value or both
raise the same fault, and their final states are related again. Taken of one action with
itself, it says that the action cannot tell related states apart.
-/

namespace Riscvm.Exec

variable {ε σ τ σ' τ' α β : Type}

/-- The same outcome in related states. -/
inductive Alike (R : σ → τ → Prop) : EStateM.Result ε σ α → EStateM.Result ε τ α → Prop where
  | ok (a : α) {s : σ} {t : τ} (related : R s t) : Alike R (.ok a s) (.ok a t)
  | error (e : ε) {s : σ} {t : τ} (related : R s t) : Alike R (.error e s) (.error e t)

theorem Alike.related {R : σ → τ → Prop} {r : EStateM.Result ε σ α} {r' : EStateM.Result ε τ α}
    (h : Alike R r r') : R (finish r) (finish r') := by
  cases h with
  | ok a related => exact related
  | error e related => exact related

/-- What a run shows apart from its final state. -/
def answer : EStateM.Result ε σ α → Except ε α
  | .ok a _ => .ok a
  | .error e _ => .error e

/-- A run is what it shows and where it ends. -/
theorem eq_ok_finish {r : EStateM.Result ε σ α} {a : α} (h : answer r = .ok a) :
    r = .ok a (finish r) := by
  cases r with
  | ok a' s =>
      cases h
      rfl
  | error e s => cases h

theorem eq_error_finish {r : EStateM.Result ε σ α} {e : ε} (h : answer r = .error e) :
    r = .error e (finish r) := by
  cases r with
  | ok a s => cases h
  | error e' s =>
      cases h
      rfl

theorem Alike.answer_eq {R : σ → τ → Prop} {r : EStateM.Result ε σ α}
    {r' : EStateM.Result ε τ α} (h : Alike R r r') : answer r = answer r' := by
  cases h with
  | ok a related => rfl
  | error e related => rfl

def Agree (R : σ → τ → Prop) (x : EStateM ε σ α) (y : EStateM ε τ α) : Prop :=
  ∀ s t, R s t → Alike R (x s) (y t)

namespace Agree

variable {R : σ → τ → Prop} {x : EStateM ε σ α} {y : EStateM ε τ α}
variable {f : α → EStateM ε σ β} {g : α → EStateM ε τ β}

theorem pure (a : α) : Agree R (pure a : EStateM ε σ α) (pure a : EStateM ε τ α) :=
  fun _ _ => .ok a

theorem throw (e : ε) : Agree R (throw e : EStateM ε σ α) (throw e : EStateM ε τ α) :=
  fun _ _ => .error e

theorem bind (first : Agree R x y) (rest : ∀ a, Agree R (f a) (g a)) :
    Agree R (x >>= f) (y >>= g) := by
  intro s t h
  have hfirst := first s t h
  rw [bind_apply, bind_apply]
  generalize x s = r, y t = r' at hfirst
  cases hfirst with
  | ok a related => exact rest a _ _ related
  | error e related => exact .error e related

theorem get_bind {f : σ → EStateM ε σ β} {g : τ → EStateM ε τ β}
    (rest : ∀ s t, R s t → Agree R (f s) (g t)) : Agree R (get >>= f) (get >>= g) :=
  fun s t h => rest s t h s t h

theorem modify {f : σ → σ} {g : τ → τ} (h : ∀ s t, R s t → R (f s) (g t)) :
    Agree R (modify f : EStateM ε σ PUnit) (modify g : EStateM ε τ PUnit) :=
  fun s t hr => .ok _ (h s t hr)

theorem ite {p : Prop} [Decidable p] {x' : EStateM ε σ α} {y' : EStateM ε τ α}
    (yes : Agree R x y) (no : Agree R x' y') :
    Agree R (if p then x else x') (if p then y else y') := by
  by_cases h : p
  · rwa [if_pos h, if_pos h]
  · rwa [if_neg h, if_neg h]

/-- Components related by `S` are changed on both sides alike. -/
theorem zoom {S : σ' → τ' → Prop} {view : σ → σ'} {view' : τ → τ'} {put : σ' → σ → σ}
    {put' : τ' → τ → τ} {x : EStateM ε σ' α} {y : EStateM ε τ' α} (h : Agree S x y)
    (view_related : ∀ s t, R s t → S (view s) (view' t))
    (put_related : ∀ s t c c', R s t → S c c' → R (put c s) (put' c' t)) :
    Agree R (zoom view put x) (zoom view' put' y) := by
  intro s t hr
  have hx := h (view s) (view' t) (view_related s t hr)
  unfold Exec.zoom
  generalize x (view s) = r, y (view' t) = r' at hx
  cases hx with
  | ok a related => exact .ok a (put_related s t _ _ hr related)
  | error e related => exact .error e (put_related s t _ _ hr related)

/-- An action on a component that is the same on both sides. -/
theorem zoom_same {view : σ → σ'} {view' : τ → σ'} {put : σ' → σ → σ} {put' : σ' → τ → τ}
    {x : EStateM ε σ' α} (view_eq : ∀ s t, R s t → view s = view' t)
    (put_related : ∀ s t c, R s t → R (put c s) (put' c t)) :
    Agree R (Exec.zoom view put x) (Exec.zoom view' put' x) := by
  refine zoom (S := Eq) ?_ view_eq ?_
  · rintro s _ rfl
    cases x s with
    | ok a s => exact .ok a rfl
    | error e s => exact .error e rfl
  · rintro s t c _ hr rfl
    exact put_related s t c hr

end Agree

end Riscvm.Exec
