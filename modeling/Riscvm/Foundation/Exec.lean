import Mathlib.Data.BitVec

/-!
# Faulting state transformers

`EStateM ε σ α` is the shape of a call that mutates a state in place and may
stop early: the state reached when a fault `ε` is raised is kept, not rolled
back. This file adds the equations that run one bind at a time, the
restriction of a transformer to a component of a larger state, and
judgments: `Keeps R x` relates entry and final state of every run of `x`,
successful or not, `Raises E x` bounds its faults, `Safe I E x` adds an invariant
to that, and `Returns` describes the successful runs only.

Nothing here depends on a particular machine; states, faults and values are
arbitrary types.
-/

namespace Riscvm.Exec

variable {ε σ τ α β : Type}

/-- The state in which a run ends, whether it returned or faulted. -/
def finish : EStateM.Result ε σ α → σ
  | .ok _ s => s
  | .error _ s => s

@[simp] theorem finish_ok (a : α) (s : σ) : finish (.ok a s : EStateM.Result ε σ α) = s := rfl

@[simp] theorem finish_error (e : ε) (s : σ) :
    finish (.error e s : EStateM.Result ε σ α) = s := rfl

@[simp] theorem pure_apply (a : α) (s : σ) : (pure a : EStateM ε σ α) s = .ok a s := rfl

@[simp] theorem throw_apply (e : ε) (s : σ) : (throw e : EStateM ε σ α) s = .error e s := rfl

@[simp] theorem get_apply (s : σ) : (get : EStateM ε σ σ) s = .ok s s := rfl

@[simp] theorem modify_apply (f : σ → σ) (s : σ) :
    (modify f : EStateM ε σ PUnit) s = .ok ⟨⟩ (f s) := rfl

theorem bind_apply (x : EStateM ε σ α) (f : α → EStateM ε σ β) (s : σ) :
    (x >>= f) s = match x s with
      | .ok a t => f a t
      | .error e t => .error e t := rfl

theorem bind_ok {x : EStateM ε σ α} {s t : σ} {a : α} (h : x s = .ok a t)
    (f : α → EStateM ε σ β) : (x >>= f) s = f a t := by
  rw [bind_apply, h]

theorem bind_error {x : EStateM ε σ α} {s t : σ} {e : ε} (h : x s = .error e t)
    (f : α → EStateM ε σ β) : (x >>= f) s = .error e t := by
  rw [bind_apply, h]

@[simp] theorem pure_bind_apply (a : α) (f : α → EStateM ε σ β) (s : σ) :
    ((pure a : EStateM ε σ α) >>= f) s = f a s := rfl

@[simp] theorem throw_bind_apply (e : ε) (f : α → EStateM ε σ β) (s : σ) :
    ((throw e : EStateM ε σ α) >>= f) s = .error e s := rfl

@[simp] theorem get_bind_apply (f : σ → EStateM ε σ β) (s : σ) :
    ((get : EStateM ε σ σ) >>= f) s = f s s := rfl

@[simp] theorem modify_bind_apply (g : σ → σ) (f : PUnit → EStateM ε σ β) (s : σ) :
    ((modify g : EStateM ε σ PUnit) >>= f) s = f ⟨⟩ (g s) := rfl

theorem run_ite (p : Prop) [Decidable p] (x y : EStateM ε σ α) (s : σ) :
    (if p then x else y) s = if p then x s else y s := by
  by_cases h : p
  · rw [if_pos h, if_pos h]
  · rw [if_neg h, if_neg h]

/-- A sequence returns exactly when its first action returns and the rest
returns from there. -/
theorem bind_eq_ok {x : EStateM ε σ α} {f : α → EStateM ε σ β} {s u : σ} {b : β} :
    (x >>= f) s = .ok b u ↔ ∃ a t, x s = .ok a t ∧ f a t = .ok b u := by
  rw [bind_apply]
  constructor
  · intro h
    cases hx : x s with
    | ok a t => exact ⟨a, t, rfl, by simpa only [hx] using h⟩
    | error e t => simp only [hx] at h; cases h
  · rintro ⟨a, t, hx, hf⟩
    simp only [hx, hf]

/-- A sequence faults exactly when its first action does, or when the rest faults from where
the first action returns. -/
theorem bind_eq_error {x : EStateM ε σ α} {f : α → EStateM ε σ β} {s u : σ} {e : ε} :
    (x >>= f) s = .error e u ↔
      x s = .error e u ∨ ∃ a t, x s = .ok a t ∧ f a t = .error e u := by
  rw [bind_apply]
  cases hx : x s with
  | ok a t =>
      constructor
      · exact fun h => .inr ⟨a, t, rfl, h⟩
      · rintro (h | ⟨a', t', h, hf⟩)
        · cases h
        · cases h
          exact hf
  | error e' t =>
      constructor
      · exact fun h => .inl (by cases h; rfl)
      · rintro (h | ⟨a', t', h, -⟩)
        · cases h
          rfl
        · cases h

/-- Run `x` on the component selected by `view`, writing it back with `put`. -/
def zoom (view : τ → σ) (put : σ → τ → τ) (x : EStateM ε σ α) : EStateM ε τ α := fun t =>
  match x (view t) with
  | .ok a s => .ok a (put s t)
  | .error e s => .error e (put s t)

theorem zoom_ok {view : τ → σ} {put : σ → τ → τ} {x : EStateM ε σ α} {t : τ} {a : α} {s : σ}
    (h : x (view t) = .ok a s) : zoom view put x t = .ok a (put s t) := by
  simp only [zoom, h]

theorem zoom_error {view : τ → σ} {put : σ → τ → τ} {x : EStateM ε σ α} {t : τ} {e : ε} {s : σ}
    (h : x (view t) = .error e s) : zoom view put x t = .error e (put s t) := by
  simp only [zoom, h]

theorem finish_zoom {view : τ → σ} {put : σ → τ → τ} (x : EStateM ε σ α) (t : τ) :
    finish (zoom view put x t) = put (finish (x (view t))) t := by
  unfold zoom
  cases x (view t) with
  | ok a s => rfl
  | error e s => rfl

/-- Every run of `x`, returning or faulting, relates its entry state to its
final state by `R`. With `R` a preorder this is a frame condition. -/
def Keeps (R : σ → σ → Prop) (x : EStateM ε σ α) : Prop :=
  ∀ s, R s (finish (x s))

namespace Keeps

variable {R : σ → σ → Prop} {x : EStateM ε σ α} {f : α → EStateM ε σ β}

theorem pure (refl : ∀ s, R s s) (a : α) : Keeps R (pure a : EStateM ε σ α) := refl

theorem throw (refl : ∀ s, R s s) (e : ε) : Keeps R (throw e : EStateM ε σ α) := refl

theorem get (refl : ∀ s, R s s) : Keeps R (get : EStateM ε σ σ) := refl

theorem bind (trans : ∀ {s t u}, R s t → R t u → R s u) (first : Keeps R x)
    (rest : ∀ a, Keeps R (f a)) : Keeps R (x >>= f) := by
  intro s
  have h := first s
  rw [bind_apply]
  cases hx : x s with
  | ok a t =>
      rw [hx] at h
      exact trans h (rest a t)
  | error e t =>
      rw [hx] at h
      exact h

theorem ite {p : Prop} [Decidable p] {y : EStateM ε σ α} (hx : Keeps R x) (hy : Keeps R y) :
    Keeps R (if p then x else y) := by
  by_cases h : p
  · rwa [if_pos h]
  · rwa [if_neg h]

/-- The rest after a read of the state starts in the state that was read. -/
theorem get_bind_eq {f : σ → EStateM ε σ β}
    (rest : ∀ s, Keeps (fun s' t => s' = s → R s t) (f s)) :
    Keeps R (Bind.bind (MonadState.get : EStateM ε σ σ) f) := fun s => rest s s rfl

theorem modify {g : σ → σ} (h : ∀ s, R s (g s)) : Keeps R (modify g : EStateM ε σ PUnit) := h

theorem mono {R' : σ → σ → Prop} (h : Keeps R x) (imp : ∀ s t, R s t → R' s t) : Keeps R' x :=
  fun s => imp s _ (h s)

theorem zoom {view : τ → σ} {put : σ → τ → τ} {R' : τ → τ → Prop} (h : Keeps R x)
    (lift : ∀ t s, R (view t) s → R' t (put s t)) : Keeps R' (zoom view put x) := by
  intro t
  have hx := h (view t)
  unfold Exec.zoom
  cases hr : x (view t) with
  | ok a s => exact lift t s (by simpa only [hr, finish_ok] using hx)
  | error e s => exact lift t s (by simpa only [hr, finish_error] using hx)

end Keeps

/-- Every run of `x` ends in the state it started from. -/
def ReadOnly (x : EStateM ε σ α) : Prop := Keeps (fun s t => t = s) x

namespace ReadOnly

variable {x : EStateM ε σ α} {f : α → EStateM ε σ β}

theorem pure (a : α) : ReadOnly (pure a : EStateM ε σ α) := fun _ => rfl

theorem throw (e : ε) : ReadOnly (throw e : EStateM ε σ α) := fun _ => rfl

theorem get : ReadOnly (get : EStateM ε σ σ) := fun _ => rfl

theorem bind (first : ReadOnly x) (rest : ∀ a, ReadOnly (f a)) : ReadOnly (x >>= f) :=
  Keeps.bind (fun h h' => h'.trans h) first rest

/-- After reading the state the rest may use what it knows about it. -/
theorem get_bind {f : σ → EStateM ε σ β} (rest : ∀ s, finish (f s s) = s) :
    ReadOnly (Bind.bind (MonadState.get : EStateM ε σ σ) f) := rest

theorem ite {p : Prop} [Decidable p] {y : EStateM ε σ α} (hx : ReadOnly x) (hy : ReadOnly y) :
    ReadOnly (if p then x else y) := by
  by_cases h : p
  · rwa [if_pos h]
  · rwa [if_neg h]

theorem zoom {view : τ → σ} {put : σ → τ → τ} (h : ReadOnly x)
    (put_view : ∀ t, put (view t) t = t) : ReadOnly (zoom view put x) :=
  Keeps.zoom h fun t s hs => by rw [hs, put_view]

theorem state_eq (h : ReadOnly x) {s t : σ} {a : α} (run : x s = .ok a t) : t = s := by
  have hs := h s
  rwa [run, finish_ok] at hs

/-- A successful run of a read-only action returns to its entry state. -/
theorem ok (h : ReadOnly x) {s t : σ} {a : α} (run : x s = .ok a t) : x s = .ok a s := by
  rw [run, h.state_eq run]

end ReadOnly

/-- Every faulting run of `x` relates its entry state to its final state by `R`. -/
def Faults (R : σ → σ → Prop) (x : EStateM ε σ α) : Prop := ∀ s e t, x s = .error e t → R s t

theorem Keeps.faults {R : σ → σ → Prop} {x : EStateM ε σ α} (h : Keeps R x) : Faults R x := by
  intro s e t hx
  have hs := h s
  rwa [hx] at hs

/-- Every fault that `x` raises is one of `E`. -/
def Raises (E : ε → Prop) (x : EStateM ε σ α) : Prop := ∀ s e t, x s = .error e t → E e

namespace Raises

variable {E : ε → Prop} {x : EStateM ε σ α} {f : α → EStateM ε σ β}

theorem pure (a : α) : Raises E (pure a : EStateM ε σ α) := by
  rintro s e t ⟨⟩

theorem throw {e : ε} (h : E e) : Raises E (throw e : EStateM ε σ α) := by
  rintro s e t ⟨⟩
  exact h

theorem get : Raises E (get : EStateM ε σ σ) := by
  rintro s e t ⟨⟩

theorem set (s' : σ) : Raises E (set s' : EStateM ε σ PUnit) := by
  rintro s e t ⟨⟩

theorem modify (f : σ → σ) : Raises E (modify f : EStateM ε σ PUnit) := by
  rintro s e t ⟨⟩

theorem bind (first : Raises E x) (rest : ∀ a, Raises E (f a)) : Raises E (x >>= f) := by
  intro s e u h
  rw [bind_apply] at h
  cases hx : x s with
  | ok a t =>
      rw [hx] at h
      exact rest a t e u h
  | error e' t =>
      rw [hx] at h
      cases h
      exact first s _ _ hx

theorem ite {p : Prop} [Decidable p] {y : EStateM ε σ α} (hx : Raises E x) (hy : Raises E y) :
    Raises E (if p then x else y) := by
  by_cases h : p
  · rwa [if_pos h]
  · rwa [if_neg h]

theorem zoom {view : τ → σ} {put : σ → τ → τ} (h : Raises E x) : Raises E (zoom view put x) := by
  intro t e u hr
  unfold Exec.zoom at hr
  cases hx : x (view t) with
  | ok a s =>
      rw [hx] at hr
      cases hr
  | error e' s =>
      rw [hx] at hr
      cases hr
      exact h _ _ _ hx

end Raises

/-- `x` returns, whatever it starts from. -/
def Sure (x : EStateM ε σ α) : Prop := Raises (fun _ => False) x

/-- A run of `x` from `s` that faults relates `s` to its final state by `R`. -/
def FaultsAt (R : σ → σ → Prop) (x : EStateM ε σ α) (s : σ) : Prop :=
  ∀ e t, x s = .error e t → R s t

namespace FaultsAt

variable {R : σ → σ → Prop} {x : EStateM ε σ α} {f : α → EStateM ε σ β} {s : σ}

theorem of_sure (h : Sure x) : FaultsAt R x s := fun e t hx => (h s e t hx).elim

theorem of_keeps (h : Keeps R x) : FaultsAt R x s := h.faults s

theorem get_bind {f : σ → EStateM ε σ β} (h : FaultsAt R (f s) s) : FaultsAt R (get >>= f) s := h

/-- The rest runs from a state that is still related to the first. -/
theorem bind (trans : ∀ {s t u}, R s t → R t u → R s u) (first : FaultsAt R x s)
    (rest : ∀ a t, x s = .ok a t → R s t ∧ FaultsAt R (f a) t) : FaultsAt R (x >>= f) s := by
  intro e u h
  obtain hx | ⟨a, t, hx, hf⟩ := bind_eq_error.mp h
  · exact first e u hx
  · obtain ⟨hst, hrest⟩ := rest a t hx
    exact trans hst (hrest e u hf)

/-- Nothing after the first action fails. -/
theorem commit (first : FaultsAt R x s) (rest : ∀ a, Sure (f a)) : FaultsAt R (x >>= f) s := by
  intro e u h
  obtain hx | ⟨a, t, hx, hf⟩ := bind_eq_error.mp h
  · exact first e u hx
  · exact (rest a t e u hf).elim

/-- The first action only looks. -/
theorem look (first : ReadOnly x) (refl : R s s) (rest : ∀ a, FaultsAt R (f a) s) :
    FaultsAt R (x >>= f) s := by
  intro e u h
  obtain hx | ⟨a, t, hx, hf⟩ := bind_eq_error.mp h
  · have hu := first s
    rw [hx, finish_error] at hu
    exact hu ▸ refl
  · have ht := first.state_eq hx
    rw [ht] at hf
    exact rest a e u hf

theorem ite {p : Prop} [Decidable p] {y : EStateM ε σ α} (hx : p → FaultsAt R x s)
    (hy : ¬p → FaultsAt R y s) : FaultsAt R (if p then x else y) s := by
  by_cases h : p
  · rw [if_pos h]
    exact hx h
  · rw [if_neg h]
    exact hy h

theorem zoom {view : τ → σ} {put : σ → τ → τ} {R' : τ → τ → Prop} {t : τ}
    (h : FaultsAt R x (view t)) (lift : ∀ s, R (view t) s → R' t (put s t)) :
    FaultsAt R' (zoom view put x) t := by
  intro e u hr
  unfold Exec.zoom at hr
  cases hx : x (view t) with
  | ok a s =>
      rw [hx] at hr
      cases hr
  | error e' s =>
      rw [hx] at hr
      cases hr
      exact lift s (h _ s hx)

end FaultsAt

/-- A run that faults ends in the state it started from. -/
abbrev Intact (x : EStateM ε σ α) : Prop := ∀ s, FaultsAt (fun s t => t = s) x s

theorem ReadOnly.intact {x : EStateM ε σ α} (h : ReadOnly x) : Intact x := fun _ => .of_keeps h

namespace Intact

variable {x : EStateM ε σ α} {f : α → EStateM ε σ β}

theorem look (first : ReadOnly x) (rest : ∀ a, Intact (f a)) : Intact (x >>= f) :=
  fun s => .look first rfl fun a => rest a s

theorem commit (first : Intact x) (rest : ∀ a, Sure (f a)) : Intact (x >>= f) :=
  fun s => (first s).commit rest

theorem of_sure (h : Sure x) : Intact x := fun _ => .of_sure h

theorem ite {p : Prop} [Decidable p] {y : EStateM ε σ α} (hx : Intact x) (hy : Intact y) :
    Intact (if p then x else y) := fun s => .ite (fun _ => hx s) fun _ => hy s

theorem zoom {view : τ → σ} {put : σ → τ → τ} (h : Intact x) (put_view : ∀ t, put (view t) t = t) :
    Intact (zoom view put x) :=
  fun t => (h (view t)).zoom fun s hs => by rw [hs, put_view]

end Intact

/-- Run from `s`, `x` raises nothing but `E` and ends where `I` holds. -/
structure SafeAt (I : σ → Prop) (E : ε → Prop) (x : EStateM ε σ α) (s : σ) : Prop where
  raises : ∀ e t, x s = .error e t → E e
  ends : I (finish (x s))

/-- From wherever `I` holds, `x` raises nothing but `E` and keeps `I`. -/
def Safe (I : σ → Prop) (E : ε → Prop) (x : EStateM ε σ α) : Prop := ∀ s, I s → SafeAt I E x s

section Safe

variable {I : σ → Prop} {E : ε → Prop} {x : EStateM ε σ α} {f : α → EStateM ε σ β} {s : σ}

theorem SafeAt.ok {a : α} {t : σ} (h : x s = .ok a t) (ends : I t) : SafeAt I E x s := by
  refine ⟨fun e u hx => ?_, ?_⟩
  · rw [h] at hx
    cases hx
  · rw [h]
    exact ends

theorem SafeAt.get_bind {f : σ → EStateM ε σ β} (h : SafeAt I E (f s) s) :
    SafeAt I E (get >>= f) s := ⟨h.raises, h.ends⟩

theorem SafeAt.bind (first : SafeAt I E x s)
    (rest : ∀ a t, x s = .ok a t → I t → SafeAt I E (f a) t) : SafeAt I E (x >>= f) s := by
  have hends := first.ends
  refine ⟨fun e u h => ?_, ?_⟩
  · obtain hx | ⟨a, t, hx, hf⟩ := bind_eq_error.mp h
    · exact first.raises e u hx
    · rw [hx] at hends
      exact (rest a t hx hends).raises e u hf
  · rw [bind_apply]
    cases hx : x s with
    | ok a t =>
        rw [hx] at hends
        exact (rest a t hx hends).ends
    | error e t =>
        rw [hx] at hends
        exact hends

namespace Safe

theorem pure (a : α) : Safe I E (pure a : EStateM ε σ α) := fun _ hs => .ok rfl hs

theorem throw {e : ε} (h : E e) : Safe I E (throw e : EStateM ε σ α) := by
  refine fun s hs => ⟨?_, hs⟩
  rintro e t ⟨⟩
  exact h

theorem bind (first : Safe I E x) (rest : ∀ a, Safe I E (f a)) : Safe I E (x >>= f) :=
  fun s hs => (first s hs).bind fun a t _ ht => rest a t ht

theorem get_bind {f : σ → EStateM ε σ β} (rest : ∀ s, Safe I E (f s)) :
    Safe I E (Bind.bind (MonadState.get : EStateM ε σ σ) f) := fun s hs => (rest s s hs).get_bind

theorem ite {p : Prop} [Decidable p] {y : EStateM ε σ α} (hx : Safe I E x) (hy : Safe I E y) :
    Safe I E (if p then x else y) := by
  by_cases h : p
  · rwa [if_pos h]
  · rwa [if_neg h]

/-- An action that only looks is safe if it raises nothing else. -/
theorem readOnly (h : ReadOnly x) (raises : Raises E x) : Safe I E x :=
  fun s hs => ⟨raises s, by rwa [h s]⟩

end Safe

end Safe

/-- Every successful run of `x` relates its entry state, its value and its final state. -/
def Returns (Q : σ → α → σ → Prop) (x : EStateM ε σ α) : Prop :=
  ∀ s a t, x s = .ok a t → Q s a t

namespace Returns

variable {Q : σ → β → σ → Prop} {x : EStateM ε σ α} {f : α → EStateM ε σ β}

theorem pure {a : β} (h : ∀ s, Q s a s) : Returns Q (pure a : EStateM ε σ β) := by
  rintro s _ _ ⟨⟩
  exact h s

theorem throw (e : ε) : Returns Q (throw e : EStateM ε σ β) := by
  rintro s a t ⟨⟩

theorem mono {P : σ → β → σ → Prop} {x : EStateM ε σ β} (h : Returns P x)
    (imp : ∀ s b t, P s b t → Q s b t) : Returns Q x :=
  fun s b t hx => imp s b t (h s b t hx)

/-- A postcondition on the value may use the state that was read. -/
theorem get_bind {P : σ → β → Prop} {f : σ → EStateM ε σ β}
    (rest : ∀ s, Returns (fun _ b _ => P s b) (f s)) :
    Returns (fun s b _ => P s b) (get >>= f) :=
  fun s => rest s s

/-- The rest after a read of the state starts in the state that was read. -/
theorem get_bind_eq {f : σ → EStateM ε σ β}
    (rest : ∀ s, Returns (fun s' b t => s' = s → Q s b t) (f s)) : Returns Q (get >>= f) :=
  fun s b t h => rest s s b t h rfl

/-- A postcondition on the value alone is decided by the last action. -/
theorem bind_value {P : β → Prop} (rest : ∀ a, Returns (fun _ b _ => P b) (f a)) :
    Returns (fun _ b _ => P b) (x >>= f) := by
  intro s b u h
  obtain ⟨a, t, -, h⟩ := bind_eq_ok.mp h
  exact rest a t b u h

theorem ite {p : Prop} [Decidable p] {x y : EStateM ε σ β} (hx : p → Returns Q x)
    (hy : ¬p → Returns Q y) : Returns Q (if p then x else y) := by
  by_cases h : p
  · rw [if_pos h]
    exact hx h
  · rw [if_neg h]
    exact hy h

end Returns

end Riscvm.Exec
