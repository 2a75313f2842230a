import Riscvm.Foundation.Script

/-!
# What a run asks of its values

Where the requests of one kind can be trusted, a script fails by what it asks of the others. Its
demand is the condition under which a run from a given state does not fail. The demand of a
sequence is that of its first part and, for each way in which this returns, that of the rest.
-/

namespace Riscvm.Exec

variable {Req : Type → Type} {ε σ α β : Type}

/-- The run ends in a fault of `F`. -/
def FailsBy (F : ε → Prop) (r : EStateM.Result ε σ α) : Prop := ∃ e t, r = .error e t ∧ F e

theorem failsBy_bind {F : ε → Prop} {x : EStateM ε σ α} {f : α → EStateM ε σ β} {s : σ} :
    FailsBy F ((x >>= f) s) ↔
      FailsBy F (x s) ∨ ∃ a t, x s = .ok a t ∧ FailsBy F (f a t) := by
  constructor
  · rintro ⟨e, u, hrun, he⟩
    obtain hx | ⟨a, t, hx, hf⟩ := bind_eq_error.mp hrun
    · exact .inl ⟨e, u, hx, he⟩
    · exact .inr ⟨a, t, hx, e, u, hf, he⟩
  · rintro (⟨e, u, hx, he⟩ | ⟨a, t, hx, e, u, hf, he⟩)
    · exact ⟨e, u, bind_error hx _, he⟩
    · exact ⟨e, u, by rw [bind_ok hx, hf], he⟩

namespace Script

variable {handle : (β : Type) → Req β → EStateM ε σ β}

theorem Asks.bind_left {γ : Type} {r : Req γ} {s t : σ} {script : Script Req β}
    {f : β → Script Req α} (h : Asks handle r t script s) : Asks handle r t (script >>= f) s := by
  induction h with
  | here => exact .here
  | later answered rest ih => exact .later answered ih

theorem Asks.bind_right {γ : Type} {r : Req γ} {s t u : σ} {b : β} {script : Script Req β}
    {f : β → Script Req α} (first : script.run handle s = .ok b t)
    (h : Asks handle r u (f b) t) : Asks handle r u (script >>= f) s := by
  induction script generalizing s with
  | done b' =>
      cases first
      exact h
  | ask q next ih =>
      obtain ⟨b', s', answered, hrest⟩ := bind_eq_ok.mp first
      exact .later answered (ih b' hrest)

/-- No request of kind `P` that the run comes to fails by `F`. -/
def Trusted (F : ε → Prop) (P : (β : Type) → Req β → Prop)
    (handle : (β : Type) → Req β → EStateM ε σ β) (script : Script Req α) (s : σ) : Prop :=
  ∀ {γ : Type} {r : Req γ} {t : σ}, Asks handle r t script s → P γ r → ¬FailsBy F (handle γ r t)

/-- The run does not fail by `F` just when `D` holds, the requests of kind `P` being trusted. -/
def Demands (F : ε → Prop) (P : (β : Type) → Req β → Prop)
    (handle : (β : Type) → Req β → EStateM ε σ β) (script : Script Req α) (s : σ) (D : Prop) :
    Prop :=
  Trusted F P handle script s → (¬FailsBy F (script.run handle s) ↔ D)

namespace Demands

variable {F : ε → Prop} {P : (β : Type) → Req β → Prop} {s : σ} {D : Prop}

theorem pure (a : α) : Demands F P handle (pure a) s True :=
  fun _ => iff_of_true (fun ⟨_, _, h, _⟩ => nomatch h) trivial

theorem congr {script : Script Req α} {D' : Prop} (h : Demands F P handle script s D)
    (same : D ↔ D') : Demands F P handle script s D' := fun trusted => (h trusted).trans same

/-- A request that is trusted demands nothing. -/
theorem trusted {r : Req β} (h : P β r) : Demands F P handle (request r) s True := by
  intro trusted
  rw [run_request]
  exact iff_of_true (trusted .here h) trivial

theorem request {r : Req β} (h : ¬FailsBy F (handle β r s) ↔ D) :
    Demands F P handle (request r) s D := by
  intro _
  rw [run_request]
  exact h

theorem bind {first : Script Req β} {f : β → Script Req α} {E : β → σ → Prop}
    (left : Demands F P handle first s D)
    (right : ∀ b t, first.run handle s = .ok b t → Demands F P handle (f b) t (E b t)) :
    Demands F P handle (first >>= f) s (D ∧ ∀ b t, first.run handle s = .ok b t → E b t) := by
  intro trusted
  have hleft := left fun hasks => trusted hasks.bind_left
  have hright b t (hfirst : first.run handle s = .ok b t) :=
    right b t hfirst fun hasks => trusted (hasks.bind_right hfirst)
  rw [run_bind, failsBy_bind, not_or, hleft]
  refine and_congr_right fun _ => ⟨fun hnone b t hfirst => ?_, ?_⟩
  · exact (hright b t hfirst).mp fun hfails => hnone ⟨b, t, hfirst, hfails⟩
  · rintro hall ⟨b, t, hfirst, hfails⟩
    exact (hright b t hfirst).mpr (hall b t hfirst) hfails

theorem ite {p : Prop} [Decidable p] {x y : Script Req α} {E : Prop}
    (hx : p → Demands F P handle x s D) (hy : ¬p → Demands F P handle y s E) :
    Demands F P handle (if p then x else y) s ((p → D) ∧ (¬p → E)) := by
  by_cases h : p
  · rw [if_pos h]
    exact (hx h).congr (by simp [h])
  · rw [if_neg h]
    exact (hy h).congr (by simp [h])

end Demands

end Script

end Riscvm.Exec
