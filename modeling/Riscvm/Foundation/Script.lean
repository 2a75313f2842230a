import Riscvm.Foundation.Exec

/-!
# Interaction scripts

A client of a stateful environment is described by the requests it makes, in order, where each
may depend on the answers to those before it. The environment handles a request by a faulting
state transformer; running a script chains these. A run faults exactly where one of the
requests that are reached faults, so that what makes a client fail can be said request by
request. The trace of a run is what is noted of the requests it makes and of their answers, its
log what is noted of the requests alone.
-/

namespace Riscvm.Exec

variable {Req : Type → Type} {ε σ α β : Type}

/-- A client: it is done, or it makes a request and goes on with the answer. -/
inductive Script (Req : Type → Type) (α : Type) : Type 1 where
  | done (a : α)
  | ask {β : Type} (r : Req β) (next : β → Script Req α)

namespace Script

def bind : Script Req α → (α → Script Req β) → Script Req β
  | done a, f => f a
  | ask r next, f => ask r fun b => (next b).bind f

instance : Monad (Script Req) where
  pure := done
  bind := bind

def request (r : Req β) : Script Req β := ask r done

/-- What the script does in an environment. -/
def run (handle : (β : Type) → Req β → EStateM ε σ β) : Script Req α → EStateM ε σ α
  | done a => pure a
  | ask r next => handle _ r >>= fun b => (next b).run handle

variable {handle : (β : Type) → Req β → EStateM ε σ β}

@[simp] theorem run_pure (a : α) : (pure a : Script Req α).run handle = pure a := rfl

@[simp] theorem run_request (r : Req β) : (request r).run handle = handle β r := by
  funext s
  rw [request, run, bind_apply]
  cases handle β r s with
  | ok b t => rfl
  | error e t => rfl

@[simp] theorem run_bind (script : Script Req α) (f : α → Script Req β) :
    (script >>= f).run handle = script.run handle >>= fun a => (f a).run handle := by
  induction script with
  | done a => rfl
  | ask r next ih =>
      funext s
      change (handle _ r >>= fun b => (next b >>= f).run handle) s =
        ((handle _ r >>= fun b => (next b).run handle) >>= fun a => (f a).run handle) s
      rw [bind_apply, bind_apply, bind_apply]
      cases handle _ r s with
      | ok b t =>
          dsimp only
          rw [ih, bind_apply]
      | error e t => rfl

@[simp] theorem run_cond (p : Prop) [Decidable p] (x y : Script Req α) :
    (if p then x else y).run handle = if p then x.run handle else y.run handle := by
  by_cases h : p
  · rw [if_pos h, if_pos h]
  · rw [if_neg h, if_neg h]

/-- Run from `s`, the script comes to make the request `r` in the state `t`. -/
inductive Asks (handle : (β : Type) → Req β → EStateM ε σ β) {γ : Type} (r : Req γ) (t : σ) :
    Script Req α → σ → Prop where
  | here {next : γ → Script Req α} : Asks handle r t (ask r next) t
  | later {β : Type} {q : Req β} {next : β → Script Req α} {s s' : σ} {b : β}
      (answered : handle β q s = .ok b s') (rest : Asks handle r t (next b) s') :
      Asks handle r t (ask q next) s

/-- A run faults exactly where a request that it reaches faults. -/
theorem run_eq_error {script : Script Req α} {s u : σ} {e : ε} :
    script.run handle s = .error e u ↔
      ∃ (γ : Type) (r : Req γ) (t : σ), Asks handle r t script s ∧ handle γ r t = .error e u := by
  induction script generalizing s with
  | done a =>
      constructor
      · intro h
        cases h
      · rintro ⟨γ, r, t, hasks, -⟩
        cases hasks
  | ask q next ih =>
      rw [run, bind_apply]
      constructor
      · intro h
        cases hq : handle _ q s with
        | error e' s' =>
            rw [hq] at h
            cases h
            exact ⟨_, q, s, .here, hq⟩
        | ok b s' =>
            rw [hq] at h
            obtain ⟨γ, r, t, hasks, hr⟩ := (ih b).mp h
            exact ⟨γ, r, t, .later hq hasks, hr⟩
      · rintro ⟨γ, r, t, hasks, hr⟩
        cases hasks with
        | here => rw [hr]
        | later answered rest =>
            rw [answered]
            exact (ih _).mpr ⟨γ, r, t, rest, hr⟩

/-- What every handled request preserves holds wherever a request is made. -/
theorem Asks.invariant {P : σ → Prop} {γ : Type} {r : Req γ} {s t : σ} {script : Script Req α}
    (kept : ∀ (β : Type) (q : Req β) s b s', P s → handle β q s = .ok b s' → P s')
    (hasks : Asks handle r t script s) (start : P s) : P t := by
  induction hasks with
  | here => exact start
  | later answered rest ih => exact ih (kept _ _ _ _ _ start answered)

/-- What every handled request keeps, the whole run keeps. -/
theorem keeps_run {R : σ → σ → Prop} (refl : ∀ s, R s s)
    (trans : ∀ {s t u}, R s t → R t u → R s u) (kept : ∀ β r, Keeps R (handle β r))
    (script : Script Req α) : Keeps R (script.run handle) := by
  induction script with
  | done a => exact .pure refl a
  | ask r next ih => exact (kept _ r).bind trans ih

/-- What no handled request raises, no run raises. -/
theorem raises_run {E : ε → Prop} (raised : ∀ β r, Raises E (handle β r)) (script : Script Req α) :
    Raises E (script.run handle) := by
  induction script with
  | done a => exact .pure a
  | ask r next ih => exact (raised _ r).bind ih

/-- Every request that the script can make, whatever the answers are, satisfies `P`. -/
def All (P : (β : Type) → Req β → Prop) : Script Req α → Prop
  | done _ => True
  | ask r next => P _ r ∧ ∀ b, (next b).All P

namespace All

variable {P : (β : Type) → Req β → Prop}

theorem pure (a : α) : All P (pure a : Script Req α) := trivial

theorem request {r : Req β} (h : P β r) : All P (request r) := ⟨h, fun _ => trivial⟩

theorem bind {script : Script Req α} {f : α → Script Req β} (first : script.All P)
    (rest : ∀ a, (f a).All P) : (script >>= f).All P := by
  induction script with
  | done a => exact rest a
  | ask r next ih => exact ⟨first.1, fun b => ih b (first.2 b)⟩

theorem ite {p : Prop} [Decidable p] {x y : Script Req α} (hx : p → x.All P) (hy : ¬p → y.All P) :
    (if p then x else y).All P := by
  by_cases h : p
  · rw [if_pos h]
    exact hx h
  · rw [if_neg h]
    exact hy h

theorem mono {Q : (β : Type) → Req β → Prop} {script : Script Req α} (h : script.All P)
    (weaker : ∀ β r, P β r → Q β r) : script.All Q := by
  induction script with
  | done a => trivial
  | ask r next ih => exact ⟨weaker _ _ h.1, fun b => ih b (h.2 b)⟩

theorem asks {γ : Type} {r : Req γ} {s t : σ} {script : Script Req α} (h : script.All P)
    (hasks : Asks handle r t script s) : P γ r := by
  induction hasks with
  | here => exact h.1
  | later _ _ ih => exact ih (h.2 _)

end All

section Trace

variable {γ : Type} {note : (β : Type) → Req β → β → Option γ}

/-- What is noted of the requests that a run makes and of their answers. -/
def trace (note : (β : Type) → Req β → β → Option γ)
    (handle : (β : Type) → Req β → EStateM ε σ β) : Script Req α → σ → List γ
  | done _, _ => []
  | ask r next, s =>
      match handle _ r s with
      | .ok b t => (note _ r b).toList ++ (next b).trace note handle t
      | .error _ _ => []

@[simp] theorem trace_pure (a : α) (s : σ) :
    (pure a : Script Req α).trace note handle s = [] := rfl

theorem trace_request {r : Req β} {s t : σ} {b : β} (h : handle β r s = .ok b t) :
    (request r).trace note handle s = (note β r b).toList := by
  rw [request, trace, h]
  exact List.append_nil _

/-- The trace of a sequence whose first part returns. -/
theorem trace_bind {script : Script Req α} {f : α → Script Req β} {s t : σ} {a : α}
    (h : script.run handle s = .ok a t) :
    (script >>= f).trace note handle s =
      script.trace note handle s ++ (f a).trace note handle t := by
  induction script generalizing s with
  | done a =>
      cases h
      rfl
  | ask r next ih =>
      obtain ⟨b, s', hr, hrest⟩ := bind_eq_ok.mp h
      change (ask r fun b => next b >>= f).trace note handle s = _
      rw [trace, trace, hr]
      dsimp only
      rw [ih b hrest, List.append_assoc]

/-- A script that makes no request of note. -/
theorem trace_eq_nil {script : Script Req α} (h : script.All fun β r => ∀ b : β, note β r b = none)
    (s : σ) : script.trace note handle s = [] := by
  induction script generalizing s with
  | done a => rfl
  | ask r next ih =>
      rw [trace]
      cases handle _ r s with
      | error e t => rfl
      | ok b t =>
          dsimp only
          rw [h.1 b, ih b (h.2 b)]
          rfl

/-- A run that returns begins with a part that returns; if nothing of this part is of note, the
trace is that of the rest. -/
theorem trace_skip {script : Script Req α} {f : α → Script Req β} {s u : σ} {b : β}
    (quiet : script.All fun β r => ∀ b : β, note β r b = none)
    (h : (script >>= f).run handle s = .ok b u) :
    ∃ a t, script.run handle s = .ok a t ∧ (f a).run handle t = .ok b u ∧
      (script >>= f).trace note handle s = (f a).trace note handle t := by
  rw [run_bind, bind_eq_ok] at h
  obtain ⟨a, t, hfirst, hrest⟩ := h
  refine ⟨a, t, hfirst, hrest, ?_⟩
  rw [trace_bind hfirst, trace_eq_nil quiet, List.nil_append]

end Trace

section Log

variable {γ : Type} {note : (β : Type) → Req β → Option γ}

/-- What is noted of the requests that a run makes and that are answered. -/
def log (note : (β : Type) → Req β → Option γ) (handle : (β : Type) → Req β → EStateM ε σ β) :
    Script Req α → σ → List γ
  | done _, _ => []
  | ask r next, s =>
      match handle _ r s with
      | .ok b t => (note _ r).toList ++ (next b).log note handle t
      | .error _ _ => []

/-- A log is a trace that disregards the answers. -/
theorem log_eq_trace (script : Script Req α) (s : σ) :
    script.log note handle s = script.trace (fun β r _ => note β r) handle s := by
  induction script generalizing s with
  | done a => rfl
  | ask r next ih =>
      rw [log, trace]
      cases handle _ r s with
      | error e t => rfl
      | ok b t =>
          dsimp only
          rw [ih]

@[simp] theorem log_pure (a : α) (s : σ) : (pure a : Script Req α).log note handle s = [] := rfl

theorem log_request {r : Req β} {s t : σ} {b : β} (h : handle β r s = .ok b t) :
    (request r).log note handle s = (note β r).toList := by
  rw [log_eq_trace, trace_request h]

/-- The log of a sequence whose first part returns. -/
theorem log_bind {script : Script Req α} {f : α → Script Req β} {s t : σ} {a : α}
    (h : script.run handle s = .ok a t) :
    (script >>= f).log note handle s = script.log note handle s ++ (f a).log note handle t := by
  rw [log_eq_trace, log_eq_trace, log_eq_trace]
  exact trace_bind h

/-- A script that makes no request of note. -/
theorem log_eq_nil {script : Script Req α} (h : script.All fun _ r => note _ r = none) (s : σ) :
    script.log note handle s = [] := by
  rw [log_eq_trace]
  exact trace_eq_nil (h.mono fun _ _ hnone _ => hnone) s

/-- The log of a sequence whose first part faults. -/
theorem log_bind_error {script : Script Req α} {f : α → Script Req β} {s t : σ} {e : ε}
    (h : script.run handle s = .error e t) :
    (script >>= f).log note handle s = script.log note handle s := by
  induction script generalizing s with
  | done a => cases h
  | ask r next ih =>
      change (ask r fun b => next b >>= f).log note handle s = _
      rw [log, log]
      obtain hr | ⟨b, s', hr, hrest⟩ := bind_eq_error.mp h
      · rw [hr]
      · rw [hr]
        dsimp only
        rw [ih b hrest]

def returned : EStateM.Result ε σ α → Option α
  | .ok a _ => some a
  | .error _ _ => none

/-- `Q` holds of the log of any run and of what the run returns. -/
def Notes (note : (β : Type) → Req β → Option γ) (handle : (β : Type) → Req β → EStateM ε σ β)
    (script : Script Req α) (Q : List γ → Option α → Prop) : Prop :=
  ∀ s, Q (script.log note handle s) (returned (script.run handle s))

namespace Notes

variable {Q : List γ → Option α → Prop}

theorem pure {a : α} (h : Q [] (some a)) : Notes note handle (pure a) Q := fun _ => h

/-- A first part of which nothing is noted. -/
theorem quiet {first : Script Req β} {f : β → Script Req α}
    (h : first.All fun _ r => note _ r = none) (fails : Q [] none)
    (rest : ∀ b, Notes note handle (f b) Q) : Notes note handle (first >>= f) Q := by
  intro s
  rw [run_bind, bind_apply]
  cases hfirst : first.run handle s with
  | ok b t =>
      rw [log_bind hfirst, log_eq_nil h, List.nil_append]
      exact rest b t
  | error e t =>
      rw [log_bind_error hfirst, log_eq_nil h]
      exact fails

theorem ite {p : Prop} [Decidable p] {x y : Script Req α} (hx : p → Notes note handle x Q)
    (hy : ¬p → Notes note handle y Q) : Notes note handle (if p then x else y) Q := by
  by_cases h : p
  · rw [if_pos h]
    exact hx h
  · rw [if_neg h]
    exact hy h

theorem mono {Q' : List γ → Option α → Prop} {script : Script Req α}
    (h : Notes note handle script Q) (weaker : ∀ cs a, Q cs a → Q' cs a) :
    Notes note handle script Q' := fun s => weaker _ _ (h s)

end Notes

end Log

section Check

/-- Does every request of a run, with how it is handled, pass the test? -/
def check (test : (β : Type) → Req β → EStateM.Result ε σ β → Bool)
    (handle : (β : Type) → Req β → EStateM ε σ β) : Script Req α → σ → Bool
  | done _, _ => true
  | ask r next, s =>
      test _ r (handle _ r s) &&
        match handle _ r s with
        | .ok b t => (next b).check test handle t
        | .error _ _ => true

end Check

end Script

end Riscvm.Exec
