import Riscvm.Foundation.Exec

/-!
# One run follows another

`SimulatesAt R V x y s t`: if `x` returns from `s`, then `y` returns from `t`, a related value in a
related state. Nothing is said about the runs of `x` that fail, so that `y` may do more checks than
`x` as long as they pass where `x` returns.
-/

namespace Riscvm.Exec

variable {ε ε' σ τ α β γ α' β' : Type}

def SimulatesAt (R : σ → τ → Prop) (V : α → β → Prop) (x : EStateM ε σ α) (y : EStateM ε' τ β)
    (s : σ) (t : τ) : Prop :=
  ∀ a s', x s = .ok a s' → ∃ b t', y t = .ok b t' ∧ R s' t' ∧ V a b

namespace SimulatesAt

variable {R : σ → τ → Prop} {V : α → β → Prop} {x : EStateM ε σ α} {y : EStateM ε' τ β}
  {s : σ} {t : τ}

theorem pure {a : α} {b : β} (related : R s t) (value : V a b) :
    SimulatesAt R V (pure a : EStateM ε σ α) (pure b : EStateM ε' τ β) s t := by
  rintro _ _ ⟨⟩
  exact ⟨b, t, rfl, related, value⟩

/-- A call that raises is simulated by anything. -/
theorem throw {x : EStateM ε σ α} (h : ∀ a s', x s ≠ .ok a s') : SimulatesAt R V x y s t :=
  fun a s' hx => absurd hx (h a s')

/-- What the run of `x` shows can be used to follow it. -/
theorem of_ok (h : ∀ a s', x s = .ok a s' → SimulatesAt R V x y s t) : SimulatesAt R V x y s t :=
  fun a s' hx => h a s' hx a s' hx

theorem bind {W : α' → β' → Prop} {f : α → EStateM ε σ α'} {g : β → EStateM ε' τ β'}
    (first : SimulatesAt R V x y s t)
    (rest : ∀ a b s' t', R s' t' → V a b → SimulatesAt R W (f a) (g b) s' t') :
    SimulatesAt R W (x >>= f) (y >>= g) s t := by
  intro a' s'' h
  obtain ⟨a, s', hx, hf⟩ := bind_eq_ok.mp h
  obtain ⟨b, t', hy, related, value⟩ := first a s' hx
  obtain ⟨b', t'', hg, hends⟩ := rest a b s' t' related value a' s'' hf
  exact ⟨b', t'', (bind_ok hy g).trans hg, hends⟩

/-- A check that `x` makes on its own. -/
theorem check {c : EStateM ε σ Unit} {p : Prop} (passed : ∀ {u s'}, c s = .ok u s' → p ∧ s' = s)
    {k : Unit → EStateM ε σ α} (rest : p → SimulatesAt R V (k ()) y s t) :
    SimulatesAt R V (c >>= k) y s t := by
  intro a s' h
  obtain ⟨u, s₁, hc, hk⟩ := bind_eq_ok.mp h
  obtain ⟨hp, rfl⟩ := passed hc
  exact rest hp a s' hk

/-- A look of `x` on its own. -/
theorem get_left {f : σ → EStateM ε σ α} (h : SimulatesAt R V (f s) y s t) :
    SimulatesAt R V (get >>= f) y s t :=
  h

/-- Both look at their state. -/
theorem get {f : σ → EStateM ε σ α} {g : τ → EStateM ε' τ β} (h : SimulatesAt R V (f s) (g t) s t) :
    SimulatesAt R V (get >>= f) (get >>= g) s t :=
  h

/-- A look of `y` on its own. -/
theorem bind_right {c : EStateM ε' τ γ} {v : γ} (h : c t = .ok v t) {k : γ → EStateM ε' τ β}
    (rest : SimulatesAt R V x (k v) s t) : SimulatesAt R V x (c >>= k) s t := by
  intro a s' hx
  obtain ⟨b, t', hk, hends⟩ := rest a s' hx
  exact ⟨b, t', (bind_ok h k).trans hk, hends⟩

/-- A change of `x` that one call of `y` follows. -/
theorem modify {f : σ → σ} {y : EStateM ε' τ PUnit} {t' : τ} (h : y t = .ok ⟨⟩ t')
    (related : R (f s) t') :
    SimulatesAt R (fun _ _ => True) (modify f : EStateM ε σ PUnit) y s t := by
  rintro _ _ ⟨⟩
  exact ⟨_, t', h, related, trivial⟩

theorem ite {p q : Prop} [Decidable p] [Decidable q] {x' : EStateM ε σ α} {y' : EStateM ε' τ β}
    (iff : p ↔ q) (yes : p → SimulatesAt R V x y s t) (no : ¬p → SimulatesAt R V x' y' s t) :
    SimulatesAt R V (if p then x else x') (if q then y else y') s t := by
  by_cases hp : p
  · rw [if_pos hp, if_pos (iff.mp hp)]
    exact yes hp
  · rw [if_neg hp, if_neg fun hq => hp (iff.mpr hq)]
    exact no hp

theorem mono {R' : σ → τ → Prop} {V' : α → β → Prop} (h : SimulatesAt R V x y s t)
    (related : ∀ s t, R s t → R' s t) (value : ∀ a b, V a b → V' a b) :
    SimulatesAt R' V' x y s t := by
  intro a s' hx
  obtain ⟨b, t', hy, hR, hV⟩ := h a s' hx
  exact ⟨b, t', hy, related s' t' hR, value a b hV⟩

end SimulatesAt

def answered : EStateM.Result ε σ α → Option α
  | .ok a _ => some a
  | .error _ _ => none

theorem eq_ok_of_answered {r : EStateM.Result ε σ α} {a : α}
    (h : answered r = some a) : r = .ok a (finish r) := by
  cases r with
  | ok b s =>
      cases h
      rfl
  | error e s => cases h

section Runs

variable {ι : Type} {f : β → α}

/-- The calls `x i` for each `i`, with all their answers in order. -/
def runAll (x : ι → EStateM ε σ (List α)) : List ι → EStateM ε σ (List α)
  | [] => pure []
  | i :: is => do
      let answers ← x i
      return answers ++ (← runAll x is)

/-- The same answers, up to how a side writes them. -/
def Answers (f : β → α) (as : List α) (bs : List β) : Prop := as = bs.map f

namespace SimulatesAt

variable {R : σ → τ → Prop} {s : σ} {t : τ}

theorem answer {x : EStateM ε σ α} {y : EStateM ε' τ β}
    (h : SimulatesAt R (fun a b => a = f b) x y s t) :
    SimulatesAt R (Answers f) (do return [← x]) (do return [← y]) s t :=
  .bind h fun _ _ _ _ related value => .pure related (value ▸ rfl)

theorem silent {x : EStateM ε σ α'} {y : EStateM ε' τ β'} {V : α' → β' → Prop}
    (h : SimulatesAt R V x y s t) :
    SimulatesAt R (Answers f) (do let _ ← x; return []) (do let _ ← y; return []) s t :=
  .bind h fun _ _ _ _ related _ => .pure related rfl

/-- Runs follow each other when steps do. What relates the states may depend on the steps that
are still to come. -/
theorem runAll {R : List ι → σ → τ → Prop} {x : ι → EStateM ε σ (List α)}
    {y : ι → EStateM ε' τ (List β)}
    (step : ∀ i is s t, R (i :: is) s t → SimulatesAt (R is) (Answers f) (x i) (y i) s t)
    (is : List ι) {s : σ} {t : τ} (related : R is s t) :
    SimulatesAt (R []) (Answers f) (Exec.runAll x is) (Exec.runAll y is) s t := by
  induction is generalizing s t with
  | nil => exact .pure related rfl
  | cons i is ih =>
      intro answers s'' h
      obtain ⟨as, s', hx, hrest⟩ := bind_eq_ok.mp h
      obtain ⟨bs, t', hy, related', hfirst⟩ := step i is s t related as s' hx
      obtain ⟨as', _, hxs, hdone⟩ := bind_eq_ok.mp hrest
      cases hdone
      obtain ⟨bs', t'', hys, hends, hanswers⟩ := ih related' as' s'' hxs
      refine ⟨bs ++ bs', t'', (bind_ok hy _).trans ((bind_ok hys _).trans rfl), hends, ?_⟩
      rw [Answers, hfirst, hanswers, List.map_append]

end SimulatesAt

end Runs

section Outcomes

variable {ι : Type} {x : ι → EStateM ε σ α} {y : ι → EStateM ε' τ β} {f : β → α}

/-- The calls one after the other, each from what the one before it has left whether or not it
failed: what each answers, and what is left. -/
def outcomes (x : ι → EStateM ε σ α) : List ι → σ → List (Option α) × σ
  | [], s => ([], s)
  | i :: is, s =>
      let rest := outcomes x is (finish (x i s))
      (answered (x i s) :: rest.1, rest.2)

/-- Calls that answer alike from related states, and leave related states, do so in a row. -/
theorem outcomes_related {R : σ → τ → Prop} {Q : ι → Prop}
    (step : ∀ i s t, Q i → R s t →
      answered (x i s) = (answered (y i t)).map f ∧ R (finish (x i s)) (finish (y i t)))
    (is : List ι) (legal : ∀ i ∈ is, Q i) {s : σ} {t : τ} (related : R s t) :
    (outcomes x is s).1 = (outcomes y is t).1.map (Option.map f) ∧
      R (outcomes x is s).2 (outcomes y is t).2 := by
  induction is generalizing s t with
  | nil => exact ⟨rfl, related⟩
  | cons i is ih =>
      obtain ⟨hi, his⟩ := List.forall_mem_cons.mp legal
      obtain ⟨hanswer, hnext⟩ := step i s t hi related
      obtain ⟨hanswers, hends⟩ := ih his hnext
      refine ⟨?_, hends⟩
      rw [outcomes, outcomes, List.map_cons, hanswer, hanswers]

end Outcomes

end Riscvm.Exec
