import Mathlib.Logic.Basic

/-!
# Banks of words

A device shows a bank of words to its bus: an address selects one of them, or none, and a store
changes the word that its address selects and no other. So two addresses are independent unless they
select the same word.
-/

namespace Riscvm

/-- The words of a state and the addresses that select them. -/
structure Bank (σ α ρ β : Type) [DecidableEq ρ] where
  select : α → Option ρ
  word : σ → ρ → β
  store : α → β → σ → σ
  word_store (a : α) (v : β) (s : σ) (r : ρ) :
    word (store a v s) r = if select a = some r then v else word s r

namespace Bank

variable {σ α ρ β : Type} [DecidableEq ρ]

/-- What a load returns; `zero` where the address selects no word. -/
def load (bank : Bank σ α ρ β) (zero : β) (a : α) (s : σ) : β :=
  ((bank.select a).map (bank.word s)).getD zero

variable (bank : Bank σ α ρ β) {zero : β} {a b : α} {v : β} {s : σ}

/-- A store shows at another address exactly if both select one word and it held another value. -/
theorem load_store_iff : bank.load zero b (bank.store a v s) = bank.load zero b s ↔
    ¬∃ r, bank.select a = some r ∧ bank.select b = some r ∧ bank.word s r ≠ v := by
  unfold load
  cases hb : bank.select b with
  | none =>
      refine iff_of_true rfl ?_
      rintro ⟨r, -, h, -⟩
      cases h
  | some r =>
      rw [Option.map_some, Option.map_some, Option.getD_some, Option.getD_some, bank.word_store]
      by_cases ha : bank.select a = some r
      · rw [if_pos ha]
        constructor
        · rintro heq ⟨r', -, hr', hne⟩
          cases hr'
          exact hne heq.symm
        · intro h
          exact Classical.byContradiction fun hne => h ⟨r, ha, rfl, fun heq => hne heq.symm⟩
      · rw [if_neg ha]
        refine iff_of_true rfl ?_
        rintro ⟨r', ha', hr', -⟩
        cases hr'
        exact ha ha'

end Bank

end Riscvm
