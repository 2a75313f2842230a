import Mathlib.Data.BitVec

/-!
# Memoised queries

A `Query` reads words of a store one after another, each address chosen by what was
read before. Its `trail` records the words it read. A store that still answers as
recorded gives the same result, whatever else changed.

A direct-mapped table keeps results under their keys, one key for each slot.
`Recorded` says that every entry was computed by some earlier run of the query for
its key and that the trail kept beside it is the one of that run, so an entry is as
good as a fresh run as long as its trail is confirmed.
-/

namespace Riscvm.Memo

variable {A V R : Type}

inductive Query (A V R : Type) where
  | done (result : R)
  | ask (address : A) (next : V → Query A V R)

namespace Query

/-- The result on `store`. -/
def run (store : A → V) : Query A V R → R
  | done result => result
  | ask address next => (next (store address)).run store

/-- The words read on `store`, with their addresses. -/
def trail (store : A → V) : Query A V R → List (A × V)
  | done _ => []
  | ask address next => (address, store address) :: (next (store address)).trail store

/-- Apply `f` to the result. -/
def map {R' : Type} (f : R → R') : Query A V R → Query A V R'
  | done result => done (f result)
  | ask address next => ask address fun value => (next value).map f

@[simp] theorem run_map {R' : Type} (f : R → R') (store : A → V) (q : Query A V R) :
    (q.map f).run store = f (q.run store) := by
  induction q with
  | done result => rfl
  | ask address next ih => exact ih _

end Query

/-- `store` still answers as recorded in `trail`. -/
def Confirms (store : A → V) (trail : List (A × V)) : Prop := ∀ read ∈ trail, store read.1 = read.2

theorem Confirms.tail {store : A → V} {read : A × V} {trail : List (A × V)}
    (h : Confirms store (read :: trail)) : Confirms store trail :=
  fun r hr => h r (List.mem_cons_of_mem _ hr)

theorem Query.confirms_trail (store : A → V) (q : Query A V R) :
    Confirms store (q.trail store) := by
  induction q with
  | done result => exact fun _ h => nomatch h
  | ask address next ih =>
      intro read hread
      rcases List.mem_cons.mp hread with rfl | hread
      · rfl
      · exact ih _ read hread

/-- The result of a query depends on nothing but the words on its trail. -/
theorem Query.run_of_confirms {store later : A → V} (q : Query A V R)
    (h : Confirms later (q.trail store)) : q.run later = q.run store := by
  induction q with
  | done result => rfl
  | ask address next ih =>
      have hhead : later address = store address := h (address, store address) List.mem_cons_self
      rw [run, run, hhead]
      exact ih _ h.tail

section Table

variable {ι κ ν : Type} [DecidableEq ι]

/-- Store `value` in slot `i`. -/
def update {β : Type} (table : ι → β) (i : ι) (value : β) : ι → β :=
  fun j => if j = i then value else table j

theorem update_same {β : Type} (table : ι → β) (i : ι) (value : β) :
    update table i value i = value := if_pos rfl

theorem update_ne {β : Type} (table : ι → β) {i j : ι} (value : β) (h : j ≠ i) :
    update table i value j = table j := if_neg h

/-- Every entry was computed for a key of its slot, with the trail kept for that slot. -/
def Recorded (slot : κ → ι) (query : κ → Query A V (Option ν)) (table : ι → Option (κ × ν))
    (trails : ι → List (A × V)) : Prop :=
  ∀ i key value, table i = some (key, value) →
    slot key = i ∧ ∃ store, (query key).run store = some value ∧
      (query key).trail store = trails i

variable {slot : κ → ι} {query : κ → Query A V (Option ν)} {table : ι → Option (κ × ν)}
variable {trails : ι → List (A × V)}

omit [DecidableEq ι] in
theorem Recorded.empty (h : ∀ i, table i = none) : Recorded slot query table trails := by
  intro i key value hentry
  rw [h i] at hentry
  cases hentry

/-- Filling the slot of `key` with a fresh result keeps the table recorded. -/
theorem Recorded.insert (h : Recorded slot query table trails) {store : A → V} {key : κ} {value : ν}
    (hrun : (query key).run store = some value) :
    Recorded slot query (update table (slot key) (some (key, value)))
      (update trails (slot key) ((query key).trail store)) := by
  intro i key' value' hentry
  by_cases hi : i = slot key
  · subst hi
    rw [update_same] at hentry
    cases hentry
    exact ⟨rfl, store, hrun, (update_same _ _ _).symm⟩
  · rw [update_ne _ _ hi] at hentry ⊢
    exact h i key' value' hentry

omit [DecidableEq ι] in
/-- A confirmed entry is the result of a fresh run. -/
theorem Recorded.run_eq (h : Recorded slot query table trails) {i : ι} {key : κ} {value : ν}
    (hentry : table i = some (key, value)) {store : A → V} (hc : Confirms store (trails i)) :
    (query key).run store = some value := by
  obtain ⟨-, past, hrun, htrail⟩ := h i key value hentry
  rw [← htrail] at hc
  rw [(query key).run_of_confirms hc, hrun]

end Table

end Riscvm.Memo
