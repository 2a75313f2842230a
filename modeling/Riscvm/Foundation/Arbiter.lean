import Mathlib.Data.BitVec

/-!
# Fixed-order arbitration

A loop visits the requesters in ascending order and remembers one whose priority exceeds
that of the one remembered so far. It ends with the requester of highest priority above the
threshold it started from, the first of them where several share that priority.
-/

namespace Riscvm.Arbiter

variable {ι π β : Type} [LT ι] [LE π] [LT π] [DecidableLT π]

/-- One round of the loop; a requester is remembered by its `code`. -/
def select (eligible : ι → Prop) [DecidablePred eligible] (priority : ι → π) (code : ι → β)
    (best : β × π) (i : ι) : β × π :=
  if eligible i ∧ best.2 < priority i then (code i, priority i) else best

/-- The requester `i` is the first of highest priority above the threshold. -/
structure Wins (eligible : ι → Prop) (priority : ι → π) (threshold : π) (is : List ι) (i : ι) :
    Prop where
  mem : i ∈ is
  requests : eligible i
  above : threshold < priority i
  highest : ∀ j ∈ is, eligible j → priority j ≤ priority i
  first : ∀ j ∈ is, eligible j → priority j = priority i → j = i ∨ i < j

/-- What the loop has found behind the requesters `is`. -/
inductive Outcome (eligible : ι → Prop) (priority : ι → π) (code : ι → β) (best : β × π)
    (is : List ι) : β × π → Prop where
  | unchanged (below : ∀ j ∈ is, eligible j → priority j ≤ best.2) :
      Outcome eligible priority code best is best
  | winner (i : ι) (wins : Wins eligible priority best.2 is i) :
      Outcome eligible priority code best is (code i, priority i)

variable [Std.IsLinearOrder π] [Std.LawfulOrderLT π]
variable {eligible : ι → Prop} [DecidablePred eligible] {priority : ι → π} {code : ι → β}

omit [DecidablePred eligible] [DecidableLT π] [Std.IsLinearOrder π] in
/-- A winner of higher priority than a requester before it wins against that one too. -/
theorem Wins.cons {threshold threshold' : π} {i k : ι} {is : List ι}
    (wins : Wins eligible priority threshold is k) (above : threshold' < priority k)
    (higher : eligible i → priority i < priority k) :
    Wins eligible priority threshold' (i :: is) k := by
  refine ⟨List.mem_cons_of_mem _ wins.mem, wins.requests, above, ?_, ?_⟩
  · intro j hj hj'
    obtain rfl | hj := List.mem_cons.mp hj
    · exact Std.le_of_lt (higher hj')
    · exact wins.highest j hj hj'
  · intro j hj hj' heq
    obtain rfl | hj := List.mem_cons.mp hj
    · exact absurd (heq ▸ higher hj') Std.lt_irrefl
    · exact wins.first j hj hj' heq

omit [DecidablePred eligible] [DecidableLT π] [Std.LawfulOrderLT π] in
theorem Wins.unique [Std.Asymm (fun i j : ι => i < j)] {threshold : π} {is : List ι} {i j : ι}
    (hi : Wins eligible priority threshold is i) (hj : Wins eligible priority threshold is j) :
    i = j := by
  have heq : priority i = priority j :=
    Std.le_antisymm (hj.highest i hi.mem hi.requests) (hi.highest j hj.mem hj.requests)
  obtain h | hij := hi.first j hj.mem hj.requests heq.symm
  · exact h.symm
  obtain h | hji := hj.first i hi.mem hi.requests heq
  · exact h
  · exact absurd hji (Std.Asymm.asymm i j hij)

omit [DecidablePred eligible] [DecidableLT π] in
/-- Who wins depends on the order alone: on which priorities exceed the threshold, and on how those
that do compare. -/
theorem Wins.transfer {π' : Type} [LE π'] [LT π'] [Std.IsLinearOrder π'] [Std.LawfulOrderLT π']
    {priority' : ι → π'} {threshold : π} {threshold' : π'} {is : List ι} {i : ι}
    (total : ∀ i j : ι, i = j ∨ i < j ∨ j < i)
    (above : ∀ j ∈ is, eligible j → (threshold < priority j ↔ threshold' < priority' j))
    (order : ∀ j ∈ is, ∀ k ∈ is, eligible j → eligible k → threshold < priority j →
      threshold < priority k → j < k → (priority j < priority k ↔ priority' j < priority' k))
    (wins : Wins eligible priority threshold is i) : Wins eligible priority' threshold' is i := by
  have habove := (above i wins.mem wins.requests).mp wins.above
  have hbelow {j : ι} (hj : j ∈ is) (hj' : eligible j) (ht : ¬threshold < priority j) :
      priority' j < priority' i := by
    have ht' := Std.not_lt.mp (mt (above j hj hj').mpr ht)
    exact Std.lt_of_le_of_lt ht' habove
  -- a requester before the winner is of lower priority, one behind it is not of higher
  have hbefore {j : ι} (hj : j ∈ is) (hj' : eligible j) (hnot : ¬(j = i ∨ i < j)) :
      priority' j < priority' i := by
    by_cases ht : threshold < priority j
    · have hlt : j < i := by
        obtain h | h | h := total j i
        · exact absurd (.inl h) hnot
        · exact h
        · exact absurd (.inr h) hnot
      refine (order j hj i wins.mem hj' wins.requests ht wins.above hlt).mp ?_
      refine Std.not_le.mp fun hle => hnot ?_
      exact wins.first j hj hj' (Std.le_antisymm (wins.highest j hj hj') hle)
    · exact hbelow hj hj' ht
  have hbehind {j : ι} (hj : j ∈ is) (hj' : eligible j) (hlt : i < j) :
      priority' j ≤ priority' i := by
    by_cases ht : threshold < priority j
    · refine Std.not_lt.mp fun hgt => ?_
      have hgt := (order i wins.mem j hj wins.requests hj' wins.above ht hlt).mpr hgt
      exact absurd (wins.highest j hj hj') (Std.not_le.mpr hgt)
    · exact Std.le_of_lt (hbelow hj hj' ht)
  refine ⟨wins.mem, wins.requests, habove, fun j hj hj' => ?_, fun j hj hj' heq => ?_⟩
  · by_cases hcase : j = i ∨ i < j
    · obtain rfl | hlt := hcase
      · exact Std.le_refl _
      · exact hbehind hj hj' hlt
    · exact Std.le_of_lt (hbefore hj hj' hcase)
  · by_cases hcase : j = i ∨ i < j
    · exact hcase
    · exact absurd (hbefore hj hj' hcase) (heq ▸ Std.lt_irrefl)

theorem outcome_foldl {is : List ι} (ascending : is.Pairwise (· < ·)) (best : β × π) :
    Outcome eligible priority code best is (is.foldl (select eligible priority code) best) := by
  induction is generalizing best with
  | nil => exact .unchanged fun j hj => absurd hj List.not_mem_nil
  | cons i is ih =>
      obtain ⟨hi, ascending⟩ := List.pairwise_cons.mp ascending
      have hrest := ih ascending (select eligible priority code best i)
      rw [List.foldl_cons]
      generalize is.foldl (select eligible priority code) (select eligible priority code best i) =
        found at hrest ⊢
      by_cases hsel : eligible i ∧ best.2 < priority i
      · rw [select, if_pos hsel] at hrest
        obtain ⟨heligible, habove⟩ := hsel
        cases hrest with
        | unchanged below =>
            refine .winner i ⟨List.mem_cons_self, heligible, habove, ?_, ?_⟩
            · intro j hj hj'
              obtain rfl | hj := List.mem_cons.mp hj
              · exact Std.le_refl _
              · exact below j hj hj'
            · intro j hj _ _
              obtain rfl | hj := List.mem_cons.mp hj
              · exact .inl rfl
              · exact .inr (hi j hj)
        | winner k wins =>
            exact .winner k (wins.cons (Std.lt_trans habove wins.above) fun _ => wins.above)
      · rw [select, if_neg hsel] at hrest
        have hbelow : eligible i → priority i ≤ best.2 := fun h =>
          Std.not_lt.mp fun hlt => hsel ⟨h, hlt⟩
        cases hrest with
        | unchanged below =>
            refine .unchanged fun j hj hj' => ?_
            obtain rfl | hj := List.mem_cons.mp hj
            · exact hbelow hj'
            · exact below j hj hj'
        | winner k wins =>
            exact .winner k (wins.cons wins.above fun h => Std.lt_of_le_of_lt (hbelow h) wins.above)

/-- What the loop finds: nothing above the threshold, or the winner. -/
def Found (eligible : ι → Prop) (priority : ι → π) (threshold : π) (is : List ι) :
    Option ι → Prop
  | none => ∀ j ∈ is, eligible j → priority j ≤ threshold
  | some i => Wins eligible priority threshold is i

omit [DecidablePred eligible] [DecidableLT π] [Std.IsLinearOrder π] [Std.LawfulOrderLT π] in
theorem Outcome.found {best result : β × π} {is : List ι}
    (outcome : Outcome eligible priority code best is result) :
    ∃ found, result.1 = found.elim best.1 code ∧ Found eligible priority best.2 is found := by
  cases outcome with
  | unchanged below => exact ⟨none, rfl, below⟩
  | winner i wins => exact ⟨some i, rfl, wins⟩

omit [DecidablePred eligible] [DecidableLT π] in
theorem Found.transfer {π' : Type} [LE π'] [LT π'] [Std.IsLinearOrder π'] [Std.LawfulOrderLT π']
    {priority' : ι → π'} {threshold : π} {threshold' : π'} {is : List ι} {found : Option ι}
    (total : ∀ i j : ι, i = j ∨ i < j ∨ j < i)
    (above : ∀ j ∈ is, eligible j → (threshold < priority j ↔ threshold' < priority' j))
    (order : ∀ j ∈ is, ∀ k ∈ is, eligible j → eligible k → threshold < priority j →
      threshold < priority k → j < k → (priority j < priority k ↔ priority' j < priority' k))
    (found_here : Found eligible priority threshold is found) :
    Found eligible priority' threshold' is found := by
  cases found with
  | none =>
      intro j hj hj'
      exact Std.not_lt.mp (mt (above j hj hj').mpr (Std.not_lt.mpr (found_here j hj hj')))
  | some i => exact Wins.transfer total above order found_here

omit [DecidablePred eligible] [DecidableLT π] in
/-- The loop finds something exactly if some requester lies above the threshold. -/
theorem Found.isSome_iff {threshold : π} {is : List ι} {found : Option ι}
    (found_here : Found eligible priority threshold is found) :
    found.isSome ↔ ∃ i ∈ is, eligible i ∧ threshold < priority i := by
  cases found with
  | none =>
      refine iff_of_false Bool.false_ne_true ?_
      rintro ⟨i, hi, hi', habove⟩
      exact Std.not_lt.mpr (found_here i hi hi') habove
  | some i => exact iff_of_true rfl ⟨i, found_here.mem, found_here.requests, found_here.above⟩

omit [DecidablePred eligible] [DecidableLT π] in
theorem Found.unique [Std.Asymm (fun i j : ι => i < j)] {threshold : π} {is : List ι}
    {found found' : Option ι} (h : Found eligible priority threshold is found)
    (h' : Found eligible priority threshold is found') : found = found' := by
  cases found with
  | none =>
      cases found' with
      | none => rfl
      | some i => exact absurd h'.above (Std.not_lt.mpr (h i h'.mem h'.requests))
  | some i =>
      cases found' with
      | none => exact absurd h.above (Std.not_lt.mpr (h' i h.mem h.requests))
      | some j => exact congrArg some (Wins.unique h h')

omit [DecidablePred eligible] [DecidableLT π] in
/-- Of two requesters above the threshold the later one needs the higher priority. -/
theorem Found.pair [Std.Asymm (fun i j : ι => i < j)] {threshold : π} {is : List ι}
    {found : Option ι} {i k : ι} (mem : i ∈ is) (mem' : k ∈ is)
    (requests : ∀ j, eligible j ↔ j = i ∨ j = k) (hlt : i < k) (above : threshold < priority i)
    (found_here : Found eligible priority threshold is found) :
    found = some k ↔ priority i < priority k := by
  have hi := (requests i).mpr (.inl rfl)
  have hk := (requests k).mpr (.inr rfl)
  have hne : i ≠ k := fun h => Std.Asymm.asymm i k hlt (h ▸ hlt)
  cases found with
  | none => exact absurd above (Std.not_lt.mpr (found_here i mem hi))
  | some j =>
      rw [Option.some_inj]
      constructor
      · rintro rfl
        refine Std.not_le.mp fun hle => ?_
        obtain heq | hlt' :=
          found_here.first i mem hi (Std.le_antisymm (found_here.highest i mem hi) hle)
        · exact hne heq
        · exact Std.Asymm.asymm i j hlt hlt'
      · intro hpriority
        obtain rfl | rfl := (requests j).mp found_here.requests
        · exact absurd (found_here.highest k mem' hk) (Std.not_le.mpr hpriority)
        · rfl

end Riscvm.Arbiter
