import Mathlib.Data.BitVec

/-!
# Laying out spans in order

A layout is a list of half-open spans in the order of their starts. `place` adds one:
above every other start it compares the new span with its neighbour below, and anywhere
else only with its neighbour above. The starts stay in order whatever is placed.
The spans stay apart exactly when no placed span `Slips` under its upper neighbour
while it starts inside a lower one.
-/

namespace Riscvm.Layout

variable {α : Type} [LinearOrder α]

/-- The positions from `start` up to, but not including, `stop`. -/
structure Span (α : Type) where
  start : α
  stop : α
  deriving DecidableEq, Repr

/-- The starts increase. -/
def Ordered (l : List (Span α)) : Prop := l.Pairwise (·.start < ·.start)

/-- No span is empty. -/
def Proper (l : List (Span α)) : Prop := ∀ r ∈ l, r.start < r.stop

/-- Each span ends before the next one starts. -/
def Separate (l : List (Span α)) : Prop := l.Pairwise (·.stop ≤ ·.start)

/-- The spans that start below `a`, in an ordered layout. -/
def below (l : List (Span α)) (a : α) : List (Span α) := l.takeWhile (·.start < a)

/-- The spans that start at `a` or above, in an ordered layout. -/
def above (l : List (Span α)) (a : α) : List (Span α) := l.dropWhile (·.start < a)

/-- The comparison made before `r` goes between two parts of a layout. -/
def fits (lower upper : List (Span α)) (r : Span α) : Bool :=
  match upper with
  | next :: _ => r.start < next.start && r.stop ≤ next.start
  | [] => match lower.getLast? with
    | some prev => prev.stop ≤ r.start
    | none => true

def place (l : List (Span α)) (r : Span α) : Option (List (Span α)) :=
  if fits (below l r.start) (above l r.start) r then
    some (below l r.start ++ r :: above l r.start)
  else none

/-- `r` ends before every span that starts after it, of which there is one, and starts
inside a span that starts before it. -/
def Slips (l : List (Span α)) (r : Span α) : Prop :=
  (∃ next ∈ l, r.start ≤ next.start) ∧ (∀ next ∈ l, r.start ≤ next.start → r.stop ≤ next.start) ∧
    ∃ prev ∈ l, prev.start < r.start ∧ r.start < prev.stop

variable {l l' : List (Span α)} {r : Span α}

theorem below_append_above (l : List (Span α)) (a : α) : below l a ++ above l a = l :=
  List.takeWhile_append_dropWhile

theorem start_lt_of_mem_below {a : α} {p : Span α} (h : p ∈ below l a) : p.start < a := by
  have := List.all_takeWhile (p := fun q : Span α => decide (q.start < a)) (l := l)
  rw [List.all_eq_true] at this
  exact of_decide_eq_true (this p h)

theorem le_start_of_mem_above (ordered : Ordered l) {a : α} {q : Span α} (h : q ∈ above l a) :
    a ≤ q.start := by
  induction l with
  | nil => cases h
  | cons p l ih =>
      rw [Ordered, List.pairwise_cons] at ordered
      by_cases hp : p.start < a
      · rw [above, List.dropWhile_cons_of_pos (by simpa using hp)] at h
        exact ih ordered.2 h
      · rw [above, List.dropWhile_cons_of_neg (by simpa using hp)] at h
        rcases List.mem_cons.mp h with rfl | h
        · exact not_lt.mp hp
        · exact le_of_lt (lt_of_le_of_lt (not_lt.mp hp) (ordered.1 q h))

theorem mem_below_or_above {p : Span α} (h : p ∈ l) (a : α) : p ∈ below l a ∨ p ∈ above l a := by
  rw [← below_append_above l a] at h
  exact List.mem_append.mp h

theorem mem_of_mem_below {a : α} {p : Span α} (h : p ∈ below l a) : p ∈ l := by
  rw [← below_append_above l a]
  exact List.mem_append_left _ h

theorem mem_of_mem_above {a : α} {p : Span α} (h : p ∈ above l a) : p ∈ l := by
  rw [← below_append_above l a]
  exact List.mem_append_right _ h

theorem above_eq_drop (l : List (Span α)) (a : α) : above l a = l.drop (below l a).length := by
  have split : (below l a ++ above l a).drop (below l a).length = above l a := List.drop_left
  rw [below_append_above] at split
  exact split.symm

/-- The item behind the longest prefix of `p` is not in `p`. -/
theorem getElem_takeWhile_length {γ : Type} (p : γ → Bool) {xs : List γ}
    (h : (xs.takeWhile p).length < xs.length) : p xs[(xs.takeWhile p).length] = false := by
  induction xs with
  | nil => cases h
  | cons x xs ih =>
      by_cases hx : p x = true
      · simp only [List.takeWhile_cons_of_pos hx, List.length_cons, List.getElem_cons_succ] at h ⊢
        exact ih (Nat.lt_of_succ_lt_succ h)
      · simpa [List.takeWhile_cons_of_neg hx] using hx

theorem insertIdx_takeWhile {γ : Type} (p : γ → Bool) (xs : List γ) (x : γ) :
    xs.insertIdx (xs.takeWhile p).length x = xs.takeWhile p ++ x :: xs.dropWhile p := by
  induction xs with
  | nil => rfl
  | cons y ys ih =>
      by_cases hy : p y
      · simp [hy, ih]
      · simp [hy]

theorem place_eq_some : place l r = some l' ↔
    fits (below l r.start) (above l r.start) r = true ∧
      below l r.start ++ r :: above l r.start = l' := by
  simp [place]

/-- Spans are placed by inserting them behind the lower part. -/
theorem place_eq_insertIdx (l : List (Span α)) (r : Span α) :
    place l r = if fits (below l r.start) (above l r.start) r then
      some (l.insertIdx (below l r.start).length r) else none := by
  rw [place, below, above, insertIdx_takeWhile]

theorem mem_place (h : place l r = some l') {s : Span α} : s ∈ l' ↔ s = r ∨ s ∈ l := by
  obtain ⟨-, rfl⟩ := place_eq_some.mp h
  have hmem : s ∈ l ↔ s ∈ below l r.start ∨ s ∈ above l r.start := by
    rw [← List.mem_append, below_append_above]
  simp only [List.mem_append, List.mem_cons, hmem]
  exact or_left_comm

theorem Ordered.above (ordered : Ordered l) (a : α) : Ordered (above l a) :=
  List.Pairwise.sublist (List.dropWhile_sublist _) ordered

/-- An placed span starts where no other does and ends by every later start. -/
theorem place_above (ordered : Ordered l) (h : place l r = some l') {q : Span α} (hq : q ∈ l)
    (hle : r.start ≤ q.start) : r.start < q.start ∧ r.stop ≤ q.start := by
  obtain ⟨hfits, -⟩ := place_eq_some.mp h
  have hq : q ∈ Layout.above l r.start := by
    rcases mem_below_or_above hq r.start with hq | hq
    · exact absurd (start_lt_of_mem_below hq) (not_lt.mpr hle)
    · exact hq
  have hordered := ordered.above r.start
  cases habove : Layout.above l r.start with
  | nil =>
      rw [habove] at hq
      cases hq
  | cons next rest =>
      rw [habove] at hq hordered hfits
      simp only [fits, Bool.and_eq_true, decide_eq_true_eq] at hfits
      rcases List.mem_cons.mp hq with rfl | hq
      · exact hfits
      · have hlt := (List.pairwise_cons.mp hordered).1 q hq
        exact ⟨lt_trans hfits.1 hlt, le_trans hfits.2 (le_of_lt hlt)⟩

theorem ordered_place (ordered : Ordered l) (h : place l r = some l') : Ordered l' := by
  have habove : ∀ q ∈ Layout.above l r.start, r.start < q.start := fun q hq =>
    (place_above ordered h (mem_of_mem_above hq) (le_start_of_mem_above ordered hq)).1
  obtain ⟨-, rfl⟩ := place_eq_some.mp h
  have hparts := ordered
  rw [← below_append_above l r.start, Ordered, List.pairwise_append] at hparts
  obtain ⟨hlower, hupper, -⟩ := hparts
  refine List.pairwise_append.mpr ⟨hlower, List.pairwise_cons.mpr ⟨habove, hupper⟩, ?_⟩
  intro p hp q hq
  have hpr := start_lt_of_mem_below hp
  rcases List.mem_cons.mp hq with rfl | hq
  · exact hpr
  · exact lt_trans hpr (habove q hq)

theorem proper_place (proper : Proper l) (nonempty : r.start < r.stop)
    (h : place l r = some l') : Proper l' := by
  intro s hs
  rcases (mem_place h).mp hs with rfl | hs
  · exact nonempty
  · exact proper s hs

/-- Where no span follows, the comparison with the last one covers all. -/
theorem stop_le_of_above_nil (separate : Separate l)
    (hfits : fits l [] r = true) (hbelow : ∀ p ∈ l, p.start < r.start) :
    ∀ p ∈ l, p.stop ≤ r.start := by
  intro p hp
  rcases List.eq_nil_or_concat l with rfl | ⟨front, last, rfl⟩
  · cases hp
  rw [List.concat_eq_append] at *
  simp only [fits, List.getLast?_append, List.getLast?_singleton, Option.some_or,
    decide_eq_true_eq] at hfits
  rcases List.mem_append.mp hp with hp' | hp'
  · have hle := (List.pairwise_append.mp separate).2.2 p hp' last List.mem_cons_self
    exact le_trans hle (le_of_lt (hbelow last (by simp)))
  · rw [List.mem_singleton.mp hp']
    exact hfits

/-- The spans stay apart unless the placed one slips. -/
theorem separate_place (ordered : Ordered l) (separate : Separate l) (h : place l r = some l') :
    Separate l' ↔ ¬Slips l r := by
  have habove : ∀ q ∈ l, r.start ≤ q.start → r.start < q.start ∧ r.stop ≤ q.start :=
    fun q hq hle => place_above ordered h hq hle
  have hparts := separate
  rw [← below_append_above l r.start, Separate, List.pairwise_append] at hparts
  obtain ⟨hlower, hupper, hcross⟩ := hparts
  obtain ⟨hfits, rfl⟩ := place_eq_some.mp h
  constructor
  · rintro hseparate ⟨-, -, prev, hprev, hlt, hinside⟩
    have hmem : prev ∈ below l r.start := by
      rcases mem_below_or_above hprev r.start with hmem | hmem
      · exact hmem
      · exact absurd hlt (not_lt.mpr (le_start_of_mem_above ordered hmem))
    have hle := (List.pairwise_append.mp hseparate).2.2 prev hmem r List.mem_cons_self
    exact absurd hinside (not_lt.mpr hle)
  · intro hslips
    have hprev : ∀ p ∈ below l r.start, p.stop ≤ r.start := by
      cases hnext : Layout.above l r.start with
      | nil =>
          rw [hnext] at hfits
          exact stop_le_of_above_nil hlower hfits fun p hp => start_lt_of_mem_below hp
      | cons next rest =>
          have hmem : next ∈ Layout.above l r.start := by simp [hnext]
          intro p hp
          refine not_lt.mp fun hinside => hslips ⟨⟨next, mem_of_mem_above hmem, ?_⟩, ?_, ?_⟩
          · exact le_start_of_mem_above ordered hmem
          · exact fun q hq hle => (habove q hq hle).2
          · exact ⟨p, mem_of_mem_below hp, start_lt_of_mem_below hp, hinside⟩
    refine List.pairwise_append.mpr ⟨hlower, List.pairwise_cons.mpr ⟨?_, hupper⟩, ?_⟩
    · exact fun q hq => (habove q (mem_of_mem_above hq) (le_start_of_mem_above ordered hq)).2
    · intro p hp q hq
      rcases List.mem_cons.mp hq with rfl | hq
      · exact hprev p hp
      · exact hcross p hp q hq

/-- What slips is placed. -/
theorem place_of_slips (ordered : Ordered l) (nonempty : r.start < r.stop) (h : Slips l r) :
    ∃ l', place l r = some l' := by
  obtain ⟨⟨next, hnext, hle⟩, hall, -⟩ := h
  have hmem : next ∈ Layout.above l r.start := by
    rcases mem_below_or_above hnext r.start with hmem | hmem
    · exact absurd (start_lt_of_mem_below hmem) (not_lt.mpr hle)
    · exact hmem
  refine ⟨_, place_eq_some.mpr ⟨?_, rfl⟩⟩
  cases habove : Layout.above l r.start with
  | nil =>
      rw [habove] at hmem
      cases hmem
  | cons first rest =>
      have hfirst : first ∈ Layout.above l r.start := by simp [habove]
      have hstop := hall first (mem_of_mem_above hfirst) (le_start_of_mem_above ordered hfirst)
      simp only [fits, Bool.and_eq_true, decide_eq_true_eq]
      exact ⟨lt_of_lt_of_le nonempty hstop, hstop⟩

/-- The layout after offering `r`, placed or not, stays apart unless `r` slips. -/
theorem separate_getD_place (ordered : Ordered l) (nonempty : r.start < r.stop)
    (separate : Separate l) : Separate ((place l r).getD l) ↔ ¬Slips l r := by
  cases h : place l r with
  | some l' => exact separate_place ordered separate h
  | none =>
      refine ⟨fun _ hslips => ?_, fun _ => separate⟩
      obtain ⟨l', hsome⟩ := place_of_slips ordered nonempty hslips
      rw [h] at hsome
      cases hsome

/-- In a layout whose spans are apart, the last span that starts at or before one of the
positions of `r` is `r`. -/
theorem getLast?_starting {a : α} (ordered : Ordered l) (separate : Separate l) (hr : r ∈ l)
    (start : r.start ≤ a) (stop : a < r.stop) :
    (l.takeWhile (·.start ≤ a)).getLast? = some r := by
  induction l with
  | nil => cases hr
  | cons s l ih =>
      obtain ⟨hordered, ordered⟩ := List.pairwise_cons.mp ordered
      obtain ⟨hseparate, separate⟩ := List.pairwise_cons.mp separate
      rcases List.mem_cons.mp hr with rfl | hr
      · have hnone : l.takeWhile (·.start ≤ a) = [] := by
          cases l with
          | nil => rfl
          | cons t l =>
              have hpast := lt_of_lt_of_le stop (hseparate t List.mem_cons_self)
              rw [List.takeWhile_cons_of_neg (by simpa using hpast)]
        rw [List.takeWhile_cons_of_pos (by simpa using start), hnone]
        rfl
      · have hstart := le_trans (le_of_lt (hordered r hr)) start
        rw [List.takeWhile_cons_of_pos (by simpa using hstart), List.getLast?_cons,
          ih ordered separate hr]
        rfl

/-! ## Two parallel arrays

The starts and the sizes of the spans are kept apart, and the place of a new span is
the number of starts below its own. -/

section Parallel

variable {β : Type} {key : β → α} {span : β → β → Span α} {starts sizes : List β}

omit [LinearOrder α] in
theorem zipWith_insertIdx (hlen : starts.length = sizes.length) (k : Nat) (s n : β) :
    List.zipWith span (starts.insertIdx k s) (sizes.insertIdx k n) =
      (List.zipWith span starts sizes).insertIdx k (span s n) := by
  induction k generalizing starts sizes with
  | zero => rfl
  | succ k ih =>
      cases starts with
      | nil =>
          cases sizes with
          | nil => rfl
          | cons m ms => cases hlen
      | cons t ts =>
          cases sizes with
          | nil => cases hlen
          | cons m ms => simp [ih (Nat.succ.inj hlen)]

variable (hspan : ∀ s n, (span s n).start = key s) (hlen : starts.length = sizes.length)

include hspan hlen

theorem length_below_zipWith (a : α) :
    (below (List.zipWith span starts sizes) a).length =
      (starts.takeWhile (key · < a)).length := by
  induction starts generalizing sizes with
  | nil => rfl
  | cons s starts ih =>
      cases sizes with
      | nil => cases hlen
      | cons n sizes =>
          by_cases hs : key s < a
          · simpa [below, hspan, hs] using ih (Nat.succ.inj hlen)
          · simp [below, hspan, hs]

/-- With a start at or above its own, a span is compared with the first of those. -/
theorem place_middle {r : Span α}
    (hk : (starts.takeWhile (key · < r.start)).length < starts.length) :
    place (List.zipWith span starts sizes) r =
      if r.start < key starts[(starts.takeWhile (key · < r.start)).length] ∧
          r.stop ≤ key starts[(starts.takeWhile (key · < r.start)).length] then
        some ((List.zipWith span starts sizes).insertIdx
          (starts.takeWhile (key · < r.start)).length r)
      else none := by
  have hlength := length_below_zipWith hspan hlen r.start
  have hk' : (starts.takeWhile (key · < r.start)).length <
      (List.zipWith span starts sizes).length := by
    rw [List.length_zipWith, ← hlen, Nat.min_self]
    exact hk
  have habove : above (List.zipWith span starts sizes) r.start =
      (List.zipWith span starts sizes)[(starts.takeWhile (key · < r.start)).length] ::
        (List.zipWith span starts sizes).drop
          ((starts.takeWhile (key · < r.start)).length + 1) := by
    rw [above_eq_drop, hlength, List.drop_eq_getElem_cons hk']
  rw [place_eq_insertIdx, habove, hlength]
  simp [fits, List.getElem_zipWith, hspan]

/-- Above every other start, a span is compared with the last one. -/
theorem place_end {r : Span α}
    (hk : (starts.takeWhile (key · < r.start)).length = starts.length) :
    place (List.zipWith span starts sizes) r =
      if fits (List.zipWith span starts sizes) [] r then
        some (List.zipWith span starts sizes ++ [r])
      else none := by
  have hlength := length_below_zipWith hspan hlen r.start
  have hall : (List.zipWith span starts sizes).length =
      (below (List.zipWith span starts sizes) r.start).length := by
    rw [hlength, hk, List.length_zipWith, ← hlen, Nat.min_self]
  have habove : above (List.zipWith span starts sizes) r.start = [] := by
    rw [above_eq_drop, ← hall, List.drop_length]
  have hbelow : below (List.zipWith span starts sizes) r.start =
      List.zipWith span starts sizes := by
    have := below_append_above (List.zipWith span starts sizes) r.start
    rwa [habove, List.append_nil] at this
  rw [place, habove, hbelow]

end Parallel

end Riscvm.Layout
