import Mathlib.Data.BitVec
import Riscvm.Foundation.Layout
import Riscvm.Foundation.Runs
import Riscvm.Python.Basic

/-!
# The range manager of the Python emulator

`RangeManger` of `rangemanager.py`, and the layout it holds. It inserts like the Rust
range manager, with unbounded integers: a range is refused when its neighbour above is
too close, and the neighbour below is looked at only when there is none above.
-/

namespace Riscvm.Python

open Exec Layout

structure RangeManger where
  starts : List Int
  sizes : List Int
  deriving DecidableEq, Repr

namespace RangeManger

def new : RangeManger := ⟨[], []⟩

/-- `bisect_left` on a sorted list. -/
def bisectLeft (xs : List Int) (x : Int) : Nat := (xs.takeWhile (· < x)).length

/-- `bisect_right` on a sorted list. -/
def bisectRight (xs : List Int) (x : Int) : Nat := (xs.takeWhile (· ≤ x)).length

/-- Refuse `range` because it does not fit between the held ranges. -/
def cannotFit {α : Type} (range : Int × Int) : Call RangeManger α := do
  let manager ← get
  error (.cannotFit range.1 range.2 (manager.starts.zip manager.sizes))

/-- The item at a position that is in range. -/
def item {σ : Type} (xs : List Int) (i : Nat) : Call σ Int :=
  match xs[i]? with
  | some x => return x
  | none => throw .indexError

def addRange (range : Int × Int) : Call RangeManger Unit := do
  let address := range.1
  let size := range.2
  if address < 0 ∨ size ≤ 0 then error (.invalidRange range.1 range.2)
  else if address + size < address then error (.overflowRange range.1 range.2)
  else
    let manager ← get
    let position := bisectLeft manager.starts address
    if position = manager.starts.length then
      let tight ← if 0 < position then do
          let lastEnd := (← item manager.starts (manager.starts.length - 1)) +
            (← item manager.sizes (manager.sizes.length - 1))
          pure (decide (address < lastEnd))
        else pure false
      if tight then cannotFit range
      else set (RangeManger.mk (manager.starts ++ [address]) (manager.sizes ++ [size]))
    else
      let next ← item manager.starts position
      if next = address then cannotFit range
      else
        assert (address < next)
        if next < address + size then cannotFit range
        else
          set (RangeManger.mk (manager.starts.insertIdx position address)
            (manager.sizes.insertIdx position size))

def getRange (address size : Int) : Call RangeManger (Int × Int) := do
  if address < 0 ∨ size ≤ 0 then error (.invalidRange address size)
  else if address + size < address then error (.overflowRange address size)
  else
    let manager ← get
    let position := bisectRight manager.starts address
    if position = 0 then error .noDevice
    else
      let targetStart ← item manager.starts (position - 1)
      let targetSize ← item manager.sizes (position - 1)
      assert (targetStart ≤ address)
      if address + size ≤ targetStart + targetSize then return (targetStart, targetSize)
      else error (.noDeviceCovers address (address + size))

def span (start size : Int) : Span Int := ⟨start, start + size⟩

theorem span_start (start size : Int) : (span start size).start = id start := rfl

/-- The ranges held, in the order of the lists. -/
def held (m : RangeManger) : List (Span Int) := List.zipWith span m.starts m.sizes

/-- The lists describe ranges in order, from 0 up and none empty. -/
structure Sorted (m : RangeManger) : Prop where
  lengths : m.starts.length = m.sizes.length
  ordered : Ordered m.held
  proper : Proper m.held
  nonneg : ∀ r ∈ m.held, 0 ≤ r.start

/-- The ranges do not overlap either. -/
structure Disjoint (m : RangeManger) : Prop extends Sorted m where
  separate : Separate m.held

/-- `range` is a range, and it slips under its upper neighbour into a lower one. -/
def Slips (m : RangeManger) (range : Int × Int) : Prop :=
  0 ≤ range.1 ∧ 0 < range.2 ∧ Layout.Slips m.held (span range.1 range.2)

/-- The manager after the calls `add_range` with each of `ranges`. -/
def addAll (m : RangeManger) (ranges : List (Int × Int)) : RangeManger :=
  ranges.foldl (fun m range => finish (addRange range m)) m

theorem new_disjoint : new.Disjoint where
  lengths := rfl
  ordered := .nil
  proper := fun _ h => nomatch h
  nonneg := fun _ h => nomatch h
  separate := .nil

theorem item_of_lt {σ : Type} {xs : List Int} {i : Nat} (h : i < xs.length) :
    (item xs i : Call σ Int) = pure xs[i] := by
  simp [item, List.getElem?_eq_getElem h]

theorem addRange_invalid {range : Int × Int} (h : range.1 < 0 ∨ range.2 ≤ 0) (m : RangeManger) :
    ∃ e, addRange range m = .error e m := by
  unfold addRange
  exact ⟨_, by rw [if_pos h]; rfl⟩

section Place

variable {m : RangeManger} {range : Int × Int}

theorem held_length (sorted : m.Sorted) : m.held.length = m.starts.length := by
  rw [held, List.length_zipWith, ← sorted.lengths, Nat.min_self]

/-- Above every start the range is compared with the last one and appended. -/
theorem addRange_end (sorted : m.Sorted) (hvalid : ¬(range.1 < 0 ∨ range.2 ≤ 0))
    (hk : bisectLeft m.starts range.1 = m.starts.length) :
    addRange range m =
      if fits m.held [] (span range.1 range.2) then
        .ok () ⟨m.starts ++ [range.1], m.sizes ++ [range.2]⟩
      else cannotFit range m := by
  have hcheck : ¬range.1 + range.2 < range.1 := by omega
  unfold addRange
  simp only [if_neg hvalid, if_neg hcheck, get_bind_apply, hk, if_true]
  by_cases hpos : 0 < m.starts.length
  · have hlast : m.starts.length - 1 < m.starts.length := Nat.sub_lt hpos Nat.one_pos
    have hlast' : m.sizes.length - 1 < m.sizes.length := by rw [← sorted.lengths]; exact hlast
    have hheld : m.held[m.starts.length - 1]? =
        some (span m.starts[m.starts.length - 1] m.sizes[m.sizes.length - 1]) := by
      have hsizes : m.sizes[m.starts.length - 1]? = some m.sizes[m.sizes.length - 1] := by
        rw [sorted.lengths]
        exact List.getElem?_eq_getElem hlast'
      rw [held, List.getElem?_zipWith, List.getElem?_eq_getElem hlast, hsizes]
    have hfits : fits m.held [] (span range.1 range.2) =
        decide (m.starts[m.starts.length - 1] + m.sizes[m.sizes.length - 1] ≤ range.1) := by
      rw [fits, List.getLast?_eq_getElem?, held_length sorted, hheld]
      rfl
    simp only [if_pos hpos, item_of_lt hlast, item_of_lt hlast', pure_bind, hfits]
    by_cases hle : m.starts[m.starts.length - 1] + m.sizes[m.sizes.length - 1] ≤ range.1
    · simp only [decide_eq_false (Int.not_lt.mpr hle), decide_eq_true hle, if_true,
        Bool.false_eq_true, if_false]
      rfl
    · simp only [decide_eq_true (Int.not_le.mp hle), decide_eq_false hle, if_true,
        Bool.false_eq_true, if_false]
  · have hempty : m.held = [] := by
      apply List.eq_nil_of_length_eq_zero
      rw [held_length sorted]
      exact Nat.eq_zero_of_not_pos hpos
    simp only [if_neg hpos, pure_bind, hempty, fits, List.getLast?_nil, Bool.false_eq_true,
      if_false,
      if_true]
    rfl

/-- Elsewhere it is compared with the first range that starts at or above it. -/
theorem addRange_middle (hvalid : ¬(range.1 < 0 ∨ range.2 ≤ 0))
    (hk : bisectLeft m.starts range.1 < m.starts.length) :
    addRange range m =
      if range.1 < m.starts[bisectLeft m.starts range.1] ∧
          range.1 + range.2 ≤ m.starts[bisectLeft m.starts range.1] then
        .ok () ⟨m.starts.insertIdx (bisectLeft m.starts range.1) range.1,
          m.sizes.insertIdx (bisectLeft m.starts range.1) range.2⟩
      else cannotFit range m := by
  have hcheck : ¬range.1 + range.2 < range.1 := by omega
  have hnext : range.1 ≤ m.starts[bisectLeft m.starts range.1] :=
    Int.not_lt.mp (of_decide_eq_false (getElem_takeWhile_length (· < range.1) hk))
  unfold addRange
  simp only [if_neg hvalid, if_neg hcheck, get_bind_apply, if_neg (Nat.ne_of_lt hk), item_of_lt hk,
    pure_bind]
  by_cases heq : m.starts[bisectLeft m.starts range.1] = range.1
  · rw [if_pos heq, heq, if_neg (fun h => Int.lt_irrefl _ h.1)]
  have hlt : range.1 < m.starts[bisectLeft m.starts range.1] := by omega
  rw [if_neg heq, assert, if_pos hlt, pure_bind]
  by_cases hover : m.starts[bisectLeft m.starts range.1] < range.1 + range.2
  · rw [if_pos hover, if_neg (fun h => Int.not_lt.mpr h.2 hover)]
  · rw [if_neg hover, if_pos ⟨hlt, Int.not_lt.mp hover⟩]
    rfl

/-- A range that passes the checks on its own is placed by the layout or refused. -/
theorem addRange_spec (sorted : m.Sorted) (hvalid : ¬(range.1 < 0 ∨ range.2 ≤ 0)) :
    (∃ e, addRange range m = .error e m ∧ place m.held (span range.1 range.2) = none) ∨
      ∃ m', addRange range m = .ok () m' ∧ place m.held (span range.1 range.2) = some m'.held ∧
        m'.starts.length = m'.sizes.length := by
  have hle : bisectLeft m.starts range.1 ≤ m.starts.length := (List.takeWhile_sublist _).length_le
  rcases Nat.lt_or_eq_of_le hle with hk | hk
  · have hplace := place_middle span_start sorted.lengths
      (r := span range.1 range.2) hk
    by_cases hfits : range.1 < m.starts[bisectLeft m.starts range.1] ∧
        range.1 + range.2 ≤ m.starts[bisectLeft m.starts range.1]
    · refine .inr ⟨_, (addRange_middle hvalid hk).trans (if_pos hfits), ?_, ?_⟩
      · rw [held, hplace, held, zipWith_insertIdx sorted.lengths]
        exact if_pos hfits
      · simp only [List.length_insertIdx, ← sorted.lengths]
    · refine .inl ⟨_, (addRange_middle hvalid hk).trans (if_neg hfits), ?_⟩
      rw [held, hplace]
      exact if_neg hfits
  · have hplace := place_end span_start sorted.lengths
      (r := span range.1 range.2) hk
    by_cases hfits : fits m.held [] (span range.1 range.2) = true
    · refine .inr ⟨_, (addRange_end sorted hvalid hk).trans (if_pos hfits), ?_, ?_⟩
      · rw [held, hplace, held, List.zipWith_append sorted.lengths]
        exact if_pos hfits
      · simp only [List.length_append, sorted.lengths, List.length_singleton]
    · exact .inl ⟨_, (addRange_end sorted hvalid hk).trans (if_neg hfits),
        hplace.trans (if_neg hfits)⟩

theorem Sorted.addRange (sorted : m.Sorted) (range : Int × Int) :
    (finish (RangeManger.addRange range m)).Sorted := by
  by_cases hvalid : range.1 < 0 ∨ range.2 ≤ 0
  · obtain ⟨e, herror⟩ := addRange_invalid hvalid m
    rwa [herror]
  rcases addRange_spec sorted hvalid with ⟨e, herror, -⟩ | ⟨m', hok, hplace, hlengths⟩
  · rwa [herror]
  rw [hok, finish_ok]
  have hnonempty : (span range.1 range.2).start < (span range.1 range.2).stop := by
    simp only [span]
    omega
  refine ⟨hlengths, ordered_place sorted.ordered hplace,
    proper_place sorted.proper hnonempty hplace,
    ?_⟩
  intro r hr
  rcases (mem_place hplace).mp hr with rfl | hr
  · simp only [span]
    omega
  · exact sorted.nonneg r hr

/-- A call keeps the ranges apart unless its range slips. -/
theorem Disjoint.addRange_iff (disjoint : m.Disjoint) (range : Int × Int) :
    (finish (RangeManger.addRange range m)).Disjoint ↔ ¬m.Slips range := by
  have hsorted := disjoint.toSorted.addRange range
  by_cases hvalid : range.1 < 0 ∨ range.2 ≤ 0
  · obtain ⟨e, herror⟩ := addRange_invalid hvalid m
    rw [herror, finish_error]
    refine ⟨fun _ hslips => ?_, fun _ => disjoint⟩
    have := hslips.1
    have := hslips.2.1
    omega
  have hrange : 0 ≤ range.1 ∧ 0 < range.2 := by omega
  have hheld : (finish (RangeManger.addRange range m)).held =
      (place m.held (span range.1 range.2)).getD m.held := by
    rcases addRange_spec disjoint.toSorted hvalid with ⟨e, herror, hplace⟩ | ⟨n, hok, hplace, -⟩
    · rw [herror, hplace, finish_error, Option.getD_none]
    · rw [hok, hplace, finish_ok, Option.getD_some]
  have hnonempty : (span range.1 range.2).start < (span range.1 range.2).stop := by
    simp only [span]
    omega
  have hiff := separate_getD_place disjoint.ordered hnonempty disjoint.separate
  rw [← hheld] at hiff
  constructor
  · exact fun h hslips => hiff.mp h.separate hslips.2.2
  · exact fun hslips => ⟨hsorted, hiff.mpr fun h => hslips ⟨hrange.1, hrange.2, h⟩⟩

end Place

/-- A sequence of calls keeps the ranges apart throughout exactly when none slips. -/
theorem addAll_disjoint_iff (ranges : List (Int × Int)) :
    (∀ done rest, ranges = done ++ rest → (addAll new done).Disjoint) ↔
      ∀ done range rest, ranges = done ++ range :: rest → ¬(addAll new done).Slips range :=
  Runs.forall_good_iff (fun _ range disjoint => disjoint.addRange_iff range) new_disjoint ranges

/-- A range manager that holds one range finds nothing else. -/
theorem getRange_single {start length address size : Int} {range : Int × Int}
    {m : RangeManger}
    (h : getRange address size ⟨[start], [length]⟩ = .ok range m) :
    range = (start, length) ∧ m = ⟨[start], [length]⟩ ∧ start ≤ address ∧
      address + size ≤ start + length := by
  unfold getRange at h
  rw [run_ite] at h
  split at h
  next => cases h
  rw [run_ite] at h
  split at h
  next => cases h
  rw [get_bind_apply] at h
  dsimp only at h
  by_cases hstart : start ≤ address
  · have hposition : bisectRight [start] address = 1 := by
      simp [bisectRight, hstart]
    rw [hposition] at h
    change (assert (start ≤ address) >>= fun _ => if address + size ≤ start + length then
      pure (start, length) else error _ : Call RangeManger (Int × Int)) _ = _ at h
    obtain ⟨u, m', hassert, h⟩ := bind_eq_ok.mp h
    obtain ⟨-, rfl⟩ := assert_eq_ok.mp hassert
    rw [run_ite] at h
    split at h
    next hstop =>
      cases h
      exact ⟨rfl, rfl, hstart, hstop⟩
    next => cases h
  · have hposition : bisectRight [start] address = 0 := by
      simp [bisectRight, hstart]
    rw [hposition] at h
    cases h

end RangeManger

end Riscvm.Python
