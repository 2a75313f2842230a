import Riscvm.Foundation.Layout
import Riscvm.Foundation.Runs
import Riscvm.Rv64rs.Memory

/-!
# What the range manager holds

The two arrays of a `RangeManager` are a layout, and `addRange` places a range into it
after the checks on the range alone. Starts, sizes and ends stay well formed whatever
is added; the ranges stay apart as long as no call slips between two neighbours.
-/

namespace Riscvm.Rv64rs

open Exec Layout

namespace RangeManager

def span (start size : U64) : Span Nat := ⟨start.toNat, start.toNat + size.toNat⟩

theorem span_start (start size : U64) : (span start size).start = start.toNat := rfl

/-- The ranges held, in the order of the arrays. -/
def held (m : RangeManager) : List (Span Nat) := List.zipWith span m.starts m.sizes

/-- The arrays describe ranges in order, none empty and none past the last address. -/
structure Sorted (m : RangeManager) : Prop where
  lengths : m.starts.length = m.sizes.length
  ordered : Ordered m.held
  proper : Proper m.held
  bounded : ∀ r ∈ m.held, r.stop < 2 ^ 64

/-- The ranges do not overlap either. -/
structure Disjoint (m : RangeManager) : Prop extends Sorted m where
  separate : Separate m.held

/-- `range` is a range, and it slips under its upper neighbour into a lower one. -/
def Slips (m : RangeManager) (range : Range) : Prop :=
  range.size ≠ 0 ∧ range.start.toNat + range.size.toNat < 2 ^ 64 ∧
    Layout.Slips m.held (span range.start range.size)

theorem new_disjoint : new.Disjoint where
  lengths := rfl
  ordered := .nil
  proper := fun _ h => nomatch h
  bounded := fun _ h => nomatch h
  separate := .nil

variable [Host]

/-- The manager after the calls `add_range` with each of `ranges`. -/
def addAll (m : RangeManager) (ranges : List Range) : RangeManager :=
  ranges.foldl (fun m range => finish (addRange range m)) m

theorem readOnly_describe : ReadOnly describe := by
  refine .bind .get fun m => ?_
  induction m.starts.zip m.sizes with
  | nil => exact .pure _
  | cons r rs ih =>
      rw [List.mapM_cons]
      refine .bind (.bind (readOnly_add _ _) fun _ => .pure _) fun _ => ?_
      exact .bind ih fun _ => .pure _

theorem readOnly_cannotFit (range : Range) : ReadOnly (cannotFit range) :=
  .bind readOnly_describe fun _ => readOnly_error _

theorem cannotFit_error (range : Range) (m : RangeManager) :
    ∃ e, cannotFit range m = .error e m := by
  have hro := readOnly_cannotFit range m
  cases h : cannotFit range m with
  | ok position m' =>
      rw [cannotFit, bind_eq_ok] at h
      obtain ⟨_, _, -, h⟩ := h
      cases h
  | error e m' =>
      rw [h, finish_error] at hro
      exact ⟨e, by rw [hro]⟩

theorem addRange_invalid {range : Range} (h : range.size = 0 ∨
    2 ^ 64 ≤ range.start.toNat + range.size.toNat) (m : RangeManager) :
    ∃ e, addRange range m = .error e m := by
  unfold addRange checkedAdd
  by_cases hsize : range.size = 0
  · exact ⟨_, by rw [if_pos hsize]; rfl⟩
  · have hbound : ¬range.start.toNat + range.size.toNat < 2 ^ 64 :=
      Nat.not_lt.mpr (h.resolve_left hsize)
    exact ⟨_, by rw [if_neg hsize, if_neg hbound, if_pos rfl]; rfl⟩

omit [Host] in
theorem held_length {m : RangeManager} (sorted : m.Sorted) : m.held.length = m.starts.length := by
  rw [held, List.length_zipWith, ← sorted.lengths, Nat.min_self]

omit [Host] in
theorem held_getElem? {m : RangeManager} {i : Nat} (hs : i < m.starts.length)
    (hn : i < m.sizes.length) : m.held[i]? = some (span m.starts[i] m.sizes[i]) := by
  rw [held, List.getElem?_zipWith, List.getElem?_eq_getElem hs, List.getElem?_eq_getElem hn]

section Place

variable {m : RangeManager} {range : Range}

/-- Above every start the range is compared with the last one and appended. -/
theorem addRange_end (sorted : m.Sorted) (hsize : range.size ≠ 0)
    (hbound : range.start.toNat + range.size.toNat < 2 ^ 64)
    (hk : partitionPoint m.starts (· < range.start) = m.starts.length) :
    addRange range m =
      if fits m.held [] (span range.start range.size) then
        .ok m.starts.length ⟨m.starts ++ [range.start], m.sizes ++ [range.size]⟩
      else cannotFit range m := by
  have hcheck : checkedAdd range.start range.size ≠ none := by
    rw [checkedAdd, if_pos hbound]
    exact Option.some_ne_none _
  unfold addRange
  simp only [if_neg hsize, if_neg hcheck, get_bind_apply, hk, if_true]
  by_cases hpos : 0 < m.starts.length
  · have hlast : m.starts.length - 1 < m.starts.length := Nat.sub_lt hpos Nat.one_pos
    have hlast' : m.starts.length - 1 < m.sizes.length := by rw [← sorted.lengths]; exact hlast
    have hheld := held_getElem? hlast hlast'
    have hstop : m.starts[m.starts.length - 1].toNat + m.sizes[m.starts.length - 1].toNat <
        2 ^ 64 :=
      sorted.bounded _ (List.mem_of_getElem? hheld)
    have hprev : (m.starts[m.starts.length - 1] + m.sizes[m.starts.length - 1]).toNat =
        (span m.starts[m.starts.length - 1] m.sizes[m.starts.length - 1]).stop := by
      rw [BitVec.toNat_add, Nat.mod_eq_of_lt hstop]
      rfl
    have hfits : fits m.held [] (span range.start range.size) =
        decide (m.starts[m.starts.length - 1] + m.sizes[m.starts.length - 1] ≤ range.start) := by
      rw [fits, List.getLast?_eq_getElem?, held_length sorted, hheld]
      simp only [BitVec.le_def, hprev]
      rfl
    simp only [if_pos hpos, index_of_lt hlast, index_of_lt hlast', pure_bind,
      add_of_lt hstop, hfits]
    by_cases hle : m.starts[m.starts.length - 1] + m.sizes[m.starts.length - 1] ≤ range.start
    · simp only [decide_eq_true hle, if_true]
      rfl
    · simp only [decide_eq_false hle, Bool.false_eq_true, if_false]
  · have hempty : m.held = [] := by
      apply List.eq_nil_of_length_eq_zero
      rw [held_length sorted]
      exact Nat.eq_zero_of_not_pos hpos
    simp only [if_neg hpos, pure_bind, if_true, hempty, fits, List.getLast?_nil]
    rfl

/-- Elsewhere it is compared with the first range that starts at or above it. -/
theorem addRange_middle (hsize : range.size ≠ 0)
    (hbound : range.start.toNat + range.size.toNat < 2 ^ 64)
    (hk : partitionPoint m.starts (· < range.start) < m.starts.length) :
    addRange range m =
      if range.start.toNat < m.starts[partitionPoint m.starts (· < range.start)].toNat ∧
          range.start.toNat + range.size.toNat ≤
            m.starts[partitionPoint m.starts (· < range.start)].toNat then
        .ok (partitionPoint m.starts (· < range.start))
          ⟨m.starts.insertIdx (partitionPoint m.starts (· < range.start)) range.start,
            m.sizes.insertIdx (partitionPoint m.starts (· < range.start)) range.size⟩
      else cannotFit range m := by
  have hcheck : checkedAdd range.start range.size ≠ none := by
    rw [checkedAdd, if_pos hbound]
    exact Option.some_ne_none _
  have hadd : (range.start + range.size).toNat = range.start.toNat + range.size.toNat := by
    rw [BitVec.toNat_add, Nat.mod_eq_of_lt hbound]
  unfold addRange
  simp only [if_neg hsize, if_neg hcheck, get_bind_apply, if_neg (Nat.ne_of_lt hk),
    index_of_lt hk, pure_bind, add_of_lt hbound]
  by_cases heq : m.starts[partitionPoint m.starts (· < range.start)] = range.start
  · rw [if_pos heq, heq, if_neg (fun h => Nat.lt_irrefl _ h.1)]
  rw [if_neg heq]
  by_cases hover : m.starts[partitionPoint m.starts (· < range.start)] < range.start + range.size
  · rw [if_pos hover, if_neg]
    rw [BitVec.lt_def, hadd] at hover
    exact fun h => Nat.not_lt.mpr h.2 hover
  · rw [if_neg hover, if_pos]
    · rfl
    · rw [BitVec.lt_def, hadd, Nat.not_lt] at hover
      have hpos : 0 < range.size.toNat := BitVec.toNat_pos_of_ne_zero hsize
      omega

/-- A range that passes the checks on its own is placed by the layout or refused. -/
theorem addRange_spec (sorted : m.Sorted) (hsize : range.size ≠ 0)
    (hbound : range.start.toNat + range.size.toNat < 2 ^ 64) :
    (∃ e, addRange range m = .error e m ∧ place m.held (span range.start range.size) = none) ∨
      ∃ position m', addRange range m = .ok position m' ∧
        place m.held (span range.start range.size) = some m'.held ∧
        m'.starts.length = m'.sizes.length := by
  obtain ⟨e, hrefused⟩ := cannotFit_error range m
  have hle : partitionPoint m.starts (· < range.start) ≤ m.starts.length :=
    (List.takeWhile_sublist _).length_le
  rcases Nat.lt_or_eq_of_le hle with hk | hk
  · have hplace := place_middle span_start sorted.lengths
      (r := span range.start range.size) hk
    rw [addRange_middle hsize hbound hk]
    by_cases hfits : range.start.toNat < m.starts[partitionPoint m.starts (· < range.start)].toNat ∧
        range.start.toNat + range.size.toNat ≤
          m.starts[partitionPoint m.starts (· < range.start)].toNat
    · refine .inr ⟨_, _, if_pos hfits, ?_, ?_⟩
      · rw [held, hplace, held, zipWith_insertIdx sorted.lengths]
        exact if_pos hfits
      · simp only [List.length_insertIdx, ← sorted.lengths]
    · refine .inl ⟨e, ?_, ?_⟩
      · rw [if_neg hfits, hrefused]
      · rw [held, hplace]
        exact if_neg hfits
  · have hplace := place_end span_start sorted.lengths
      (r := span range.start range.size) hk
    rw [addRange_end sorted hsize hbound hk, held, hplace]
    by_cases hfits : fits m.held [] (span range.start range.size) = true
    · refine .inr ⟨_, _, if_pos hfits, ?_, ?_⟩
      · rw [held, List.zipWith_append sorted.lengths]
        exact if_pos hfits
      · simp only [List.length_append, sorted.lengths, List.length_singleton]
    · refine .inl ⟨e, ?_, if_neg hfits⟩
      exact (if_neg hfits).trans hrefused

/-- What an accepted call did. -/
theorem addRange_ok (sorted : m.Sorted) {position : Nat} {m' : RangeManager}
    (h : addRange range m = .ok position m') :
    (range.size ≠ 0 ∧ range.start.toNat + range.size.toNat < 2 ^ 64) ∧
      place m.held (span range.start range.size) = some m'.held ∧ m'.Sorted := by
  by_cases hvalid : range.size = 0 ∨ 2 ^ 64 ≤ range.start.toNat + range.size.toNat
  · obtain ⟨e, herror⟩ := addRange_invalid hvalid m
    rw [herror] at h
    cases h
  obtain ⟨hsize, hbound⟩ := not_or.mp hvalid
  rw [Nat.not_le] at hbound
  rcases addRange_spec sorted hsize hbound with ⟨e, herror, -⟩ | ⟨p, n, hok, hplace, hlengths⟩
  · rw [herror] at h
    cases h
  rw [hok] at h
  cases h
  have hnonempty : (span range.start range.size).start < (span range.start range.size).stop :=
    Nat.lt_add_of_pos_right (BitVec.toNat_pos_of_ne_zero hsize)
  refine ⟨⟨hsize, hbound⟩, hplace, hlengths, ordered_place sorted.ordered hplace,
    proper_place sorted.proper hnonempty hplace, ?_⟩
  intro r hr
  rcases (mem_place hplace).mp hr with rfl | hr
  · exact hbound
  · exact sorted.bounded r hr

/-- A refused call changes nothing. -/
theorem addRange_error (sorted : m.Sorted) {e : Fault} {m' : RangeManager}
    (h : addRange range m = .error e m') : m' = m := by
  by_cases hvalid : range.size = 0 ∨ 2 ^ 64 ≤ range.start.toNat + range.size.toNat
  · obtain ⟨_, herror⟩ := addRange_invalid hvalid m
    rw [herror] at h
    cases h
    rfl
  obtain ⟨hsize, hbound⟩ := not_or.mp hvalid
  rcases addRange_spec sorted hsize (Nat.not_le.mp hbound) with
    ⟨_, herror, -⟩ | ⟨_, _, hok, -, -⟩
  · rw [herror] at h
    cases h
    rfl
  · rw [hok] at h
    cases h

theorem Sorted.addRange (sorted : m.Sorted) (range : Range) :
    (finish (RangeManager.addRange range m)).Sorted := by
  cases h : RangeManager.addRange range m with
  | ok position m' => exact (addRange_ok sorted h).2.2
  | error e m' =>
      rw [addRange_error sorted h]
      exact sorted

theorem held_addRange (sorted : m.Sorted) (hsize : range.size ≠ 0)
    (hbound : range.start.toNat + range.size.toNat < 2 ^ 64) :
    (finish (RangeManager.addRange range m)).held =
      (place m.held (span range.start range.size)).getD m.held := by
  rcases addRange_spec sorted hsize hbound with ⟨e, herror, hplace⟩ | ⟨p, n, hok, hplace, -⟩
  · rw [herror, hplace, finish_error, Option.getD_none]
  · rw [hok, hplace, finish_ok, Option.getD_some]

/-- A call keeps the ranges apart unless its range slips. -/
theorem Disjoint.addRange_iff (disjoint : m.Disjoint) (range : Range) :
    (finish (RangeManager.addRange range m)).Disjoint ↔ ¬m.Slips range := by
  have hsorted := disjoint.toSorted.addRange range
  by_cases hvalid : range.size = 0 ∨ 2 ^ 64 ≤ range.start.toNat + range.size.toNat
  · obtain ⟨e, herror⟩ := addRange_invalid hvalid m
    rw [herror, finish_error]
    refine ⟨fun _ hslips => ?_, fun _ => disjoint⟩
    rcases hvalid with hsize | hbound
    · exact hslips.1 hsize
    · exact Nat.not_lt.mpr hbound hslips.2.1
  obtain ⟨hsize, hbound⟩ := not_or.mp hvalid
  rw [Nat.not_le] at hbound
  have hnonempty : (span range.start range.size).start < (span range.start range.size).stop :=
    Nat.lt_add_of_pos_right (BitVec.toNat_pos_of_ne_zero hsize)
  have hiff := separate_getD_place disjoint.ordered hnonempty disjoint.separate
  rw [← held_addRange disjoint.toSorted hsize hbound] at hiff
  constructor
  · exact fun h hslips => hiff.mp h.separate hslips.2.2
  · exact fun hslips => ⟨hsorted, hiff.mpr fun h => hslips ⟨hsize, hbound, h⟩⟩

end Place

/-- A sequence of calls keeps the ranges apart throughout exactly when none slips. -/
theorem addAll_disjoint_iff (ranges : List Range) :
    (∀ done rest, ranges = done ++ rest → (addAll new done).Disjoint) ↔
      ∀ done range rest, ranges = done ++ range :: rest → ¬(addAll new done).Slips range :=
  Runs.forall_good_iff (fun _ range disjoint => disjoint.addRange_iff range) new_disjoint ranges

end RangeManager

end Riscvm.Rv64rs
