import Riscvm.Foundation.Simulates
import Riscvm.Lockstep.Memories

/-!
# The two range managers

`RangeManger` holds ranges of integers and `RangeManager` ranges of words. Called with the same
ranges and accesses, one accepts what the other accepts and finds what the other finds, as long as
no range is added that ends beyond the address space, which only the second refuses.
-/

namespace Riscvm.Lockstep

open Exec Layout Rv64rs

/-- A range of words as one of integers. -/
def pair (range : Range) : Int × Int := (number range.start, number range.size)

/-- The two hold the same ranges in the same order. -/
structure SameRanges (python : Python.RangeManger) (rust : RangeManager) : Prop where
  starts : python.starts = rust.starts.map number
  sizes : python.sizes = rust.sizes.map number
  python : python.Sorted
  rust : rust.Sorted

theorem sameRanges_new : SameRanges .new .new :=
  ⟨rfl, rfl, Python.RangeManger.new_disjoint.toSorted, RangeManager.new_disjoint.toSorted⟩

theorem number_lt {a b : U64} : number a < number b ↔ a < b := Int.ofNat_lt

theorem number_le {a b : U64} : number a ≤ number b ↔ a ≤ b := Int.ofNat_le

section Calls

variable {python : Python.RangeManger} {rust : RangeManager}

/-- The search for the place of an address. -/
theorem SameRanges.search (same : SameRanges python rust) {p : Int → Bool} {q : U64 → Bool}
    (h : ∀ start, p (number start) = q start) :
    (python.starts.takeWhile p).length = RangeManager.partitionPoint rust.starts q := by
  have hpq : p ∘ number = q := funext h
  rw [same.starts, List.takeWhile_map, List.length_map, hpq, RangeManager.partitionPoint]

theorem SameRanges.bisectLeft (same : SameRanges python rust) (address : U64) :
    Python.RangeManger.bisectLeft python.starts (number address) =
      RangeManager.partitionPoint rust.starts (· < address) :=
  same.search fun _ => decide_eq_decide.mpr number_lt

theorem SameRanges.bisectRight (same : SameRanges python rust) (address : U64) :
    Python.RangeManger.bisectRight python.starts (number address) =
      RangeManager.partitionPoint rust.starts (· ≤ address) :=
  same.search fun _ => decide_eq_decide.mpr number_le

/-- The last range ends below the new one in both or in neither. -/
theorem SameRanges.fits (same : SameRanges python rust) (range : Range) :
    Layout.fits python.held [] (Python.RangeManger.span (pair range).1 (pair range).2) =
      Layout.fits rust.held [] (RangeManager.span range.start range.size) := by
  have hheld : python.held = rust.ranges.map fun r => Python.RangeManger.span (pair r).1
      (pair r).2 := by
    rw [Python.RangeManger.held, same.starts, same.sizes, List.zipWith_map, RangeManager.ranges,
      List.map_zipWith]
    rfl
  rw [hheld, RangeManager.held_eq_map, Layout.fits, Layout.fits, List.getLast?_map,
    List.getLast?_map]
  cases rust.ranges.getLast? with
  | none => rfl
  | some last =>
      refine decide_eq_decide.mpr ?_
      change (last.start.toNat : Int) + last.size.toNat ≤ range.start.toNat ↔
        last.start.toNat + last.size.toNat ≤ range.start.toNat
      omega

/-- Both calls return, or both raise and leave the ranges as they are. -/
def BothAdd (python : Python.RangeManger) (rust : RangeManager)
    (x : EStateM.Result Python.Exception Python.RangeManger Unit)
    (y : EStateM.Result Fault RangeManager Nat) : Prop :=
  (∃ python' position rust', x = .ok () python' ∧ y = .ok position rust' ∧
    SameRanges python' rust') ∨
  ∃ e e', x = .error e python ∧ y = .error e' rust

theorem pair_valid {range : Range} (hsize : range.size ≠ 0) :
    ¬((pair range).1 < 0 ∨ (pair range).2 ≤ 0) := by
  have hpos : 0 < range.size.toNat := BitVec.toNat_pos_of_ne_zero hsize
  change ¬((range.start.toNat : Int) < 0 ∨ (range.size.toNat : Int) ≤ 0)
  omega

theorem SameRanges.length (same : SameRanges python rust) :
    python.starts.length = rust.starts.length := by
  rw [same.starts, List.length_map]

/-- The entries at a place. -/
theorem SameRanges.getElem (same : SameRanges python rust) {i : Nat} (hs : i < rust.starts.length)
    (hn : i < rust.sizes.length) :
    python.starts[i]? = some (number rust.starts[i]) ∧
      python.sizes[i]? = some (number rust.sizes[i]) := by
  rw [same.starts, same.sizes, List.getElem?_map, List.getElem?_map, List.getElem?_eq_getElem hs,
    List.getElem?_eq_getElem hn]
  exact ⟨rfl, rfl⟩

/-- A range above every start. -/
theorem SameRanges.addRange_end [Host] (same : SameRanges python rust) {range : Range}
    (hsize : range.size ≠ 0) (bounded : range.start.toNat + range.size.toNat < 2 ^ 64)
    (hk : RangeManager.partitionPoint rust.starts (· < range.start) = rust.starts.length) :
    BothAdd python rust (Python.RangeManger.addRange (pair range) python)
      (RangeManager.addRange range rust) := by
  have hk' : Python.RangeManger.bisectLeft python.starts (pair range).1 = python.starts.length :=
    (same.bisectLeft range.start).trans (hk.trans same.length.symm)
  have hsorted := same.python.addRange (pair range)
  have hsorted' := same.rust.addRange range
  have hpython := Python.RangeManger.addRange_end same.python (pair_valid hsize) hk'
  have hrust := RangeManager.addRange_end same.rust hsize bounded hk
  rw [same.fits] at hpython
  by_cases hfits : Layout.fits rust.held [] (RangeManager.span range.start range.size) = true
  · rw [if_pos hfits] at hpython hrust
    rw [hpython] at hsorted
    rw [hrust] at hsorted'
    refine .inl ⟨_, _, _, hpython, hrust, ?_, ?_, hsorted, hsorted'⟩
    · dsimp only
      rw [List.map_append, ← same.starts]
      rfl
    · dsimp only
      rw [List.map_append, ← same.sizes]
      rfl
  · obtain ⟨e', hrefused⟩ := RangeManager.cannotFit_error range rust
    rw [if_neg hfits] at hpython hrust
    exact .inr ⟨_, e', hpython, hrust.trans hrefused⟩

/-- A range below some start. -/
theorem SameRanges.addRange_middle [Host] (same : SameRanges python rust) {range : Range}
    (hsize : range.size ≠ 0) (bounded : range.start.toNat + range.size.toNat < 2 ^ 64)
    (hk : RangeManager.partitionPoint rust.starts (· < range.start) < rust.starts.length) :
    BothAdd python rust (Python.RangeManger.addRange (pair range) python)
      (RangeManager.addRange range rust) := by
  have hposition : Python.RangeManger.bisectLeft python.starts (pair range).1 =
      RangeManager.partitionPoint rust.starts (· < range.start) :=
    same.bisectLeft range.start
  have hk' : Python.RangeManger.bisectLeft python.starts (pair range).1 < python.starts.length := by
    rw [hposition, same.length]
    exact hk
  have hsorted := same.python.addRange (pair range)
  have hsorted' := same.rust.addRange range
  have hpython := Python.RangeManger.addRange_middle (pair_valid hsize) hk'
  have hrust := RangeManager.addRange_middle hsize bounded hk
  have hnext : python.starts[Python.RangeManger.bisectLeft python.starts (pair range).1] =
      number rust.starts[RangeManager.partitionPoint rust.starts (· < range.start)] := by
    have hget := (congrArg (python.starts[·]?) hposition).trans
      (same.getElem hk (same.rust.lengths ▸ hk)).1
    exact (List.getElem?_eq_some_iff.mp hget).2
  rw [hnext] at hpython
  by_cases hfits : range.start.toNat <
        rust.starts[RangeManager.partitionPoint rust.starts (· < range.start)].toNat ∧
      range.start.toNat + range.size.toNat ≤
        rust.starts[RangeManager.partitionPoint rust.starts (· < range.start)].toNat
  · rw [if_pos ⟨Int.ofNat_lt.mpr hfits.1, Int.ofNat_le.mpr hfits.2⟩] at hpython
    rw [if_pos hfits] at hrust
    rw [hpython] at hsorted
    rw [hrust] at hsorted'
    refine .inl ⟨_, _, _, hpython, hrust, ?_, ?_, hsorted, hsorted'⟩
    · dsimp only
      rw [List.map_insertIdx, ← hposition, ← same.starts]
      rfl
    · dsimp only
      rw [List.map_insertIdx, ← hposition, ← same.sizes]
      rfl
  · obtain ⟨e', hrefused⟩ := RangeManager.cannotFit_error range rust
    rw [if_neg fun h => hfits ⟨Int.ofNat_lt.mp h.1, Int.ofNat_le.mp h.2⟩] at hpython
    rw [if_neg hfits, hrefused] at hrust
    exact .inr ⟨_, e', hpython, hrust⟩

/-- A range is accepted by both or by neither. -/
theorem SameRanges.addRange [Host] (same : SameRanges python rust) {range : Range}
    (bounded : range.start.toNat + range.size.toNat < 2 ^ 64) :
    BothAdd python rust (Python.RangeManger.addRange (pair range) python)
      (RangeManager.addRange range rust) := by
  by_cases hsize : range.size = 0
  · have hempty : (pair range).1 < 0 ∨ (pair range).2 ≤ 0 := by
      refine .inr ?_
      rw [pair, hsize]
      exact Int.le_refl 0
    have hempty' : range.size = 0 ∨ 2 ^ 64 ≤ range.start.toNat + range.size.toNat := .inl hsize
    obtain ⟨e, hpython⟩ := Python.RangeManger.addRange_invalid hempty python
    obtain ⟨e', hrust⟩ := RangeManager.addRange_invalid hempty' rust
    exact .inr ⟨e, e', hpython, hrust⟩
  have hle : RangeManager.partitionPoint rust.starts (· < range.start) ≤ rust.starts.length :=
    (List.takeWhile_sublist _).length_le
  rcases Nat.lt_or_eq_of_le hle with hk | hk
  · exact same.addRange_middle hsize bounded hk
  · exact same.addRange_end hsize bounded hk

/-- Both calls find the same range, or both raise; the ranges stay as they are. -/
def BothFind (python : Python.RangeManger) (rust : RangeManager)
    (x : EStateM.Result Python.Exception Python.RangeManger (Int × Int))
    (y : EStateM.Result Fault RangeManager (Nat × Range)) : Prop :=
  (∃ i r, x = .ok (pair r) python ∧ y = .ok (i, r) rust) ∨
  ∃ e e', x = .error e python ∧ y = .error e' rust

/-- An access falls into the same range, or is refused by both. -/
theorem SameRanges.getRange [Host] (same : SameRanges python rust) (address size : U64) :
    BothFind python rust (Python.RangeManger.getRange (number address) (number size) python)
      (RangeManager.getRange address size rust) := by
  by_cases hsize : size = 0
  · subst hsize
    exact .inr ⟨_, _, rfl, rfl⟩
  have hpos : 0 < size.toNat := BitVec.toNat_pos_of_ne_zero hsize
  have hvalid : ¬(number address < 0 ∨ number size ≤ 0) := by
    change ¬((address.toNat : Int) < 0 ∨ (size.toNat : Int) ≤ 0)
    omega
  have hover : ¬number address + number size < number address := by omega
  have hposition := same.bisectRight address
  rw [Python.RangeManger.getRange, if_neg hvalid, if_neg hover, get_bind_apply, hposition]
  by_cases hk : RangeManager.partitionPoint rust.starts (· ≤ address) = 0
  · rw [if_pos hk]
    by_cases hsum : address.toNat + size.toNat < 2 ^ 64
    · refine .inr ⟨_, .err .noDevice, rfl, ?_⟩
      have hcheck : checkedAdd address size ≠ none := by
        rw [checkedAdd, if_pos hsum]
        exact Option.some_ne_none _
      rw [RangeManager.getRange, if_neg hsize, if_neg hcheck, get_bind_apply, if_pos hk]
      rfl
    · refine .inr ⟨_, .err (.overflowRange address size), rfl, ?_⟩
      have hcheck : checkedAdd address size = none := by rw [checkedAdd, if_neg hsum]
      rw [RangeManager.getRange, if_neg hsize, if_pos hcheck]
      rfl
  rw [if_neg hk]
  generalize hposition' : RangeManager.partitionPoint rust.starts (· ≤ address) - 1 = i
  have hi : i < (rust.starts.takeWhile (· ≤ address)).length := by
    rw [RangeManager.partitionPoint] at hk hposition'
    omega
  have hs : i < rust.starts.length :=
    Nat.lt_of_lt_of_le hi (List.takeWhile_sublist _).length_le
  have hn : i < rust.sizes.length := same.rust.lengths ▸ hs
  have hstart : rust.starts[i] ≤ address := by
    have hmem := List.all_eq_true.mp (List.all_takeWhile (l := rust.starts) (p := (· ≤ address)))
      _ (List.getElem_mem hi)
    rw [(List.takeWhile_prefix _).getElem hi] at hmem
    exact of_decide_eq_true hmem
  have hbound : rust.starts[i].toNat + rust.sizes[i].toNat < 2 ^ 64 :=
    same.rust.bounded _ (List.mem_of_getElem? (RangeManager.held_getElem? hs hn))
  obtain ⟨hstarts, hsizes⟩ := same.getElem hs hn
  have hitem : (Python.RangeManger.item python.starts i : Python.Call Python.RangeManger Int) =
      pure (number rust.starts[i]) := by
    rw [Python.RangeManger.item, hstarts]
  have hitem' : (Python.RangeManger.item python.sizes i : Python.Call Python.RangeManger Int) =
      pure (number rust.sizes[i]) := by
    rw [Python.RangeManger.item, hsizes]
  rw [hitem, hitem', pure_bind, pure_bind, Python.assert, if_pos (number_le.mpr hstart), pure_bind]
  by_cases hsum : address.toNat + size.toNat < 2 ^ 64
  · have hcheck : checkedAdd address size ≠ none := by
      rw [checkedAdd, if_pos hsum]
      exact Option.some_ne_none _
    rw [RangeManager.getRange, if_neg hsize, if_neg hcheck, get_bind_apply, if_neg hk, hposition',
      index_of_lt hs, index_of_lt hn, pure_bind, pure_bind,
      add_of_lt hsum, pure_bind, add_of_lt hbound, pure_bind]
    have hle : address + size ≤ rust.starts[i] + rust.sizes[i] ↔
        number address + number size ≤ number rust.starts[i] + number rust.sizes[i] := by
      rw [BitVec.le_def, BitVec.toNat_add, BitVec.toNat_add, Nat.mod_eq_of_lt hsum,
        Nat.mod_eq_of_lt hbound]
      exact Int.ofNat_le.symm
    by_cases hstop : address + size ≤ rust.starts[i] + rust.sizes[i]
    · rw [if_pos hstop, if_pos (hle.mp hstop)]
      exact .inl ⟨i, ⟨rust.starts[i], rust.sizes[i]⟩, rfl, rfl⟩
    · rw [if_neg hstop, if_neg fun h => hstop (hle.mpr h)]
      exact .inr ⟨_, _, rfl, rfl⟩
  · have hcheck : checkedAdd address size = none := by rw [checkedAdd, if_neg hsum]
    have hstop : ¬number address + number size ≤
        number rust.starts[i] + number rust.sizes[i] := by
      change ¬(address.toNat : Int) + size.toNat ≤ rust.starts[i].toNat + rust.sizes[i].toNat
      omega
    rw [if_neg hstop, RangeManager.getRange, if_neg hsize, if_pos hcheck]
    exact .inr ⟨_, _, rfl, rfl⟩

end Calls

/-- A call of a range manager. -/
inductive RangeCall where
  | add (range : Range)
  | find (address size : U64)

namespace RangeCall

/-- A range that is added ends in the address space. -/
def Bounded : RangeCall → Prop
  | .add range => range.start.toNat + range.size.toNat < 2 ^ 64
  | .find _ _ => True

/-- The call in Python, with the range that is found. -/
def python : RangeCall → Python.Call Python.RangeManger (Option (Int × Int))
  | .add range => do
      Python.RangeManger.addRange (pair range)
      return none
  | .find address size => do
      return some (← Python.RangeManger.getRange (number address) (number size))

/-- The call in Rust, which knows the place of the range besides. -/
def rust [Host] : RangeCall → Call RangeManager (Option Range)
  | .add range => do
      let _ ← RangeManager.addRange range
      return none
  | .find address size => do
      let (_, range) ← RangeManager.getRange address size
      return some range

theorem agrees [Host] (call : RangeCall) {python : Python.RangeManger} {rust : RangeManager}
    (bounded : call.Bounded) (same : SameRanges python rust) :
    answered (call.python python) = (answered (call.rust rust)).map (Option.map pair) ∧
      SameRanges (finish (call.python python)) (finish (call.rust rust)) := by
  cases call with
  | add range =>
      rw [RangeCall.python, RangeCall.rust]
      obtain ⟨python', position, rust', hpython, hrust, same'⟩ | ⟨e, e', hpython, hrust⟩ :=
        same.addRange bounded
      · rw [bind_ok hpython, bind_ok hrust]
        exact ⟨rfl, same'⟩
      · rw [bind_apply, bind_apply, hpython, hrust]
        exact ⟨rfl, same⟩
  | find address size =>
      rw [RangeCall.python, RangeCall.rust]
      obtain ⟨i, range, hpython, hrust⟩ | ⟨e, e', hpython, hrust⟩ := same.getRange address size
      · rw [bind_ok hpython, bind_ok hrust]
        exact ⟨rfl, same⟩
      · rw [bind_apply, bind_apply, hpython, hrust]
        exact ⟨rfl, same⟩

/-- Whatever is added and looked up, in any order, both managers accept the same calls, find the
same ranges and end with the same ranges, whether or not ranges overlap. -/
theorem managers_agree [Host] {calls : List RangeCall} (bounded : ∀ call ∈ calls, call.Bounded) :
    (outcomes python calls .new).1 =
        (outcomes rust calls .new).1.map (Option.map (Option.map pair)) ∧
      SameRanges (outcomes python calls .new).2 (outcomes rust calls .new).2 :=
  outcomes_related (fun call _ _ => call.agrees) calls bounded sameRanges_new

section Example

attribute [local instance] Host.dev

/-- RAM, a range inside it, one that starts with it, a device, and a range that slips from the one
under the other; then accesses. -/
def overlapping : List RangeCall :=
  [.add ⟨0x8000, 0x1000⟩, .add ⟨0x8100, 0x10⟩, .add ⟨0x8000, 0x10⟩, .add ⟨0xa000, 0x100⟩,
    .add ⟨0x8800, 0x1000⟩, .find 0x8700 8, .find 0x8ff8 8, .find 0x9800 1, .find 0xa000 0,
    .find (-1) 2]

/-- What RAM and the last range share is found in the last range. -/
theorem managers_agree_overlapping :
    [some none, none, none, some none, some none, some (some (0x8000, 0x1000)),
      some (some (0x8800, 0x1000)), none, none, none] =
        (outcomes rust overlapping .new).1.map (Option.map (Option.map pair)) := by
  have hpython : (outcomes python overlapping .new).1 =
      [some none, none, none, some none, some none, some (some (0x8000, 0x1000)),
        some (some (0x8800, 0x1000)), none, none, none] := by
    decide +kernel
  have bounded : ∀ call ∈ overlapping, call.Bounded := by
    simp [overlapping, Bounded]
  exact hpython.symm.trans (managers_agree bounded).1

end Example

end RangeCall

end Riscvm.Lockstep
