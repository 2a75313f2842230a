import Mathlib.Data.List.Pairwise
import Riscvm.Rv64rs.AddressMap
import Riscvm.Rv64rs.Windows

/-!
# The chain of windows and the range lookup

`get_range` searches the sorted array of every range that was accepted; the bus asks its seven
windows one after another. Where the accepted ranges do not overlap, both find the same one.
-/

namespace Riscvm.Rv64rs

open Exec Layout

namespace RangeManager

variable {m : RangeManager}

/-- The ranges held, in the order of the arrays. -/
def ranges (m : RangeManager) : List Range := List.zipWith Range.mk m.starts m.sizes

theorem held_eq_map (m : RangeManager) :
    m.held = m.ranges.map fun r => span r.start r.size := by
  rw [held, ranges, List.map_zipWith]

theorem span_inj {r r' : Range} (h : span r.start r.size = span r'.start r'.size) : r = r' := by
  obtain ⟨hs, hn⟩ := Span.mk.inj h
  rw [hs] at hn
  obtain ⟨s, n⟩ := r
  obtain ⟨s', n'⟩ := r'
  rw [Range.mk.injEq]
  exact ⟨BitVec.eq_of_toNat_eq hs, BitVec.eq_of_toNat_eq (Nat.add_left_cancel hn)⟩

theorem mem_ranges {r : Range} : r ∈ m.ranges ↔ span r.start r.size ∈ m.held := by
  rw [held_eq_map]
  constructor
  · exact fun h => List.mem_map_of_mem h
  · intro h
    obtain ⟨r', hr', hspan⟩ := List.mem_map.mp h
    rwa [← span_inj hspan]

theorem starts_eq (h : m.starts.length = m.sizes.length) : m.starts = m.ranges.map Range.start := by
  apply List.ext_getElem
  · simp [ranges, h]
  · intro i hi hi'
    simp [ranges]

theorem sizes_eq (h : m.starts.length = m.sizes.length) : m.sizes = m.ranges.map Range.size := by
  apply List.ext_getElem
  · simp [ranges, h]
  · intro i hi hi'
    simp [ranges]

/-- The number of ranges that start at `address` or before it. -/
theorem partitionPoint_starts (h : m.starts.length = m.sizes.length) (address : U64) :
    partitionPoint m.starts (· ≤ address) =
      (m.ranges.takeWhile fun r => decide (r.start ≤ address)).length := by
  rw [starts_eq h, partitionPoint, List.takeWhile_map, List.length_map]
  rfl

variable [Host] {address size : U64}

/-- The lookup in terms of the last range that starts at `address` or before it. -/
theorem getRange_eq (sorted : m.Sorted) (hsize : size ≠ 0)
    (hsum : address.toNat + size.toNat < 2 ^ 64) :
    getRange address size m =
      match (m.ranges.takeWhile fun r => decide (r.start ≤ address)).getLast? with
      | some r =>
          if address.toNat + size.toNat ≤ r.start.toNat + r.size.toNat then
            .ok ((m.ranges.takeWhile fun r => decide (r.start ≤ address)).length - 1, r) m
          else .error (.err (.noDeviceCovers address (address + size))) m
      | none => .error (.err .noDevice) m := by
  have hcheck : checkedAdd address size ≠ none := by
    rw [checkedAdd, if_pos hsum]
    exact Option.some_ne_none _
  have hbegins := List.takeWhile_prefix (l := m.ranges) fun r => decide (r.start ≤ address)
  unfold getRange
  rw [if_neg hsize, if_neg hcheck, get_bind_apply]
  rw [partitionPoint_starts sorted.lengths]
  generalize m.ranges.takeWhile (fun r => decide (r.start ≤ address)) = started at hbegins
  rcases List.eq_nil_or_concat started with rfl | ⟨front, r, rfl⟩
  · rfl
  obtain ⟨rest, hranges⟩ := hbegins
  rw [List.concat_eq_append] at hranges ⊢
  have hlast : m.ranges[front.length]? = some r := by
    rw [← hranges]
    simp
  have hstart : m.starts[front.length]? = some r.start := by
    rw [starts_eq sorted.lengths, List.getElem?_map, hlast]
    rfl
  have hsize : m.sizes[front.length]? = some r.size := by
    rw [sizes_eq sorted.lengths, List.getElem?_map, hlast]
    rfl
  have hbound : r.start.toNat + r.size.toNat < 2 ^ 64 :=
    sorted.bounded _ (mem_ranges.mp (List.mem_of_getElem? hlast))
  have hle : address + size ≤ r.start + r.size ↔
      address.toNat + size.toNat ≤ r.start.toNat + r.size.toNat := by
    rw [BitVec.le_def, BitVec.toNat_add, BitVec.toNat_add, Nat.mod_eq_of_lt hsum,
      Nat.mod_eq_of_lt hbound]
  simp only [List.length_append, List.length_singleton, Nat.add_sub_cancel,
    List.getLast?_append, List.getLast?_singleton, Option.some_or]
  rw [if_neg (Nat.succ_ne_zero _)]
  simp only [index, hstart, hsize, pure_bind, add_of_lt hsum, add_of_lt hbound, hle, run_ite]
  rfl

theorem getRange_ok (sorted : m.Sorted) {i : Nat} {r : Range} {m' : RangeManager}
    (h : getRange address size m = .ok (i, r) m') : r ∈ m.ranges ∧ r.Contains address size := by
  have hsize : size ≠ 0 := by
    rintro rfl
    cases h
  have hsum : address.toNat + size.toNat < 2 ^ 64 := by
    by_contra hover
    have hcheck : checkedAdd address size = none := by rw [checkedAdd, if_neg hover]
    rw [getRange, if_neg hsize, if_pos hcheck] at h
    cases h
  rw [getRange_eq sorted hsize hsum] at h
  cases hlast : (m.ranges.takeWhile fun r => decide (r.start ≤ address)).getLast? with
  | none =>
      rw [hlast] at h
      cases h
  | some last =>
      rw [hlast] at h
      dsimp only at h
      split at h
      next hle =>
        cases h
        have hmem := List.mem_of_getLast? hlast
        have hstart := List.all_eq_true.mp List.all_takeWhile r hmem
        exact ⟨(List.takeWhile_sublist _).subset hmem, of_decide_eq_true hstart, hle⟩
      next => cases h

/-- Among ranges that are apart the lookup finds the one that contains the access. -/
theorem getRange_of_mem (disjoint : m.Disjoint) {r : Range} (hr : r ∈ m.ranges) (hsize : size ≠ 0)
    (h : r.Contains address size) : ∃ i, getRange address size m = .ok (i, r) m := by
  have hpos := BitVec.toNat_pos_of_ne_zero hsize
  have hbound : r.start.toNat + r.size.toNat < 2 ^ 64 := disjoint.bounded _ (mem_ranges.mp hr)
  have hstart := BitVec.le_def.mp h.1
  have hstop := h.2
  have hinside : address.toNat < (span r.start r.size).stop := by
    change address.toNat < r.start.toNat + r.size.toNat
    omega
  have hlast := getLast?_starting disjoint.ordered disjoint.separate (mem_ranges.mp hr) hstart
    hinside
  rw [held_eq_map, List.takeWhile_map, List.getLast?_map] at hlast
  obtain ⟨last, hfound, hspan⟩ := Option.map_eq_some_iff.mp hlast
  obtain rfl := span_inj hspan
  have hsame : (m.ranges.takeWhile fun r => decide (r.start ≤ address)).getLast? = some last :=
    hfound
  rw [getRange_eq disjoint.toSorted hsize (by omega), hsame]
  exact ⟨_, if_pos hstop⟩

/-- A lookup finds a range or reports that there is none. -/
theorem getRange_cases (sorted : m.Sorted) :
    (∃ i r, getRange address size m = .ok (i, r) m) ∨
      ∃ e, getRange address size m = .error (.err e) m := by
  by_cases hsize : size = 0
  · exact .inr ⟨_, by rw [getRange, if_pos hsize]; rfl⟩
  by_cases hsum : address.toNat + size.toNat < 2 ^ 64
  · rw [getRange_eq sorted hsize hsum]
    split
    · split
      · exact .inl ⟨_, _, rfl⟩
      · exact .inr ⟨_, rfl⟩
    · exact .inr ⟨_, rfl⟩
  · have hcheck : checkedAdd address size = none := by rw [checkedAdd, if_neg hsum]
    exact .inr ⟨_, by rw [getRange, if_neg hsize, if_pos hcheck]; rfl⟩

end RangeManager

/-- What a `set_` method of the bus is given. -/
inductive Attachment where
  | ram (ram : Ram)
  | stack (stack : Ram)
  | bootloader (bootloader : Ram)
  | clint (clint : Clint)
  | uart (uart : Uart)
  | plic (plic : Plic)
  | virtio (virtio : VirtIOBlk)

namespace Attachment

def window : Attachment → Window
  | .ram _ => .ram
  | .stack _ => .stack
  | .bootloader _ => .bootloader
  | .clint _ => .clint
  | .uart _ => .uart
  | .plic _ => .plic
  | .virtio _ => .virtio

def size : Attachment → U64
  | .ram memory | .stack memory | .bootloader memory => memory.len
  | .clint device => device.len
  | .uart device => device.len
  | .plic device => device.len
  | .virtio _ => VirtIOBlk.len

/-- The memory that is attached; a device has none. -/
def memory : Attachment → Option Ram
  | .ram memory | .stack memory | .bootloader memory => some memory
  | .clint _ | .uart _ | .plic _ | .virtio _ => none

/-- The call of its `set_` method. -/
def attach [Host] (start : U64) : Attachment → Call Bus Unit
  | .ram memory => Bus.setRam memory start
  | .stack memory => Bus.setStack memory start
  | .bootloader memory => Bus.setBootloader memory start
  | .clint device => Bus.setClint device start
  | .uart device => Bus.setUart device start
  | .plic device => Bus.setPlic device start
  | .virtio device => Bus.setVirtio device start

/-- What a method that succeeds stores, besides the range. -/
def store (range : Range) (bus : Bus) : Attachment → Bus
  | .ram memory => { bus with ramRange := range, ram := memory }
  | .stack memory => { bus with stackRange := range, stack := memory }
  | .bootloader memory => { bus with bootloaderRange := range, bootloader := memory }
  | .clint device =>
      { bus with clintRange := range, clint := true, dev := { bus.dev with clint := device } }
  | .uart device =>
      { bus with uartRange := range, uart := true, dev := { bus.dev with uart := device } }
  | .plic device =>
      { bus with plicRange := range, plic := true, dev := { bus.dev with plic := device } }
  | .virtio device =>
      { bus with virtioRange := range, virtio := true, dev := { bus.dev with virtio := device } }

end Attachment

/-- The call that places something at `start`. -/
structure Placement where
  attachment : Attachment
  start : U64

namespace Placement

def window (call : Placement) : Window := call.attachment.window

def range (call : Placement) : Range := ⟨call.start, call.attachment.size⟩

end Placement

section Attach

variable {bus : Bus} {range : Range} (a : Attachment)

theorem store_rangeManager : (a.store range bus).rangeManager = bus.rangeManager := by
  cases a <;> rfl

theorem store_range (w : Window) :
    (a.store range bus).range w = if w = a.window then range else bus.range w := by
  cases a <;> cases w <;> rfl

theorem store_holds (w : Window) :
    (a.store range bus).holds w = if w = a.window then true else bus.holds w := by
  cases a <;> cases w <;> rfl

theorem store_memory (w : Window) :
    (a.store range bus).memory w = if w = a.window then a.memory else bus.memory w := by
  cases a <;> cases w <;> rfl

variable [Host]

theorem attach_eq (start : U64) : a.attach start bus =
    (do
      let range ← Bus.reserve start a.size
      modify fun bus => a.store range bus : Call Bus Unit) bus := by
  cases a <;> rfl

theorem attach_ok {start : U64} {u : Unit} {bus' : Bus} (h : a.attach start bus = .ok u bus') :
    ∃ position manager,
      RangeManager.addRange ⟨start, a.size⟩ bus.rangeManager = .ok position manager ∧
        bus' = a.store ⟨start, a.size⟩ { bus with rangeManager := manager } := by
  rw [attach_eq] at h
  exact Bus.attach_eq_ok.mp h

/-- A refused call changes nothing. -/
theorem attach_error (sorted : bus.rangeManager.Sorted) {start : U64} {e : Fault} {bus' : Bus}
    (h : a.attach start bus = .error e bus') : bus' = bus := by
  rw [attach_eq, bind_eq_error] at h
  rcases h with h | ⟨range, bus₁, -, h⟩
  · rw [Bus.reserve, bind_eq_error] at h
    rcases h with h | ⟨position, bus₁, -, h⟩
    · unfold Bus.onRangeManager zoom at h
      cases hadd : RangeManager.addRange ⟨start, a.size⟩ bus.rangeManager with
      | ok position manager =>
          rw [hadd] at h
          cases h
      | error e' manager =>
          rw [hadd, RangeManager.addRange_error sorted hadd] at h
          cases h
          rfl
    · cases h
  · cases h

end Attach

section Calls

variable [Host]

/-- One call; the list collects those that were accepted. -/
def attachOne : Bus × List Placement → Placement → Bus × List Placement
  | (bus, accepted), call =>
      match call.attachment.attach call.start bus with
      | .ok _ bus' => (bus', accepted ++ [call])
      | .error _ bus' => (bus', accepted)

/-- A sequence of calls on a new bus. -/
def attachAll (dev : Devices) (calls : List Placement) : Bus × List Placement :=
  calls.foldl attachOne (.new dev, [])

/-- A call is refused and changes nothing, or it is accepted. -/
theorem attachOne_cases {s : Bus × List Placement} (sorted : s.1.rangeManager.Sorted)
    (call : Placement) :
    attachOne s call = s ∨
      ∃ position manager,
        RangeManager.addRange call.range s.1.rangeManager = .ok position manager ∧
          attachOne s call =
            (call.attachment.store call.range { s.1 with rangeManager := manager },
              s.2 ++ [call]) := by
  simp only [attachOne]
  cases h : call.attachment.attach call.start s.1 with
  | error e bus' =>
      left
      rw [attach_error call.attachment sorted h]
  | ok u bus' =>
      obtain ⟨position, manager, hadd, rfl⟩ := attach_ok call.attachment h
      exact .inr ⟨position, manager, hadd, rfl⟩

/-- The ranges accepted so far are those that the manager holds, and each is the range of its
window; the other windows are empty. -/
structure Attached (bus : Bus) (accepted : List Placement) : Prop where
  sorted : bus.rangeManager.Sorted
  ranges : ∀ r, r ∈ bus.rangeManager.ranges ↔ ∃ call ∈ accepted, call.range = r
  range : ∀ call ∈ accepted, bus.range call.window = call.range
  holds : ∀ call ∈ accepted, bus.holds call.window = true
  memory : ∀ call ∈ accepted, bus.memory call.window = call.attachment.memory
  absent : ∀ w, w ∉ accepted.map Placement.window →
    bus.range w = .none ∧ ∀ ram, bus.memory w = some ram → ram = .new 0

omit [Host] in
theorem Attached.new (dev : Devices) : Attached (.new dev) [] where
  sorted := RangeManager.new_disjoint.toSorted
  ranges r := by
    constructor
    · intro h
      cases h
    · rintro ⟨call, h, -⟩
      cases h
  range call h := nomatch h
  holds call h := nomatch h
  memory call h := nomatch h
  absent w _ := by
    refine ⟨by cases w <;> rfl, fun ram h => ?_⟩
    cases w <;> cases h <;> rfl

theorem Attached.step {s : Bus × List Placement} (attached : Attached s.1 s.2)
    (call : Placement) (once : ((attachOne s call).2.map Placement.window).Nodup) :
    Attached (attachOne s call).1 (attachOne s call).2 := by
  obtain hsame | ⟨position, manager, hadd, haccepted⟩ := attachOne_cases attached.sorted call
  · rwa [hsame]
  · rw [haccepted] at once ⊢
    obtain ⟨-, hplace, hsorted⟩ := RangeManager.addRange_ok attached.sorted hadd
    rw [List.map_append] at once
    obtain ⟨-, -, hfresh⟩ := List.nodup_append.mp once
    have hne {c : Placement} (hc : c ∈ s.2) : c.window ≠ call.window :=
      hfresh c.window (List.mem_map_of_mem hc) call.window (by simp)
    constructor
    · rw [store_rangeManager]
      exact hsorted
    · intro r
      rw [store_rangeManager, RangeManager.mem_ranges, Layout.mem_place hplace,
        ← RangeManager.mem_ranges, attached.ranges]
      constructor
      · rintro (h | ⟨c, hc, hr⟩)
        · exact ⟨call, by simp, (RangeManager.span_inj h).symm⟩
        · exact ⟨c, List.mem_append_left _ hc, hr⟩
      · rintro ⟨c, hc, rfl⟩
        rcases List.mem_append.mp hc with hc | hc
        · exact .inr ⟨c, hc, rfl⟩
        · rw [List.mem_singleton.mp hc]
          exact .inl rfl
    · intro c hc
      rw [store_range]
      rcases List.mem_append.mp hc with hc | hc
      · exact (if_neg (hne hc)).trans (attached.range c hc)
      · rw [List.mem_singleton.mp hc]
        exact if_pos rfl
    · intro c hc
      rw [store_holds]
      rcases List.mem_append.mp hc with hc | hc
      · exact (if_neg (hne hc)).trans (attached.holds c hc)
      · rw [List.mem_singleton.mp hc]
        exact if_pos rfl
    · intro c hc
      rw [store_memory]
      rcases List.mem_append.mp hc with hc | hc
      · exact (if_neg (hne hc)).trans (attached.memory c hc)
      · rw [List.mem_singleton.mp hc]
        exact if_pos rfl
    · intro w h
      rw [List.map_append, List.mem_append, not_or] at h
      have hother : w ≠ call.window := fun heq => h.2 (by simp [heq])
      rw [store_range, store_memory]
      rw [Placement.window] at hother
      rw [if_neg hother, if_neg hother]
      exact attached.absent w h.1

theorem prefix_attachOne (s : Bus × List Placement) (call : Placement) :
    s.2 <+: (attachOne s call).2 := by
  simp only [attachOne]
  cases call.attachment.attach call.start s.1 with
  | ok u bus' => exact List.prefix_append _ _
  | error e bus' => exact List.prefix_rfl

theorem attachAll_attached (dev : Devices) (calls : List Placement)
    (once : ((attachAll dev calls).2.map Placement.window).Nodup) :
    Attached (attachAll dev calls).1 (attachAll dev calls).2 := by
  induction calls using List.reverseRecOn with
  | nil => exact .new dev
  | append_singleton calls call ih =>
      have hstep : attachAll dev (calls ++ [call]) = attachOne (attachAll dev calls) call :=
        List.foldl_append
      rw [hstep] at once ⊢
      have hbefore := (prefix_attachOne (attachAll dev calls) call).sublist.map Placement.window
      exact (ih (once.sublist hbefore)).step call once

end Calls

section Searches

variable {bus : Bus} {accepted : List Placement}

/-- No two of the ranges have an address in common. -/
def RangesApart (accepted : List Placement) : Prop :=
  accepted.Pairwise fun p q => p.range.Apart q.range

theorem RangesApart.apart (apart : RangesApart accepted) {p q : Placement}
    (hp : p ∈ accepted) (hq : q ∈ accepted) (hne : p ≠ q) : p.range.Apart q.range :=
  have : Std.Symm fun p q : Placement => p.range.Apart q.range := ⟨fun _ _ h => h.symm⟩
  List.Pairwise.forall apart hp hq hne

theorem Attached.disjoint (attached : Attached bus accepted) (apart : RangesApart accepted) :
    bus.rangeManager.Disjoint := by
  refine ⟨attached.sorted, attached.sorted.ordered.imp_of_mem ?_⟩
  intro p q hp hq hlt
  rw [RangeManager.held_eq_map] at hp hq
  obtain ⟨r, hr, rfl⟩ := List.mem_map.mp hp
  obtain ⟨r', hr', rfl⟩ := List.mem_map.mp hq
  have hproper := attached.sorted.proper _ (RangeManager.mem_ranges.mp hr')
  obtain ⟨c, hc, rfl⟩ := (attached.ranges r).mp hr
  obtain ⟨c', hc', rfl⟩ := (attached.ranges r').mp hr'
  have hne : c ≠ c' := by
    rintro rfl
    exact lt_irrefl _ hlt
  refine not_lt.mp fun hover => ?_
  exact apart.apart hc hc' hne _ ⟨⟨le_of_lt hlt, hover⟩, ⟨Nat.le_refl _, hproper⟩⟩

/-- A window is empty, or it is that of a call that was accepted. -/
theorem Attached.window_cases (attached : Attached bus accepted) (w : Window) :
    bus.range w = .none ∨ ∃ call ∈ accepted, call.window = w ∧ bus.range w = call.range := by
  by_cases hw : w ∈ accepted.map Placement.window
  · obtain ⟨call, hcall, rfl⟩ := List.mem_map.mp hw
    exact .inr ⟨call, hcall, rfl, attached.range call hcall⟩
  · exact .inl (attached.absent w hw).1

theorem Attached.bounded (attached : Attached bus accepted) (w : Window) :
    (bus.range w).start.toNat + (bus.range w).size.toNat < 2 ^ 64 := by
  rcases attached.window_cases w with h | ⟨call, hcall, -, h⟩
  · rw [h]
    decide
  · rw [h]
    exact attached.sorted.bounded _
      (RangeManager.mem_ranges.mp ((attached.ranges _).mpr ⟨call, hcall, rfl⟩))

theorem not_contains_none {address n : U64} (pos : n ≠ 0) : ¬Range.none.Contains address n := by
  have hpos := BitVec.toNat_pos_of_ne_zero pos
  rintro ⟨-, hstop⟩
  change address.toNat + n.toNat ≤ 0 at hstop
  omega

theorem Range.covers_of_contains {r : Range} {address n : U64} (h : r.Contains address n) {k : Nat}
    (hlow : address.toNat ≤ k) (hhigh : k < address.toNat + n.toNat) : r.Covers k := by
  have hstart := BitVec.le_def.mp h.1
  have hstop := h.2
  exact ⟨by omega, by omega⟩

/-- The chain finds the window of the accepted call whose range contains the access. -/
theorem Attached.locate_iff (attached : Attached bus accepted) (apart : RangesApart accepted)
    {address n : U64} (pos : n ≠ 0) {w : Window} :
    bus.locate address n = some w ↔
      ∃ call ∈ accepted, call.window = w ∧ call.range.Contains address n := by
  have hpos := BitVec.toNat_pos_of_ne_zero pos
  have haccepted {v : Window} (h : (bus.range v).Contains address n) :
      ∃ call ∈ accepted, call.window = v ∧ call.range.Contains address n := by
    rcases attached.window_cases v with hnone | ⟨call, hcall, hwindow, hrange⟩
    · rw [hnone] at h
      exact absurd h (not_contains_none pos)
    · exact ⟨call, hcall, hwindow, hrange ▸ h⟩
  constructor
  · exact fun h => haccepted (Bus.contains_of_locate h)
  · rintro ⟨call, hcall, rfl, hcontains⟩
    have hfound : (bus.locate address n).isSome := by
      refine List.find?_isSome.mpr ⟨call.window, ?_, ?_⟩
      · cases call.window <;> decide
      · rw [attached.range call hcall]
        exact decide_eq_true hcontains
    obtain ⟨v, hv⟩ := Option.isSome_iff_exists.mp hfound
    obtain ⟨call', hcall', rfl, hcontains'⟩ := haccepted (Bus.contains_of_locate hv)
    by_cases heq : call' = call
    · rw [hv, heq]
    · have hapart := apart.apart hcall hcall' (Ne.symm heq)
      exact absurd ⟨Range.covers_of_contains hcontains (Nat.le_refl _) (by omega),
        Range.covers_of_contains hcontains' (Nat.le_refl _) (by omega)⟩ (hapart _)

variable [Host]

/-- The bus hands an access to what is behind the window, at the offset. -/
structure Dispatches (bus : Bus) (address : U64) (size : U8) (w : Window) (offset : U64) :
    Prop where
  located : bus.locate address (size.setWidth 64) = some w
  start : address - (bus.range w).start = offset
  holds : bus.holds w = true
  read : Bus.read address size bus = Bus.readWindow false w offset size bus
  write : ∀ value, Bus.write address size value bus =
    Bus.writeWindow VirtIOBlk.write w offset size value bus

/-- No window takes the access. -/
structure Unmapped (bus : Bus) (address : U64) (size : U8) : Prop where
  read : Bus.read address size bus = .error (.err .noDevice) bus
  write : ∀ value, Bus.write address size value bus = .error (.err .noDevice) bus

/-- After any sequence of calls that fills no window twice and accepts ranges that are apart, the
chain and the lookup agree on every access. -/
theorem dispatches_iff (dev : Devices) (calls : List Placement)
    (once : ((attachAll dev calls).2.map Placement.window).Nodup)
    (apart : RangesApart (attachAll dev calls).2) (address : U64) {size : U8} (pos : size ≠ 0) :
    let bus := (attachAll dev calls).1
    let accepted := (attachAll dev calls).2
    (∀ w offset, Dispatches bus address size w offset ↔ ∃ i, ∃ call ∈ accepted,
      RangeManager.getRange address (size.setWidth 64) bus.rangeManager =
        .ok (i, call.range) bus.rangeManager ∧
      call.window = w ∧ call.start = address - offset) ∧
    ((∀ w offset, ¬Dispatches bus address size w offset) → Unmapped bus address size ∧
      ∃ e, RangeManager.getRange address (size.setWidth 64) bus.rangeManager =
        .error (.err e) bus.rangeManager) := by
  intro bus accepted
  have attached : Attached bus accepted := attachAll_attached dev calls once
  have hsize : (size.setWidth 64 : U64) ≠ 0 := by
    rwa [Ne, Bits.setWidth_eq_zero size (by decide)]
  have hlocate {call : Placement} (hcall : call ∈ accepted)
      (h : call.range.Contains address (size.setWidth 64)) :
      Dispatches bus address size call.window (address - call.start) := by
    have hlocated := (attached.locate_iff apart hsize).mpr ⟨call, hcall, rfl, h⟩
    have hoffset : bus.offset call.window address = address - call.start := by
      rw [Bus.offset, attached.range call hcall]
      rfl
    refine ⟨hlocated, hoffset, attached.holds call hcall, ?_, fun value => ?_⟩
    · rw [Bus.read, Bus.readAt_eq attached.bounded, hlocated, ← hoffset]
    · rw [Bus.write, Bus.writeWith_eq attached.bounded, hlocated, ← hoffset]
  constructor
  · intro w offset
    constructor
    · intro dispatches
      obtain ⟨call, hcall, rfl, hcontains⟩ :=
        (attached.locate_iff apart hsize).mp dispatches.located
      obtain ⟨i, hfound⟩ := RangeManager.getRange_of_mem (attached.disjoint apart)
        ((attached.ranges _).mpr ⟨call, hcall, rfl⟩) hsize hcontains
      refine ⟨i, call, hcall, hfound, rfl, ?_⟩
      rw [← dispatches.start, attached.range call hcall, sub_sub_cancel]
      rfl
    · rintro ⟨i, call, hcall, hfound, rfl, hstart⟩
      obtain ⟨-, hcontains⟩ := RangeManager.getRange_ok attached.sorted hfound
      have dispatches := hlocate hcall hcontains
      rwa [hstart, sub_sub_cancel] at dispatches
  · intro hnone
    have hnowhere : bus.locate address (size.setWidth 64) = none := by
      cases h : bus.locate address (size.setWidth 64) with
      | none => rfl
      | some w =>
          obtain ⟨call, hcall, rfl, hcontains⟩ := (attached.locate_iff apart hsize).mp h
          exact absurd (hlocate hcall hcontains) (hnone _ _)
    refine ⟨⟨?_, fun value => ?_⟩, ?_⟩
    · rw [Bus.read, Bus.readAt_eq attached.bounded, hnowhere]
    · rw [Bus.write, Bus.writeWith_eq attached.bounded, hnowhere]
    · rcases RangeManager.getRange_cases attached.sorted with ⟨i, r, hfound⟩ | hmissing
      · obtain ⟨hr, hcontains⟩ := RangeManager.getRange_ok attached.sorted hfound
        obtain ⟨call, hcall, rfl⟩ := (attached.ranges r).mp hr
        exact absurd (hlocate hcall hcontains) (hnone _ _)
      · exact hmissing

end Searches

section Example

attribute [local instance] Host.dev

/-- Memory at 0x1000, where a UART is then refused. -/
def twoCalls : List Placement := [⟨.ram (.new 16), 0x1000⟩, ⟨.uart (.new 8 none none), 0x1000⟩]

theorem dispatches_ram : Dispatches (attachAll .detached twoCalls).1 0x1008 4 .ram 8 := by
  have haccepted : (attachAll .detached twoCalls).2 = [⟨.ram (.new 16), 0x1000⟩] := rfl
  have hall := dispatches_iff .detached twoCalls
    (by rw [haccepted]; exact List.nodup_singleton _)
    (by rw [haccepted]; exact List.pairwise_singleton _ _) 0x1008
    (show (4 : U8) ≠ 0 by decide)
  refine (hall.1 .ram 8).mpr ⟨0, ⟨.ram (.new 16), 0x1000⟩, ?_, rfl, rfl, rfl⟩
  rw [haccepted]
  exact List.mem_cons_self

end Example

end Riscvm.Rv64rs
