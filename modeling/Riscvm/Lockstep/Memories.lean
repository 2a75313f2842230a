import Riscvm.Lockstep.Harts
import Riscvm.Rv64rs.Disk
import Riscvm.Rv64rs.Lookup

/-!
# The memory of a machine

The xv6 machine has its image, its stack and its bootloader in three RAM devices. `SameMemory`
relates a Python bus that maps RAM devices to a Rust bus with memory of the same contents at the
same places.
-/

namespace Riscvm

open Bytes Exec TwosComplement

namespace Python

theorem RangeManger.item_ok {σ : Type} {xs : List Int} {i : Nat} {x : Int} {s s' : σ}
    (h : (item xs i : Call σ Int) s = .ok x s') : s' = s := by
  rw [item] at h
  cases hx : xs[i]? with
  | none =>
      rw [hx] at h
      cases h
  | some y =>
      rw [hx] at h
      cases h
      rfl

/-- A range that is found holds the access. -/
theorem RangeManger.getRange_ok {m m' : RangeManger} {address size : Int} {range : Int × Int}
    (h : getRange address size m = .ok range m') :
    m' = m ∧ 0 < size ∧ range.1 ≤ address ∧ address + size ≤ range.1 + range.2 := by
  rw [getRange, run_ite] at h
  split at h
  next => cases h
  next hvalid =>
    rw [run_ite] at h
    split at h
    next => cases h
    rw [get_bind_apply, run_ite] at h
    split at h
    next => cases h
    obtain ⟨start, m₁, hstart, hrest⟩ := bind_eq_ok.mp h
    obtain ⟨length, m₂, hlength, hchecked⟩ := bind_eq_ok.mp hrest
    obtain ⟨_, m₃, hassert, hfound⟩ := bind_eq_ok.mp hchecked
    obtain rfl := item_ok hstart
    obtain rfl := item_ok hlength
    obtain ⟨hle, rfl⟩ := assert_eq_ok.mp hassert
    rw [run_ite] at hfound
    split at hfound
    next hstop =>
      cases hfound
      exact ⟨rfl, by omega, hle, hstop⟩
    next => cases hfound

end Python

namespace Lockstep

open Rv64rs

/-- A window as a range of the Python bus. -/
def windowRange (bus : Bus) (w : Window) : Int × Int :=
  ((bus.range w).start.toNat, (bus.range w).size.toNat)

/-- Every RAM device of the one bus is memory of the other, clear of its other windows. -/
structure SameMemory (board : Python.Bus) (bus : Bus) : Prop where
  wf : bus.Wf
  apart : ∀ w, (bus.memory w).isSome → ∀ v, v ≠ w → (bus.range w).Apart (bus.range v)
  device : ∀ range data, board.devices.lookup range = some data →
    ∃ w, bus.memory w = some ⟨data⟩ ∧ range = windowRange bus w

/-- A window clear of all others serves the accesses that it contains. -/
theorem locate_of_apart {bus : Bus} {address n : U64} {w : Window} (pos : 0 < n.toNat)
    (contains : (bus.range w).Contains address n)
    (apart : ∀ v, v ≠ w → (bus.range w).Apart (bus.range v)) : bus.locate address n = some w := by
  cases hl : bus.locate address n with
  | none =>
      rw [Bus.locate, List.find?_eq_none] at hl
      exact absurd (decide_eq_true contains) (hl w (by cases w <;> decide))
  | some v =>
      by_contra hne
      have hv : v ≠ w := fun h => hne (congrArg some h)
      have hcovers {u : Window} (h : (bus.range u).Contains address n) :
          (bus.range u).Covers address.toNat :=
        Range.covers_of_contains h (Nat.le_refl _) (Nat.lt_add_of_pos_right pos)
      exact apart v hv _ ⟨hcovers contains, hcovers (Bus.contains_of_locate hl)⟩

/-- An access inside the range that stands for a window reaches the window. -/
theorem reaches {bus : Bus} {address : Int} {size : U8} {w : Window} (wf : bus.Wf)
    (apart : ∀ v, v ≠ w → (bus.range w).Apart (bus.range v)) (pos : 0 < (size.toNat : Int))
    (start : (windowRange bus w).1 ≤ address)
    (stop : address + size.toNat ≤ (windowRange bus w).1 + (windowRange bus w).2) :
    bus.locate (BitVec.ofInt 64 address) (size.setWidth 64) = some w ∧
      ((bus.offset w (BitVec.ofInt 64 address)).toNat : Int) =
        address - (windowRange bus w).1 ∧ 0 ≤ address ∧ address + size.toNat < 2 ^ 64 := by
  have hbounded := wf.bounded w
  have hstart : ((bus.range w).start.toNat : Int) ≤ address := start
  have hstop : address + size.toNat ≤
      ((bus.range w).start.toNat : Int) + (bus.range w).size.toNat := stop
  have haddress : ((BitVec.ofInt 64 address).toNat : Int) = address := by
    rw [BitVec.toNat_ofInt]
    omega
  have hsize : (size.setWidth 64 : U64).toNat = size.toNat :=
    BitVec.toNat_setWidth_of_le (by decide)
  have hcontains : (bus.range w).Contains (BitVec.ofInt 64 address) (size.setWidth 64) := by
    refine ⟨BitVec.le_def.mpr (by omega), ?_⟩
    rw [hsize]
    omega
  refine ⟨locate_of_apart (by omega) hcontains apart, ?_, by omega, by omega⟩
  rw [Bus.offset_toNat hcontains]
  change _ = address - ((bus.range w).start.toNat : Int)
  omega

section Memory

variable {board board' : Python.Bus} {bus : Bus} {address : Int} {size : U8}

theorem getDevice_ok {size : Int} {found : Python.Ram × (Int × Int)}
    (h : Python.Bus.getDevice address size board = .ok found board') :
    board' = board ∧ board.devices.lookup found.2 = some found.1 ∧ 0 < size ∧
      found.2.1 ≤ address ∧ address + size ≤ found.2.1 + found.2.2 := by
  rw [Python.Bus.getDevice, bind_eq_ok] at h
  obtain ⟨range, board₁, hrange, h⟩ := h
  rw [Python.Bus.onRangeManger, zoom] at hrange
  cases hget : Python.RangeManger.getRange address size board.rangeManager with
  | error e m =>
      rw [hget] at hrange
      cases hrange
  | ok range' m =>
      rw [hget] at hrange
      cases hrange
      obtain ⟨rfl, hpos, hstart, hstop⟩ := Python.RangeManger.getRange_ok hget
      rw [get_bind_apply] at h
      cases hlookup : board.devices.lookup range with
      | none =>
          simp only [hlookup] at h
          cases h
      | some data =>
          simp only [hlookup] at h
          cases h
          exact ⟨rfl, hlookup, hpos, hstart, hstop⟩

/-- Where an access of the Python bus ends up on the Rust bus. -/
theorem SameMemory.reach (same : SameMemory board bus) {found : Python.Ram × (Int × Int)}
    (h : Python.Bus.getDevice address size.toNat board = .ok found board') :
    board' = board ∧ ∃ w, bus.memory w = some ⟨found.1⟩ ∧ found.2 = windowRange bus w ∧
      bus.locate (BitVec.ofInt 64 address) (size.setWidth 64) = some w ∧
      ((bus.offset w (BitVec.ofInt 64 address)).toNat : Int) = address - found.2.1 ∧
      0 ≤ address ∧ address + size.toNat < 2 ^ 64 := by
  obtain ⟨rfl, hlookup, hpos, hstart, hstop⟩ := getDevice_ok h
  obtain ⟨w, hmemory, hrange⟩ := same.device _ _ hlookup
  have apart := same.apart w (by rw [hmemory]; rfl)
  rw [hrange] at hstart hstop
  obtain ⟨hlocate, hoffset, hbounds⟩ := reaches same.wf apart hpos hstart hstop
  rw [← hrange] at hoffset
  exact ⟨rfl, w, hmemory, hrange, hlocate, hoffset, hbounds⟩

/-- What succeeds lies in the address space. -/
theorem SameMemory.bounds (same : SameMemory board bus) {found : Python.Ram × (Int × Int)}
    (h : Python.Bus.getDevice address size.toNat board = .ok found board') :
    0 ≤ address ∧ address + size.toNat < 2 ^ 64 := by
  obtain ⟨-, w, -, -, -, -, hbounds⟩ := same.reach h
  exact hbounds

theorem SameMemory.read [Host] (same : SameMemory board bus) (width : Rv64rs.Ram.Width size)
    {value : Int}
    (h : Python.Bus.read address (size.toNat : Int) board = .ok value board') :
    board' = board ∧
      (∀ borrowed, Bus.readAt borrowed (BitVec.ofInt 64 address) size bus =
        .ok (BitVec.ofInt 64 value) bus) ∧
      ∃ n < 256 ^ size.toNat, value = ((n : Nat) : Int) := by
  rw [Python.Bus.read, bind_eq_ok] at h
  obtain ⟨⟨data, range⟩, board₁, hdevice, h⟩ := h
  obtain ⟨rfl, w, hmemory, hrange, hlocate, hoffset, -⟩ := same.reach hdevice
  have hram (a : Int) : Python.Ram.read a (size.toNat : Int) data () =
      .ok ((leNat (extract data a.toNat size.toNat) : Nat) : Int) () := by
    rw [Python.Ram.read, if_pos (width_int width)]
    rfl
  have hdone : Python.Bus.onDevice (Python.Ram.read (address - range.1) (size.toNat : Int) data)
      board₁ = .ok _ board₁ := zoom_ok (hram _)
  obtain ⟨rfl, rfl⟩ : _ = value ∧ board₁ = board' := EStateM.Result.ok.inj (hdone.symm.trans h)
  have hplace : (address - range.1).toNat = (bus.offset w (BitVec.ofInt 64 address)).toNat := by
    dsimp only at hoffset
    omega
  have hfits := same.wf.offset_add_le hlocate hmemory
  refine ⟨rfl, fun borrowed => ?_, _, ?_, rfl⟩
  · rw [Bus.readAt_memory same.wf width hlocate hmemory, hplace, BitVec.ofInt_natCast]
  · have hbytes := leNat_lt (extract data (address - range.1).toNat size.toNat)
    rwa [hplace, length_extract hfits, ← hplace] at hbytes

theorem mem_of_lookup {κ ν : Type} [BEq κ] [LawfulBEq κ] {entries : List (κ × ν)} {key : κ}
    {value : ν} (h : entries.lookup key = some value) : (key, value) ∈ entries := by
  obtain ⟨before, after, rfl, -⟩ := List.lookup_eq_some_iff.mp h
  exact List.mem_append_right before List.mem_cons_self

/-- The device of a range is replaced. -/
theorem lookup_replaced {devices : List ((Int × Int) × Python.Ram)} {range range' : Int × Int}
    {data data' : Python.Ram}
    (h : (devices.map fun d => if d.1 = range then (range, data) else d).lookup range' =
      some data') :
    (range' = range ∧ data' = data) ∨
      (range' ≠ range ∧ devices.lookup range' = some data') := by
  induction devices with
  | nil => cases h
  | cons d devices ih =>
      rw [List.map_cons, List.lookup_cons] at h
      by_cases hd : d.1 = range
      · rw [if_pos hd] at h
        by_cases hr : range' = range
        · rw [beq_iff_eq.mpr hr] at h
          exact .inl ⟨hr, (Option.some.inj h).symm⟩
        · rw [beq_false_of_ne hr] at h
          obtain h | h := ih h
          · exact .inl h
          · refine .inr ⟨hr, ?_⟩
            rw [List.lookup_cons, hd, beq_false_of_ne hr]
            exact h.2
      · rw [if_neg hd] at h
        by_cases hr : range' = d.1
        · rw [beq_iff_eq.mpr hr] at h
          refine .inr ⟨fun h => hd (hr.symm.trans h), ?_⟩
          rw [List.lookup_cons, beq_iff_eq.mpr hr]
          exact h
        · rw [beq_false_of_ne hr] at h
          obtain h | h := ih h
          · exact .inl h
          · refine .inr ⟨h.1, ?_⟩
            rw [List.lookup_cons, beq_false_of_ne hr]
            exact h.2

theorem SameMemory.write [Host] (same : SameMemory board bus) (width : Rv64rs.Ram.Width size)
    {value : U64}
    (h : Python.Bus.write address (size.toNat : Int) (value.toNat : Int) board = .ok () board') :
    ∃ w ram, (∀ virtioWrite, Bus.writeWith virtioWrite (BitVec.ofInt 64 address) size value bus =
        .ok () (bus.setMemory w ram)) ∧
      SameMemory board' (bus.setMemory w ram) := by
  rw [Python.Bus.write, bind_eq_ok] at h
  obtain ⟨⟨data, range⟩, board₁, hdevice, h⟩ := h
  obtain ⟨rfl, w, hmemory, hrange, hlocate, hoffset, -⟩ := same.reach hdevice
  have hram (a : Int) : Python.Ram.write a (size.toNat : Int) (value.toNat : Int) data () =
      .ok (splice data a.toNat (leBytes size.toNat value.toNat)) () := by
    rw [Python.Ram.write, if_pos (width_int width)]
    change EStateM.Result.ok (splice data a.toNat
      (leBytes size.toNat ((value.toNat : Int) % 256 ^ size.toNat).toNat)) () = _
    have hmod : ((value.toNat : Int) % 256 ^ size.toNat).toNat =
        value.toNat % 256 ^ size.toNat := by
      rw [← Int.toNat_natCast (value.toNat % 256 ^ size.toNat), Int.natCast_mod, Int.natCast_pow]
      rfl
    rw [hmod, leBytes_mod]
  have hdone : Python.Bus.onDevice (Python.Ram.write (address - range.1) (size.toNat : Int)
      (value.toNat : Int) data) board₁ = .ok _ board₁ := zoom_ok (hram _)
  have hwritten := (bind_ok hdone _).symm.trans h
  cases hwritten
  have hplace : (address - range.1).toNat = (bus.offset w (BitVec.ofInt 64 address)).toNat := by
    dsimp only at hoffset
    omega
  have hfits := same.wf.offset_add_le hlocate hmemory
  refine ⟨w, ⟨splice data (address - range.1).toNat (leBytes size.toNat value.toNat)⟩, ?_, ?_⟩
  · intro virtioWrite
    rw [Bus.writeWith_memory same.wf width hlocate hmemory, hplace]
  · refine ⟨same.wf.setMemory hmemory ?_, fun v hv u hne => ?_, fun range' data' hlookup => ?_⟩
    · rw [length_splice]
      rw [leBytes_length, hplace]
      exact hfits
    · rw [Bus.range_setMemory, Bus.range_setMemory]
      refine same.apart v ?_ u hne
      rw [Bus.memory_setMemory hmemory] at hv
      by_cases hvw : v = w
      · rw [hvw, hmemory]
        rfl
      · rwa [if_neg hvw] at hv
    · have hranges (v : Window) : windowRange (bus.setMemory w ⟨splice data
          (address - range.1).toNat (leBytes size.toNat value.toNat)⟩) v = windowRange bus v := by
        rw [windowRange, windowRange, Bus.range_setMemory]
      obtain ⟨rfl, rfl⟩ | ⟨hne, hold⟩ := lookup_replaced hlookup
      · refine ⟨w, ?_, hrange.trans (hranges w).symm⟩
        rw [Bus.memory_setMemory hmemory, if_pos rfl]
      · obtain ⟨v, hv, hvrange⟩ := same.device _ _ hold
        refine ⟨v, ?_, hvrange.trans (hranges v).symm⟩
        rw [Bus.memory_setMemory hmemory, if_neg, hv]
        rintro rfl
        exact hne (hvrange.trans hrange.symm)

theorem range_withDev (bus : Bus) (dev : Devices) : Bus.range { bus with dev } = bus.range := by
  funext w
  cases w <;> rfl

theorem memory_withDev (bus : Bus) (dev : Devices) :
    Bus.memory { bus with dev } = bus.memory := by
  funext w
  cases w <;> rfl

theorem holds_withDev (bus : Bus) (dev : Devices) : Bus.holds { bus with dev } = bus.holds := by
  funext w
  cases w <;> rfl

theorem windowRange_withDev (bus : Bus) (dev : Devices) :
    windowRange { bus with dev } = windowRange bus := by
  funext w
  rw [windowRange, windowRange, range_withDev bus dev]

/-- Memory is apart from the devices. -/
theorem SameMemory.withDev (same : SameMemory board bus) (dev : Devices) :
    SameMemory board { bus with dev } where
  wf := by
    constructor
    · rw [range_withDev]
      exact same.wf.bounded
    · rw [range_withDev, memory_withDev]
      exact same.wf.length
  apart := by
    rw [range_withDev, memory_withDev]
    exact same.apart
  device range data h := by
    obtain ⟨w, hw, hrange⟩ := same.device range data h
    refine ⟨w, ?_, hrange.trans (congrFun (windowRange_withDev bus dev) w).symm⟩
    rw [memory_withDev, hw]

theorem SameMemory.withVirtio (same : SameMemory board bus) (virtio : VirtIOBlk) :
    SameMemory board (bus.withVirtio virtio) :=
  same.withDev _

end Memory

/-- The other devices and the windows of a bus. -/
structure Surroundings where
  clint : Clint
  uart : Uart
  plic : Plic
  range : Window → Range
  holds : Window → Bool

def surroundings (bus : Bus) : Surroundings :=
  ⟨bus.dev.clint, bus.dev.uart, bus.dev.plic, bus.range, bus.holds⟩

theorem dev_setMemory (bus : Bus) (w : Window) (ram : Rv64rs.Ram) :
    (bus.setMemory w ram).dev = bus.dev := by
  cases w <;> rfl

end Lockstep

end Riscvm
