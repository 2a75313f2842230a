import Mathlib.Algebra.BigOperators.Ring.Finset
import Riscvm.Foundation.LastWriter
import Riscvm.Rv64rs.Lookup
import Riscvm.Rv64rs.Shape

/-!
# Memory as a map of bytes

RAM, stack and bootloader on a bus, at places that do not overlap: whatever is written, in whatever
widths and wherever it lands, a read inside one of them returns the bytes stored last.
-/

namespace Riscvm.Rv64rs

open Bytes Exec LastWriter

theorem leNat_eq_sum (bs : List U8) :
    leNat bs = ∑ i ∈ Finset.range bs.length, (bs.getD i 0).toNat * 256 ^ i := by
  induction bs with
  | nil => rfl
  | cons b bs ih =>
      rw [leNat_cons, ih, List.length_cons, Finset.sum_range_succ', Nat.add_comm, Finset.mul_sum,
        Nat.pow_zero, Nat.mul_one]
      congr 1
      refine Finset.sum_congr rfl fun i _ => ?_
      rw [List.getD_cons_succ, Nat.pow_succ, Nat.mul_comm (256 ^ i), Nat.mul_left_comm]

/-- The memories of a bus. -/
inductive Bank where
  | ram
  | stack
  | bootloader
  deriving DecidableEq

namespace Bank

def window : Bank → Window
  | ram => .ram
  | stack => .stack
  | bootloader => .bootloader

def attachment (memory : Ram) : Bank → Attachment
  | ram => .ram memory
  | stack => .stack memory
  | bootloader => .bootloader memory

theorem window_inj {b b' : Bank} (h : b.window = b'.window) : b = b' := by
  cases b <;> cases b' <;> first | rfl | cases h

end Bank

/-- A memory of at least `size` bytes, `content` and then zeros, to be attached at `start`. -/
structure Region where
  bank : Bank
  start : U64
  size : U64
  content : List U8
  fits : content.length < 2 ^ 64

namespace Region

def memory (region : Region) : Ram := .withContent region.size region.content

def placement (region : Region) : Placement :=
  ⟨region.bank.attachment region.memory, region.start⟩

def range (region : Region) : Range := ⟨region.start, region.memory.len⟩

/-- What is loaded at the address `k`. -/
def loaded (region : Region) (k : Nat) : U8 := region.content.getD (k - region.start.toNat) 0

variable (region : Region)

theorem placement_window : region.placement.window = region.bank.window := by
  obtain ⟨bank, start, size, content, fits⟩ := region
  cases bank <;> rfl

theorem placement_range : region.placement.range = region.range := by
  obtain ⟨bank, start, size, content, fits⟩ := region
  cases bank <;> rfl

theorem placement_memory : region.placement.attachment.memory = some region.memory := by
  obtain ⟨bank, start, size, content, fits⟩ := region
  cases bank <;> rfl

theorem length_memory :
    region.memory.data.length = max region.size.toNat region.content.length :=
  Ram.length_withContent _ _

theorem toNat_len : region.range.size.toNat = region.memory.data.length := by
  have hlength := region.length_memory
  have hfits := region.fits
  have hsize := region.size.isLt
  exact Ram.len_toNat (by omega)

theorem memory_getElem? {j : Nat} (h : j < region.memory.data.length) :
    region.memory.data[j]? = some (region.content.getD j 0) := by
  rw [List.getElem?_eq_getElem h, ← List.getD_eq_getElem _ 0 h, memory, Ram.withContent, getD_pad]

end Region

/-- A call of `Bus::write`. -/
structure Store where
  address : U64
  size : U8
  value : U64

/-- The bytes that it stores, where it is taken. -/
def Store.write (s : Store) : LastWriter.Write U8 :=
  ⟨s.address.toNat, leBytes s.size.toNat s.value.toNat⟩

instance (range : Range) (k : Nat) : Decidable (range.Covers k) := instDecidableAnd

section Histories

variable (regions : List Region)

/-- All bytes of the store lie in one region. -/
def Takes (s : Store) : Prop :=
  ∃ region ∈ regions, region.range.Contains s.address (s.size.setWidth 64)

instance (s : Store) : Decidable (Takes regions s) := List.decidableBEx _ _

/-- The byte loaded at the address `k`. -/
def loaded (k : Nat) : U8 :=
  match regions.find? fun region => region.range.Covers k with
  | some region => region.loaded k
  | none => 0

/-- The stores that are taken, newest first. -/
def taken (stores : List Store) : List (LastWriter.Write U8) :=
  ((stores.filter fun s => Takes regions s).map Store.write).reverse

/-- The byte stored last at the address `k`, or loaded there. -/
def lastStored (stores : List Store) : Nat → U8 :=
  lastWritten (loaded regions) (taken regions stores)

/-- The memories that a bus was given are the regions, and no two of its ranges overlap. -/
structure LaidOut (accepted : List Placement) : Prop where
  memories : (accepted.filter fun call => call.attachment.memory.isSome) =
    regions.map Region.placement
  once : (accepted.map Placement.window).Nodup
  apart : RangesApart accepted

/-- The store reaches the notify register of the disk, if there is one on the bus. -/
def ReachesNotify (accepted : List Placement) (s : Store) : Prop :=
  s.size = 4 ∧ ∃ call ∈ accepted, call.window = .virtio ∧
    call.range.Contains s.address (s.size.setWidth 64) ∧ s.address - call.start = 0x050

instance (accepted : List Placement) (s : Store) : Decidable (ReachesNotify accepted s) :=
  inferInstanceAs (Decidable (_ ∧ ∃ call ∈ accepted, _))

theorem lastStored_append (stores : List Store) (s : Store) (k : Nat) :
    lastStored regions (stores ++ [s]) k =
      if Takes regions s ∧ s.write.Covers k then byteOf s.value (k - s.address.toNat)
      else lastStored regions stores k := by
  unfold lastStored taken
  rw [List.filter_append, List.map_append, List.reverse_append]
  by_cases htakes : Takes regions s
  · rw [List.filter_cons_of_pos (by simpa using htakes)]
    change lastWritten _ (s.write :: _) k = _
    rw [lastWritten]
    by_cases hcovers : s.write.Covers k
    · rw [if_pos hcovers, if_pos ⟨htakes, hcovers⟩]
      have hlow : s.address.toNat ≤ k := hcovers.1
      have hhigh : k < s.address.toNat + s.size.toNat := by
        have h := hcovers.2
        rwa [Store.write, leBytes_length] at h
      have hbyte := getElem?_leBytes_toNat s.value (i := k - s.address.toNat) (n := s.size.toNat)
        (by omega)
      change (leBytes s.size.toNat s.value.toNat).getD (k - s.address.toNat) _ = _
      rw [List.getD_eq_getElem?_getD, hbyte]
      rfl
    · rw [if_neg hcovers, if_neg (fun h => hcovers h.2)]
      rfl
  · rw [List.filter_cons_of_neg (by simpa using htakes), if_neg (fun h => htakes h.1)]
    rfl

end Histories

section Layouts

variable {regions : List Region} {accepted : List Placement}

theorem LaidOut.mem_iff (laid : LaidOut regions accepted) {call : Placement} :
    (∃ region ∈ regions, region.placement = call) ↔
      call ∈ accepted ∧ call.attachment.memory.isSome := by
  rw [← List.mem_map, ← laid.memories, List.mem_filter]

theorem LaidOut.banks (laid : LaidOut regions accepted) : (regions.map Region.bank).Nodup := by
  have hsublist : (regions.map Region.placement).Sublist accepted :=
    laid.memories ▸ List.filter_sublist
  have hwindows : (regions.map Region.placement).map Placement.window =
      (regions.map Region.bank).map Bank.window := by
    rw [List.map_map, List.map_map]
    exact List.map_congr_left fun region _ => region.placement_window
  exact .of_map Bank.window (hwindows ▸ (hsublist.map Placement.window).nodup laid.once)

/-- Only one region covers an address. -/
theorem LaidOut.unique (laid : LaidOut regions accepted) {r q : Region} (hr : r ∈ regions)
    (hq : q ∈ regions) {k : Nat} (hrk : r.range.Covers k) (hqk : q.range.Covers k) : r = q := by
  have hr' := (laid.mem_iff.mp ⟨r, hr, rfl⟩).1
  have hq' := (laid.mem_iff.mp ⟨q, hq, rfl⟩).1
  have hsame : r.placement = q.placement := by
    by_contra hne
    refine laid.apart.apart hr' hq' hne k ⟨?_, ?_⟩
    · rwa [r.placement_range]
    · rwa [q.placement_range]
  have hbank : r.bank = q.bank := by
    apply Bank.window_inj
    rw [← r.placement_window, ← q.placement_window, hsame]
  exact List.inj_on_of_nodup_map laid.banks hr hq hbank

theorem LaidOut.loaded_eq (laid : LaidOut regions accepted) {region : Region}
    (hr : region ∈ regions) {k : Nat} (hk : region.range.Covers k) :
    loaded regions k = region.loaded k := by
  have hfound : (regions.find? fun region => region.range.Covers k).isSome :=
    List.find?_isSome.mpr ⟨region, hr, decide_eq_true hk⟩
  obtain ⟨other, hother⟩ := Option.isSome_iff_exists.mp hfound
  have hcovers := List.find?_some hother
  rw [loaded, hother,
    laid.unique (List.mem_of_find?_eq_some hother) hr (of_decide_eq_true hcovers) hk]

end Layouts

section Invariant

variable {regions : List Region} {accepted : List Placement} {bus : Bus} {byte : Nat → U8}

/-- The memories of the bus hold `byte`. -/
structure Maps (regions : List Region) (accepted : List Placement) (byte : Nat → U8) (bus : Bus) :
    Prop where
  wf : bus.Wf
  range : ∀ region ∈ regions, bus.range region.bank.window = region.range
  notify : ∀ s : Store, s.size = 4 → bus.locate s.address (s.size.setWidth 64) = some .virtio →
    bus.offset .virtio s.address = 0x050 → ReachesNotify accepted s
  locate : ∀ {address n bank}, n ≠ 0 → (bus.locate address n = some (Bank.window bank) ↔
    ∃ region ∈ regions, region.bank = bank ∧ region.range.Contains address n)
  contents : ∀ region ∈ regions, ∀ k, region.range.Covers k →
    bus.contents (region.bank.window, k - region.start.toNat) = some (byte k)

theorem exists_memory (bus : Bus) (bank : Bank) :
    ∃ memory, bus.memory bank.window = some memory := by
  cases bank <;> exact ⟨_, rfl⟩

theorem Attachment.memory_of_window (a : Attachment) {bank : Bank} (h : a.window = bank.window) :
    a.memory.isSome := by
  cases bank <;> cases a <;> first | rfl | cases h

/-- A bus as it is laid out holds what was loaded. -/
theorem maps_attached (attached : Attached bus accepted) (laid : LaidOut regions accepted) :
    Maps regions accepted (loaded regions) bus := by
  have hmem {region : Region} (h : region ∈ regions) : region.placement ∈ accepted :=
    (laid.mem_iff.mp ⟨region, h, rfl⟩).1
  have hrange {region : Region} (h : region ∈ regions) :
      bus.range region.bank.window = region.range := by
    rw [← region.placement_window, ← region.placement_range]
    exact attached.range _ (hmem h)
  have hmemory {region : Region} (h : region ∈ regions) :
      bus.memory region.bank.window = some region.memory := by
    rw [← region.placement_window, ← region.placement_memory]
    exact attached.memory _ (hmem h)
  refine ⟨⟨attached.bounded, ?_⟩, fun region => hrange, ?_, ?_, ?_⟩
  · intro w memory hm
    by_cases hw : w ∈ accepted.map Placement.window
    · obtain ⟨call, hcall, rfl⟩ := List.mem_map.mp hw
      rw [attached.memory call hcall] at hm
      obtain ⟨region, hregion, rfl⟩ := laid.mem_iff.mpr ⟨hcall, Option.isSome_of_mem hm⟩
      rw [region.placement_memory] at hm
      cases hm
      rw [region.placement_window, hrange hregion, region.toNat_len]
    · obtain ⟨hnone, hnew⟩ := attached.absent w hw
      rw [hnone, hnew memory hm]
      rfl
  · intro s hsize hlocate hoffset
    have pos : s.size.setWidth 64 ≠ 0 := by
      rw [hsize]
      decide
    obtain ⟨call, hcall, hwindow, hcontains⟩ := (attached.locate_iff laid.apart pos).mp hlocate
    refine ⟨hsize, call, hcall, hwindow, hcontains, ?_⟩
    rw [Bus.offset, ← hwindow, attached.range call hcall] at hoffset
    exact hoffset
  · intro address n bank pos
    rw [attached.locate_iff laid.apart pos]
    constructor
    · rintro ⟨call, hcall, hwindow, hcontains⟩
      obtain ⟨region, hregion, rfl⟩ :=
        laid.mem_iff.mpr ⟨hcall, call.attachment.memory_of_window hwindow⟩
      rw [region.placement_window] at hwindow
      exact ⟨region, hregion, Bank.window_inj hwindow, region.placement_range ▸ hcontains⟩
    · rintro ⟨region, hregion, rfl, hcontains⟩
      exact ⟨_, hmem hregion, region.placement_window, region.placement_range.symm ▸ hcontains⟩
  · intro region hregion k hk
    have hlow : region.start.toNat ≤ k := hk.1
    have hhigh : k < region.start.toNat + region.memory.data.length := by
      rw [← region.toNat_len]
      exact hk.2
    rw [Bus.contents_of_memory (hmemory hregion), region.memory_getElem? (by omega),
      laid.loaded_eq hregion hk]
    rfl

theorem Maps.of_memories (maps : Maps regions accepted byte bus) {bus' : Bus}
    (ranges : ∀ w, bus'.range w = bus.range w) (memories : ∀ w, bus'.memory w = bus.memory w) :
    Maps regions accepted byte bus' := by
  have hlocate (address n : U64) : bus'.locate address n = bus.locate address n := by
    simp only [Bus.locate, ranges]
  refine ⟨⟨fun w => ?_, fun w ram hm => ?_⟩, fun region hregion => ?_, fun s hsize => ?_,
    fun pos => ?_, fun region hregion k hk => ?_⟩
  · rw [ranges]
    exact maps.wf.bounded w
  · rw [ranges]
    exact maps.wf.length w ram (memories w ▸ hm)
  · rw [ranges]
    exact maps.range region hregion
  · rw [hlocate, Bus.offset, ranges]
    exact maps.notify s hsize
  · rw [hlocate]
    exact maps.locate pos
  · rw [Bus.contents, memories]
    exact maps.contents region hregion k hk

variable [Host]

omit [Host] in
theorem width_ne_zero {size : U8} (width : Ram.Width size) : size.setWidth 64 ≠ 0 := by
  rcases width with rfl | rfl | rfl | rfl <;> decide

omit [Host] in
theorem width_toNat (size : U8) : (size.setWidth 64).toNat = size.toNat :=
  BitVec.toNat_setWidth_of_le (by decide)

omit [Host] in
theorem Store.covers_iff (s : Store) (k : Nat) :
    s.write.Covers k ↔ s.address.toNat ≤ k ∧ k < s.address.toNat + s.size.toNat := by
  rw [Write.Covers, Store.write, leBytes_length]

/-- A store that is taken changes its bytes. -/
theorem Maps.store_taken (laid : LaidOut regions accepted) (maps : Maps regions accepted byte bus)
    {s : Store} (width : Ram.Width s.size) (takes : Takes regions s) :
    ∃ bus', Bus.write s.address s.size s.value bus = .ok () bus' ∧
      Maps regions accepted (fun k => if s.write.Covers k then byteOf s.value (k - s.address.toNat)
        else byte k) bus' := by
  obtain ⟨region, hregion, hcontains⟩ := takes
  obtain ⟨memory, hm⟩ := exists_memory bus region.bank
  have hlocate := (maps.locate (width_ne_zero width)).mpr ⟨region, hregion, rfl, hcontains⟩
  have hwrite := Bus.writeWith_memory maps.wf width hlocate hm VirtIOBlk.write s.value
  have hlength := maps.wf.offset_add_le hlocate hm
  refine ⟨_, hwrite, maps.wf.setMemory hm ?_, ?_, ?_, ?_, ?_⟩
  · rw [length_splice]
    rwa [leBytes_length]
  · intro q hq
    rw [Bus.range_setMemory]
    exact maps.range q hq
  · intro s' hsize
    rw [Bus.locate_setMemory, Bus.offset, Bus.range_setMemory]
    exact maps.notify s' hsize
  · intro address n bank pos
    rw [Bus.locate_setMemory]
    exact maps.locate pos
  · intro q hq k hk
    rw [Bus.contents_of_write maps.wf width hlocate hm hwrite, maps.contents q hq k hk]
    have hrange := maps.range region hregion
    have hoffset := Bus.offset_toNat (Bus.contains_of_locate hlocate)
    have hstart := BitVec.le_def.mp hcontains.1
    have hstop := hcontains.2
    rw [width_toNat] at hstop
    rw [hrange] at hoffset
    change _ = s.address.toNat - region.start.toNat at hoffset
    have hlow : region.start.toNat ≤ s.address.toNat := hstart
    have hqlow : q.start.toNat ≤ k := hk.1
    by_cases hcovers : s.write.Covers k
    · rw [if_pos hcovers]
      rw [s.covers_iff] at hcovers
      have hk' : region.range.Covers k := ⟨by omega, by omega⟩
      cases laid.unique hq hregion hk hk'
      rw [if_pos ⟨rfl, by omega, by omega⟩, hoffset]
      congr 2
      omega
    · rw [if_neg hcovers, if_neg]
      rintro ⟨hwindow, hin, hout⟩
      rw [s.covers_iff] at hcovers
      cases List.inj_on_of_nodup_map laid.banks hq hregion (Bank.window_inj hwindow)
      rw [hoffset] at hin hout
      dsimp only at hin hout
      exact hcovers ⟨by omega, by omega⟩

/-- What a store that is not taken leaves alone. -/
structure Spares (bus bus' : Bus) : Prop where
  ranges : ∀ w, bus'.range w = bus.range w
  memories : ∀ w, bus'.memory w = bus.memory w

omit [Host] in
theorem Spares.refl (bus : Bus) : Spares bus bus := ⟨fun _ => rfl, fun _ => rfl⟩

omit [Host] in
theorem Spares.trans {bus bus' bus'' : Bus} (h : Spares bus bus') (h' : Spares bus' bus'') :
    Spares bus bus'' :=
  ⟨fun w => (h'.ranges w).trans (h.ranges w), fun w => (h'.memories w).trans (h.memories w)⟩

omit [Host] in
theorem spares_onClint {α : Type} (x : Call Clint α) : Keeps Spares (Bus.onClint x) :=
  Keeps.zoom (R := fun _ _ => True) (fun _ => trivial) fun _ _ _ =>
    ⟨fun w => by cases w <;> rfl, fun w => by cases w <;> rfl⟩

omit [Host] in
theorem spares_onUart {α : Type} (x : Call Uart α) : Keeps Spares (Bus.onUart x) :=
  Keeps.zoom (R := fun _ _ => True) (fun _ => trivial) fun _ _ _ =>
    ⟨fun w => by cases w <;> rfl, fun w => by cases w <;> rfl⟩

omit [Host] in
theorem spares_onPlic {α : Type} (x : Call Plic α) : Keeps Spares (Bus.onPlic x) :=
  Keeps.zoom (R := fun _ _ => True) (fun _ => trivial) fun _ _ _ =>
    ⟨fun w => by cases w <;> rfl, fun w => by cases w <;> rfl⟩

omit [Host] in
theorem spares_onVirtio (f : VirtIOBlk → VirtIOBlk) : Keeps Spares (Bus.onVirtio (modify f)) :=
  fun _ => ⟨fun w => by cases w <;> rfl, fun w => by cases w <;> rfl⟩

/-- Only a notify makes the disk reach memory. -/
theorem spares_write {offset : U64} {size : U8} (quiet : size = 4 → offset ≠ 0x050)
    (value : U64) : Keeps Spares (VirtIOBlk.write offset size value) := by
  rw [VirtIOBlk.write]
  by_cases hsize : size = 4
  · rw [if_neg (not_not_intro hsize)]
    dsimp only
    split
    case h_11 => exact absurd rfl (quiet hsize)
    all_goals first | exact spares_onVirtio _ | exact .pure .refl _
  · rw [if_pos hsize]
    exact .throw .refl _

/-- A store that is not taken, and does not run the queue of the disk. -/
theorem Maps.store_untaken (maps : Maps regions accepted byte bus) {s : Store}
    (width : Ram.Width s.size) (quiet : ¬ReachesNotify accepted s) (untaken : ¬Takes regions s) :
    Spares bus (finish (Bus.write s.address s.size s.value bus)) := by
  have pos := width_ne_zero width
  change Spares bus (finish (Bus.writeWith VirtIOBlk.write s.address s.size s.value bus))
  rw [Bus.writeWith_eq maps.wf.bounded]
  have hbank (bank : Bank) : bus.locate s.address (s.size.setWidth 64) ≠ some bank.window := by
    intro h
    obtain ⟨region, hregion, -, hcontains⟩ := (maps.locate pos).mp h
    exact untaken ⟨region, hregion, hcontains⟩
  have hheld (held : Bool) {x : Call Bus Unit} (hx : Keeps Spares x) :
      Keeps Spares (Bus.unwrap held >>= fun _ => x) :=
    .bind .trans ((Bus.readOnly_unwrap held).mono fun _ _ h => h ▸ .refl _) fun _ => hx
  cases hw : bus.locate s.address (s.size.setWidth 64) with
  | none => exact .refl bus
  | some w =>
      cases w with
      | ram => exact absurd hw (hbank .ram)
      | stack => exact absurd hw (hbank .stack)
      | bootloader => exact absurd hw (hbank .bootloader)
      | clint => exact hheld bus.clint (spares_onClint _) bus
      | uart => exact hheld bus.uart (spares_onUart _) bus
      | plic => exact hheld bus.plic (spares_onPlic _) bus
      | virtio =>
          have hquiet (hsize : s.size = 4) : bus.offset .virtio s.address ≠ 0x050 :=
            fun hoffset => quiet (maps.notify s hsize hw hoffset)
          exact hheld bus.virtio (spares_write hquiet _) bus

/-- One store, whatever becomes of it, leaves what was stored last. -/
theorem Maps.store (laid : LaidOut regions accepted) {stores : List Store}
    (maps : Maps regions accepted (lastStored regions stores) bus) {s : Store}
    (width : Ram.Width s.size) (quiet : ¬ReachesNotify accepted s) :
    Maps regions accepted (lastStored regions (stores ++ [s]))
      (finish (Bus.write s.address s.size s.value bus)) := by
  rw [funext (lastStored_append regions stores s)]
  by_cases takes : Takes regions s
  · obtain ⟨bus', hwrite, maps'⟩ := maps.store_taken laid width takes
    rw [hwrite]
    simp only [takes, true_and]
    exact maps'
  · have hspares := maps.store_untaken width quiet takes
    simpa only [takes, false_and, if_false] using maps.of_memories hspares.ranges hspares.memories

end Invariant

section Runs

variable [Host] {regions : List Region} {accepted : List Placement} {bus : Bus}

/-- The calls of `Bus::write` one after another, those that fail included. -/
def storeAll (bus : Bus) (stores : List Store) : Bus :=
  stores.foldl (fun bus s => finish (Bus.write s.address s.size s.value bus)) bus

theorem maps_storeAll (attached : Attached bus accepted) (laid : LaidOut regions accepted)
    {stores : List Store} (widths : ∀ s ∈ stores, Ram.Width s.size)
    (quiet : ∀ s ∈ stores, ¬ReachesNotify accepted s) :
    Maps regions accepted (lastStored regions stores) (storeAll bus stores) := by
  induction stores using List.reverseRecOn with
  | nil => exact maps_attached attached laid
  | append_singleton stores s ih =>
      rw [storeAll, List.foldl_append]
      have hmem := List.mem_append_right stores (List.mem_singleton_self s)
      exact (ih (fun t ht => widths t (List.mem_append_left _ ht))
        fun t ht => quiet t (List.mem_append_left _ ht)).store laid (widths s hmem) (quiet s hmem)

/-- A read inside a region sums up its bytes. -/
theorem Maps.read {byte : Nat → U8} (maps : Maps regions accepted byte bus) {region : Region}
    (hregion : region ∈ regions) {address : U64} {size : U8} (width : Ram.Width size)
    (hcontains : region.range.Contains address (size.setWidth 64)) :
    ∃ v, Bus.read address size bus = .ok v bus ∧
      v.toNat = ∑ i ∈ Finset.range size.toNat, (byte (address.toNat + i)).toNat * 256 ^ i := by
  obtain ⟨memory, hm⟩ := exists_memory bus region.bank
  have hlocate := (maps.locate (width_ne_zero width)).mpr ⟨region, hregion, rfl, hcontains⟩
  have hlength := maps.wf.offset_add_le hlocate hm
  have hoffset := Bus.offset_toNat (Bus.contains_of_locate hlocate)
  rw [maps.range region hregion] at hoffset
  have hstart := BitVec.le_def.mp hcontains.1
  have hstop := hcontains.2
  rw [width_toNat] at hstop
  refine ⟨_, Bus.readAt_memory maps.wf width hlocate hm false, ?_⟩
  have hextract := length_extract hlength
  have hlt := leNat_lt
    (extract memory.data (bus.offset region.bank.window address).toNat size.toNat)
  rw [BitVec.toNat_ofNat, Nat.mod_eq_of_lt, leNat_eq_sum, hextract]
  · refine Finset.sum_congr rfl fun i hi => ?_
    have hi' := Finset.mem_range.mp hi
    have hbyte := maps.contents region hregion (address.toNat + i) ⟨by omega, by omega⟩
    rw [Bus.contents_of_memory hm] at hbyte
    have hcell : address.toNat - region.range.start.toNat + i =
        address.toNat + i - region.start.toNat := Nat.sub_add_comm hstart |>.symm
    rw [List.getD_eq_getElem?_getD, getElem?_extract hi', hoffset, hcell, hbyte]
    rfl
  · rw [hextract] at hlt
    refine hlt.trans_le ?_
    rcases width with rfl | rfl | rfl | rfl <;> decide

/-- However RAM, stack and bootloader are laid out and whatever is written, as long as nothing makes
a disk on the bus reach memory by itself, a read inside one of them sums up the bytes stored there
last, and a write that fails changes no memory. -/
theorem reads_last_stored (dev : Devices) (calls : List Placement)
    (laid : LaidOut regions (attachAll dev calls).2) {stores : List Store}
    (widths : ∀ s ∈ stores, Ram.Width s.size)
    (quiet : ∀ s ∈ stores, ¬ReachesNotify (attachAll dev calls).2 s) :
    let bus := storeAll (attachAll dev calls).1 stores
    (∀ region ∈ regions, ∀ address size, Ram.Width size →
      region.range.Contains address (size.setWidth 64) →
      ∃ v, Bus.read address size bus = .ok v bus ∧ v.toNat =
        ∑ i ∈ Finset.range size.toNat,
          (lastStored regions stores (address.toNat + i)).toNat * 256 ^ i) ∧
      ∀ s, Ram.Width s.size →
        (Takes regions s → ∃ bus', Bus.write s.address s.size s.value bus = .ok () bus') ∧
        (¬ReachesNotify (attachAll dev calls).2 s →
          ∀ e bus', Bus.write s.address s.size s.value bus = .error e bus' →
            ∀ w, bus'.memory w = bus.memory w) := by
  have attached := attachAll_attached dev calls laid.once
  have maps := maps_storeAll attached laid widths quiet
  refine ⟨fun region hregion address size width hcontains => maps.read hregion width hcontains,
    fun s width => ⟨fun takes => ?_, fun quiet e bus' hwrite => ?_⟩⟩
  · obtain ⟨bus', hwrite, -⟩ := maps.store_taken laid width takes
    exact ⟨bus', hwrite⟩
  · have untaken : ¬Takes regions s := by
      intro takes
      obtain ⟨bus'', hok, -⟩ := maps.store_taken laid width takes
      rw [hok] at hwrite
      cases hwrite
    have hspares := maps.store_untaken width quiet untaken
    rw [hwrite] at hspares
    exact hspares.memories

end Runs

section Example

attribute [local instance] Host.dev

/-- A program of two bytes in RAM of four, the stack after it. -/
def twoRegions : List Region :=
  [⟨.ram, 0x1000, 4, [0x11, 0x22], by decide⟩, ⟨.stack, 0x1004, 4, [], by decide⟩]

/-- A UART and a disk behind the memories. -/
def withDevices : List Placement :=
  twoRegions.map Region.placement ++
    [⟨.uart (.new 8 none none), 0x2000⟩, ⟨.virtio (.new 0 none), 0x3000⟩]

theorem laidOut_twoRegions : LaidOut twoRegions (attachAll .detached withDevices).2 := by
  have haccepted : (attachAll .detached withDevices).2 = withDevices := rfl
  have hordered : withDevices.Pairwise fun p q =>
      p.range.start.toNat + p.range.size.toNat ≤ q.range.start.toNat := by decide
  rw [haccepted]
  exact ⟨rfl, by decide, hordered.imp Range.apart_of_le⟩

/-- Two bytes of RAM, the size of the disk's queue, and a byte that RAM does not take. -/
def threeStores : List Store := [⟨0x1001, 2, 0xaabb⟩, ⟨0x3038, 4, 8⟩, ⟨0x1008, 1, 7⟩]

theorem reads_second_byte :
    ∃ v, Bus.read 0x1000 4 (storeAll (attachAll .detached withDevices).1 threeStores) =
        .ok v (storeAll (attachAll .detached withDevices).1 threeStores) ∧
      v.toNat = 0x00aabb11 := by
  have hwidths : ∀ s ∈ threeStores, Ram.Width s.size := by decide
  have hquiet : ∀ s ∈ threeStores, ¬ReachesNotify (attachAll .detached withDevices).2 s := by
    decide
  obtain ⟨v, hread, hv⟩ := (reads_last_stored .detached withDevices laidOut_twoRegions hwidths
    hquiet).1 _ List.mem_cons_self 0x1000 4 (by decide) (by decide)
  exact ⟨v, hread, hv.trans (by decide)⟩

end Example

end Riscvm.Rv64rs
