import Riscvm.Rv64rs.Emulator
import Riscvm.Rv64rs.Ranges

/-!
# The windows of the xv6 machine

`new_smp` reserves seven windows one after another. Five have fixed addresses; RAM and
stack follow the load address, and are reserved first. So a device is refused when its
window would reach up into RAM or stack, but not when it lies inside them.
-/

namespace Riscvm.Rv64rs

open Exec Layout RangeManager

/-- `a` is an address of the range. -/
def Range.Covers (range : Range) (a : Nat) : Prop :=
  range.start.toNat ≤ a ∧ a < range.start.toNat + range.size.toNat

/-- No address belongs to both ranges. -/
def Range.Apart (r s : Range) : Prop := ∀ a, ¬(r.Covers a ∧ s.Covers a)

/-- `r`, reserved after `q`, does not reach up into it. -/
def Range.Clears (q r : Range) : Prop :=
  r.start.toNat ≤ q.start.toNat →
    r.start.toNat < q.start.toNat ∧ r.start.toNat + r.size.toNat ≤ q.start.toNat

/-- The range is not empty and ends within the address space. -/
def Range.Valid (r : Range) : Prop := r.size ≠ 0 ∧ r.start.toNat + r.size.toNat < 2 ^ 64

namespace Range

variable {r s : Range}

theorem Apart.symm (h : r.Apart s) : s.Apart r := fun a ha => h a ha.symm

theorem apart_of_le (h : r.start.toNat + r.size.toNat ≤ s.start.toNat) : r.Apart s := by
  rintro a ⟨hr, hs⟩
  exact absurd (Nat.lt_of_lt_of_le hr.2 h) (Nat.not_lt.mpr hs.1)

/-- A range that clears another one overlaps it only from inside. -/
theorem Clears.apart_iff (h : r.Clears s) (hs : s.size ≠ 0) :
    r.Apart s ↔ ¬r.Covers s.start.toNat := by
  constructor
  · intro hapart hcovers
    exact hapart _ ⟨hcovers, Nat.le_refl _,
      Nat.lt_add_of_pos_right (BitVec.toNat_pos_of_ne_zero hs)⟩
  · intro hout
    rcases Nat.le_or_ge s.start.toNat r.start.toNat with hle | hge
    · exact (apart_of_le (h hle).2).symm
    · exact apart_of_le (Nat.not_lt.mp fun hlt => hout ⟨hge, hlt⟩)

end Range

namespace Bus

/-- The windows in the order in which `read` and `write` try them. -/
def windows (bus : Bus) : List Range :=
  [bus.ramRange, bus.stackRange, bus.bootloaderRange, bus.clintRange, bus.uartRange,
    bus.plicRange, bus.virtioRange]

variable [Host] {bus bus' : Bus}

theorem reserve_eq_ok {start size : U64} {range : Range} :
    reserve start size bus = .ok range bus' ↔
      ∃ position manager, addRange ⟨start, size⟩ bus.rangeManager = .ok position manager ∧
        range = ⟨start, size⟩ ∧ bus' = { bus with rangeManager := manager } := by
  rw [reserve, bind_eq_ok]
  constructor
  · rintro ⟨position, t, h, hpure⟩
    rw [onRangeManager, zoom] at h
    cases hadd : addRange ⟨start, size⟩ bus.rangeManager with
    | ok p manager =>
        rw [hadd] at h
        cases h
        cases hpure
        exact ⟨_, _, rfl, rfl, rfl⟩
    | error e manager =>
        rw [hadd] at h
        cases h
  · rintro ⟨position, manager, hadd, rfl, rfl⟩
    exact ⟨position, _, zoom_ok hadd, rfl⟩

/-- Attaching anything reserves its window and then stores it. -/
theorem attach_eq_ok {start size : U64} {store : Range → Bus → Bus} :
    (do
      let range ← reserve start size
      modify (store range) : Call Bus Unit) bus = .ok () bus' ↔
      ∃ position manager, addRange ⟨start, size⟩ bus.rangeManager = .ok position manager ∧
        bus' = store ⟨start, size⟩ { bus with rangeManager := manager } := by
  rw [bind_eq_ok]
  simp only [reserve_eq_ok, modify_apply]
  constructor
  · rintro ⟨_, _, ⟨position, manager, hadd, rfl, rfl⟩, h⟩
    cases h
    exact ⟨position, manager, hadd, rfl⟩
  · rintro ⟨position, manager, hadd, rfl⟩
    exact ⟨_, _, ⟨position, manager, hadd, rfl, rfl⟩, rfl⟩

variable {start : U64} {u : Unit}

theorem setRam_eq_ok {ram : Ram} : setRam ram start bus = .ok u bus' ↔
    ∃ position manager, addRange ⟨start, ram.len⟩ bus.rangeManager = .ok position manager ∧
      bus' =
        { bus with
            rangeManager := manager, ramRange := ⟨start, ram.len⟩, ram } :=
  attach_eq_ok

theorem setStack_eq_ok {stack : Ram} : setStack stack start bus = .ok u bus' ↔
    ∃ position manager, addRange ⟨start, stack.len⟩ bus.rangeManager = .ok position manager ∧
      bus' =
        { bus with
            rangeManager := manager, stackRange := ⟨start, stack.len⟩, stack } :=
  attach_eq_ok

theorem setBootloader_eq_ok {bootloader : Ram} : setBootloader bootloader start bus = .ok u bus' ↔
    ∃ position manager, addRange ⟨start, bootloader.len⟩ bus.rangeManager = .ok position manager ∧
      bus' =
        { bus with
            rangeManager := manager, bootloaderRange := ⟨start, bootloader.len⟩, bootloader } :=
  attach_eq_ok

theorem setClint_eq_ok {clint : Clint} : setClint clint start bus = .ok u bus' ↔
    ∃ position manager, addRange ⟨start, clint.len⟩ bus.rangeManager = .ok position manager ∧
      bus' =
        { bus with
            rangeManager := manager, clintRange := ⟨start, clint.len⟩, clint := true,
            dev := { bus.dev with clint } } :=
  attach_eq_ok

theorem setUart_eq_ok {uart : Uart} : setUart uart start bus = .ok u bus' ↔
    ∃ position manager, addRange ⟨start, uart.len⟩ bus.rangeManager = .ok position manager ∧
      bus' =
        { bus with
            rangeManager := manager, uartRange := ⟨start, uart.len⟩, uart := true,
            dev := { bus.dev with uart } } :=
  attach_eq_ok

theorem setPlic_eq_ok {plic : Plic} : setPlic plic start bus = .ok u bus' ↔
    ∃ position manager, addRange ⟨start, plic.len⟩ bus.rangeManager = .ok position manager ∧
      bus' =
        { bus with
            rangeManager := manager, plicRange := ⟨start, plic.len⟩, plic := true,
            dev := { bus.dev with plic } } :=
  attach_eq_ok

theorem setVirtio_eq_ok {virtio : VirtIOBlk} : setVirtio virtio start bus = .ok u bus' ↔
    ∃ position manager, addRange ⟨start, VirtIOBlk.len⟩ bus.rangeManager = .ok position manager ∧
      bus' =
        { bus with
            rangeManager := manager, virtioRange := ⟨start, VirtIOBlk.len⟩, virtio := true,
            dev := { bus.dev with virtio } } :=
  attach_eq_ok

end Bus

namespace RangeManager

variable [Host] {m : RangeManager}

/-- The manager accepts the ranges one after another. -/
def Reserves : RangeManager → List Range → Prop
  | _, [] => True
  | m, r :: rs => ∃ position m', addRange r m = .ok position m' ∧ Reserves m' rs

/-- Each accepted range clears those reserved before it. -/
theorem Reserves.clears (sorted : m.Sorted) {rs : List Range} (h : m.Reserves rs) :
    (∀ r ∈ rs, r.Valid) ∧ rs.Pairwise Range.Clears ∧
      ∀ r ∈ rs, ∀ q ∈ m.held, r.start.toNat ≤ q.start →
        r.start.toNat < q.start ∧ r.start.toNat + r.size.toNat ≤ q.start := by
  induction rs generalizing m with
  | nil => exact ⟨fun _ h => (nomatch h), .nil, fun _ h => (nomatch h)⟩
  | cons r rs ih =>
      obtain ⟨position, m', hadd, hrest⟩ := h
      obtain ⟨hvalid, hplace, hsorted⟩ := addRange_ok sorted hadd
      obtain ⟨hvalids, hpairwise, hheld⟩ := ih hsorted hrest
      refine ⟨?_, List.pairwise_cons.mpr ⟨?_, hpairwise⟩, ?_⟩
      · exact List.forall_mem_cons.mpr ⟨hvalid, hvalids⟩
      · intro s hs
        exact hheld s hs _ ((mem_place hplace).mpr (.inl rfl))
      · refine List.forall_mem_cons.mpr ⟨?_, ?_⟩
        · exact fun q hq hle => place_above sorted.ordered hplace hq hle
        · exact fun s hs q hq => hheld s hs q ((mem_place hplace).mpr (.inr hq))

end RangeManager

namespace Xv6Emulator

/-- The windows with fixed addresses, in the order of their reservation. -/
def fixedWindows : List Range :=
  [⟨CLINT_BASE, CLINT_SIZE⟩, ⟨UART_BASE, UART_SIZE⟩, ⟨VIRTIO_DISK_BASE, VirtIOBlk.len⟩,
    ⟨PLIC_BASE, PLIC_SIZE⟩, ⟨BOOTLOADER_ADDR, 40⟩]

/-- The windows of a machine with `ramLen` bytes of RAM, in the order of their reservation. -/
def reservations (ramLen address stackBegin : U64) : List Range :=
  ⟨address, ramLen⟩ :: ⟨stackBegin, STACK_SIZE⟩ :: fixedWindows

variable [Host]

omit [Host] in
theorem stack_len : (Ram.new STACK_SIZE).len = STACK_SIZE := by
  rw [Ram.len, Ram.new, List.length_replicate]
  rfl

theorem readOnly_allocate {σ : Type} (n : Nat) : ReadOnly (allocate n : Call σ Unit) :=
  (readOnly_panic _).ite ((readOnly_panic _).ite (.pure _))

theorem readOnly_allocateDisk {σ : Type} (diskSize : U64) (diskImage : Option (List U8)) :
    ReadOnly (allocateDisk diskSize diskImage : Call σ Unit) := by
  cases diskImage with
  | some image => exact (readOnly_allocate _).ite (.pure _)
  | none => exact readOnly_allocate _

theorem attach_spec {program : List U8} {address stackBegin : U64} {uartOutput : Option (List U8)}
    {uartInput : Option (List (Option (List U8)))} {diskImage : Option (List U8)} {ncpu : U64}
    {bus bus' : Bus}
    (h : attach program address stackBegin uartOutput uartInput diskImage ncpu bus = .ok () bus') :
    ∃ ramSize, (sub stackBegin address : Call Bus U64) bus = .ok ramSize bus ∧
      max ramSize.toNat program.length < 2 ^ 63 ∧
      bus.rangeManager.Reserves
        (reservations (Ram.withContent ramSize program).len address stackBegin) ∧
      bus'.windows = [⟨address, (Ram.withContent ramSize program).len⟩, ⟨stackBegin, STACK_SIZE⟩,
        ⟨BOOTLOADER_ADDR, 40⟩, ⟨CLINT_BASE, CLINT_SIZE⟩, ⟨UART_BASE, UART_SIZE⟩,
        ⟨PLIC_BASE, PLIC_SIZE⟩, ⟨VIRTIO_DISK_BASE, VirtIOBlk.len⟩] := by
  simp only [attach, bind_eq_ok, Bus.setRam_eq_ok, Bus.setStack_eq_ok, Bus.setClint_eq_ok,
    Bus.setUart_eq_ok, Bus.setVirtio_eq_ok, Bus.setPlic_eq_ok, Bus.setBootloader_eq_ok] at h
  obtain ⟨ramSize, _, hsub, _, _, halloc, _, _, hstack, _, _, ⟨p₁, m₁, hadd₁, rfl⟩, _, _,
    ⟨p₂, m₂, hadd₂, rfl⟩, _, _, ⟨p₃, m₃, hadd₃, rfl⟩, _, _, ⟨p₄, m₄, hadd₄, rfl⟩, _, _, hdisk, _, _,
    ⟨p₅, m₅, hadd₅, rfl⟩, _, _, ⟨p₆, m₆, hadd₆, rfl⟩, p₇, m₇, hadd₇, rfl⟩ := h
  obtain rfl := (readOnly_sub stackBegin address).state_eq hsub
  obtain ⟨hlt, -, rfl⟩ := allocate_eq_ok.mp halloc
  obtain ⟨-, -, rfl⟩ := allocate_eq_ok.mp hstack
  obtain rfl := (readOnly_allocateDisk _ _).state_eq hdisk
  rw [stack_len] at hadd₂
  refine ⟨ramSize, hsub, hlt, ?_, ?_⟩
  · exact ⟨p₁, m₁, hadd₁, p₂, m₂, hadd₂, p₃, m₃, hadd₃, p₄, m₄, hadd₄, p₅, m₅, hadd₅, p₆, m₆, hadd₆,
      p₇, m₇, hadd₇, trivial⟩
  · simp only [Bus.windows, stack_len]
    rfl

/-- The shared devices of a machine that is built. -/
theorem attach_dev {program : List U8} {address stackBegin : U64} {uartOutput : Option (List U8)}
    {uartInput : Option (List (Option (List U8)))} {diskImage : Option (List U8)} {ncpu : U64}
    {bus bus' : Bus}
    (h : attach program address stackBegin uartOutput uartInput diskImage ncpu bus = .ok () bus') :
    bus'.dev = ⟨.new CLINT_SIZE ncpu.toNat, .new UART_SIZE uartOutput uartInput, plic,
      .new VIRTIO_DISK_SIZE_DEFAULT diskImage⟩ := by
  simp only [attach, bind_eq_ok, Bus.setRam_eq_ok, Bus.setStack_eq_ok, Bus.setClint_eq_ok,
    Bus.setUart_eq_ok, Bus.setVirtio_eq_ok, Bus.setPlic_eq_ok, Bus.setBootloader_eq_ok] at h
  obtain ⟨_, _, -, _, _, -, _, _, -, _, _, -, _, _, -, _, _, ⟨_, _, -, hclint⟩, _, _,
    ⟨_, _, -, huart⟩, _, _, hdisk, _, _, ⟨_, _, -, hvirtio⟩, _, _, ⟨_, _, -, hplic⟩, _, _, -,
    hboot⟩ := h
  rw [hboot, hplic, hvirtio, (readOnly_allocateDisk _ _).state_eq hdisk, huart, hclint]

/-- The number of bytes in the pages that hold `n` bytes. -/
def pageBytes (n : Nat) : Nat := (n + 0xfff) / 0x1000 * 0x1000

omit [Host] in
theorem roundUp_toNat {n : Nat} (h : n < 2 ^ 63) :
    ((BitVec.ofNat 64 n + 0xfff#64) &&& ~~~0xfff#64).toNat = pageBytes n := by
  have hmask : ∀ x : U64, x &&& ~~~0xfff#64 = (x >>> 12) <<< 12 := by
    have hones : (0xfff#64 : U64) = Bits.bit 12 - 1 := by decide
    intro x
    rw [hones]
    apply BitVec.eq_of_getElem_eq
    intro i hi
    rw [BitVec.getElem_and, BitVec.getElem_not, Bits.getElem_mask (by decide)]
    grind
  have hsum : (BitVec.ofNat 64 n + 0xfff#64).toNat = n + 0xfff := by
    rw [BitVec.toNat_add, BitVec.toNat_ofNat]
    simp only [BitVec.reduceToNat]
    omega
  rw [hmask, BitVec.toNat_shiftLeft, BitVec.toNat_ushiftRight, hsum, Nat.shiftLeft_eq,
    Nat.shiftRight_eq_div_pow, pageBytes]
  omega

theorem readOnly_stackBegin {σ : Type} (programLen address : U64) :
    ReadOnly (stackBegin programLen address : Call σ U64) :=
  (readOnly_add _ _).bind fun _ => readOnly_add _ _

section Windows

variable {program : List U8} {address : U64} {uartOutput : Option (List U8)}
variable {uartInput : Option (List (Option (List U8)))} {diskImage : Option (List U8)} {ncpu : U64}
variable {emu : Xv6Emulator} {bus : Bus}

omit [Host] in
theorem ram_len {size : U64} (h : program.length ≤ size.toNat) :
    (Ram.withContent size program).len = size := by
  rw [Ram.len, Ram.withContent, List.length_append, List.length_replicate, Nat.max_eq_left h,
    Nat.add_sub_cancel' h, BitVec.ofNat_toNat, BitVec.setWidth_eq]

/-- How a machine comes to be built. -/
theorem newSmp_ok (h : newSmp program address uartOutput uartInput diskImage ncpu = .ok emu bus) :
    ∃ sb : U64, ncpu.toNat ≤ 32 ∧
      (stackBegin (BitVec.ofNat 64 program.length) address : Call Bus U64) (.new .detached) =
        .ok sb (.new .detached) ∧
      attach program address sb uartOutput uartInput diskImage ncpu (.new .detached) =
        .ok () emu.bus ∧
      emu.cpus = (List.range ncpu.toNat).map fun hartid => resetCpu (BitVec.ofNat 64 hartid) := by
  unfold newSmp at h
  dsimp only at h
  by_cases hzero : ncpu = 0
  · rw [if_pos hzero] at h
    cases h
  rw [if_neg hzero] at h
  by_cases hmax : BitVec.ofNat 64 Plic.MAX_CONTEXTS / 2 < ncpu
  · rw [if_pos hmax] at h
    cases h
  rw [if_neg hmax, bind_eq_ok] at h
  obtain ⟨sb, s, hbegin, h⟩ := h
  obtain rfl := (readOnly_stackBegin _ _).state_eq hbegin
  rw [bind_eq_ok] at h
  obtain ⟨_, t, hattach, h⟩ := h
  cases h
  exact ⟨sb, BitVec.le_def.mp (BitVec.not_lt.mp hmax), hbegin, hattach, rfl⟩

/-- A machine that is built has the seven windows in its reservations. -/
theorem newSmp_spec (h : newSmp program address uartOutput uartInput diskImage ncpu = .ok emu bus) :
    ∃ ramLen stackBegin : U64, ramLen.toNat = pageBytes program.length ∧
      stackBegin = ramLen + address ∧ new.Reserves (reservations ramLen address stackBegin) ∧
      emu.bus.windows = [⟨address, ramLen⟩, ⟨stackBegin, STACK_SIZE⟩,
        ⟨BOOTLOADER_ADDR, 40⟩, ⟨CLINT_BASE, CLINT_SIZE⟩, ⟨UART_BASE, UART_SIZE⟩,
        ⟨PLIC_BASE, PLIC_SIZE⟩, ⟨VIRTIO_DISK_BASE, VirtIOBlk.len⟩] := by
  obtain ⟨sb, -, hbegin, hattach, -⟩ := newSmp_ok h
  obtain ⟨ramSize, hsub, hlt, hreserves, hwindows⟩ := attach_spec hattach
  have hlen : program.length < 2 ^ 63 := Nat.lt_of_le_of_lt (Nat.le_max_right _ _) hlt
  rw [stackBegin, bind_eq_ok] at hbegin
  obtain ⟨sum, t', hsum, hadd⟩ := hbegin
  have hstack := add_eq_ok hadd
  have hram : ramSize.toNat = pageBytes program.length := by
    rw [sub_eq_ok hsub, hstack, add_eq_ok hsum, BitVec.add_sub_cancel]
    exact roundUp_toNat hlen
  have hfits : program.length ≤ ramSize.toNat := by
    rw [hram, pageBytes]
    omega
  rw [ram_len hfits] at hreserves hwindows
  refine ⟨ramSize, sb, hram, ?_, hreserves, hwindows⟩
  rw [sub_eq_ok hsub, BitVec.sub_add_cancel]

/-- No device begins inside RAM or stack. -/
def ClearOfDevices (programLen : Nat) (address : U64) : Prop :=
  ∀ device ∈ fixedWindows, ¬(address.toNat ≤ device.start.toNat ∧
    device.start.toNat < address.toNat + pageBytes programLen + STACK_SIZE.toNat)

omit [Host] in
theorem fixedWindows_apart : fixedWindows.Pairwise Range.Apart := by
  have hle : fixedWindows.Pairwise fun r s =>
      r.start.toNat + r.size.toNat ≤ s.start.toNat ∨
        s.start.toNat + s.size.toNat ≤ r.start.toNat := by
    decide
  refine hle.imp fun h => ?_
  rcases h with h | h
  · exact Range.apart_of_le h
  · exact (Range.apart_of_le h).symm

/-- The windows of a machine that is built are disjoint unless RAM or stack swallows a device. -/
theorem windows_apart_iff
    (h : newSmp program address uartOutput uartInput diskImage ncpu = .ok emu bus) :
    emu.bus.windows.Pairwise Range.Apart ↔ ClearOfDevices program.length address := by
  obtain ⟨ramLen, stackBegin, hram, hstack, hreserves, hwindows⟩ := newSmp_spec h
  obtain ⟨hvalid, hclears, -⟩ := hreserves.clears new_disjoint.toSorted
  have hfixed : [⟨BOOTLOADER_ADDR, 40⟩, ⟨CLINT_BASE, CLINT_SIZE⟩, ⟨UART_BASE, UART_SIZE⟩,
      ⟨PLIC_BASE, PLIC_SIZE⟩, ⟨VIRTIO_DISK_BASE, VirtIOBlk.len⟩].Perm fixedWindows := by decide
  have hperm : emu.bus.windows.Perm (reservations ramLen address stackBegin) := by
    rw [hwindows]
    exact (hfixed.cons _).cons _
  rw [hperm.pairwise_iff Range.Apart.symm]
  rw [reservations, List.pairwise_cons, List.pairwise_cons] at hclears ⊢
  obtain ⟨hramClears, hstackClears, -⟩ := hclears
  have hnonempty : ∀ r ∈ reservations ramLen address stackBegin, r.size ≠ 0 :=
    fun r hr => (hvalid r hr).1
  rw [reservations, List.forall_mem_cons, List.forall_mem_cons] at hnonempty hvalid
  obtain ⟨-, hstackSize, hfixedSize⟩ := hnonempty
  have hbound : address.toNat + ramLen.toNat < 2 ^ 64 := hvalid.1.2
  have hbegin : stackBegin.toNat = address.toNat + pageBytes program.length := by
    rw [hstack, BitVec.toNat_add, hram]
    omega
  have hadjacent : Range.Apart ⟨address, ramLen⟩ ⟨stackBegin, STACK_SIZE⟩ :=
    Range.apart_of_le (by rw [hbegin, hram])
  -- the devices lie apart from each other, so only those with RAM and stack are left
  have hdevice : ∀ device ∈ fixedWindows,
      (Range.Apart ⟨address, ramLen⟩ device ∧ Range.Apart ⟨stackBegin, STACK_SIZE⟩ device ↔
        ¬(address.toNat ≤ device.start.toNat ∧
          device.start.toNat < address.toNat + pageBytes program.length + STACK_SIZE.toNat)) := by
    intro device hd
    rw [(hramClears device (List.mem_cons_of_mem _ hd)).apart_iff (hfixedSize device hd),
      (hstackClears device hd).apart_iff (hfixedSize device hd)]
    simp only [Range.Covers, hram, hbegin]
    omega
  rw [ClearOfDevices]
  constructor
  · rintro ⟨hramApart, hstackApart, -⟩ device hd
    exact (hdevice device hd).mp ⟨hramApart device (List.mem_cons_of_mem _ hd),
      hstackApart device hd⟩
  · intro hclear
    refine ⟨List.forall_mem_cons.mpr ⟨hadjacent, fun device hd => ?_⟩, fun device hd => ?_,
      fixedWindows_apart⟩
    · exact ((hdevice device hd).mpr (hclear device hd)).1
    · exact ((hdevice device hd).mpr (hclear device hd)).2

section Build

variable {ramLen sb : U64} (hlen : program.length < 2 ^ 63)
variable (hramLen : ramLen.toNat = pageBytes program.length)
variable (hbegin : sb.toNat = ramLen.toNat + address.toNat)

include hlen hramLen hbegin

theorem stackBegin_apply {σ : Type} :
    (stackBegin (BitVec.ofNat 64 program.length) address : Call σ U64) = pure sb := by
  have hround : (BitVec.ofNat 64 program.length + 0xfff#64) &&& ~~~0xfff#64 = ramLen :=
    BitVec.eq_of_toNat_eq ((roundUp_toNat hlen).trans hramLen.symm)
  have hsb : ramLen + address = sb := by
    apply BitVec.eq_of_toNat_eq
    rw [BitVec.toNat_add, ← hbegin, Nat.mod_eq_of_lt sb.isLt]
  have hsum : (BitVec.ofNat 64 program.length).toNat + (0xfff#64).toNat < 2 ^ 64 := by
    rw [BitVec.toNat_ofNat]
    simp only [BitVec.reduceToNat]
    omega
  have hadd : (add (BitVec.ofNat 64 program.length) 0xfff : Call σ U64) =
      pure (BitVec.ofNat 64 program.length + 0xfff#64) := add_of_lt hsum
  rw [stackBegin, hadd, pure_bind]
  change (add ((BitVec.ofNat 64 program.length + 0xfff#64) &&& ~~~0xfff#64) address : Call σ U64) =
    _
  rw [hround, add_of_lt (by rw [← hbegin]; exact sb.isLt), hsb]

omit hlen in
/-- What the range manager accepts is attached, if the host has room for it. -/
theorem attach_of_reserves (hram : ramLen.toNat < 2 ^ 63 ∧ ramLen.toNat ≤ Host.memory)
    (hstack : STACK_SIZE.toNat ≤ Host.memory) {bus : Bus}
    (hreserves : bus.rangeManager.Reserves (reservations ramLen address sb)) :
    ∃ bus', attach program address sb uartOutput uartInput diskImage ncpu bus = .ok () bus' := by
  have hfits : program.length ≤ ramLen.toNat := by
    rw [hramLen, pageBytes]
    omega
  have hsub : (sub sb address : Call Bus U64) = pure ramLen := by
    rw [sub_of_le (by omega)]
    congr 1
    apply BitVec.eq_of_toNat_eq
    rw [BitVec.toNat_sub_of_le (by rw [BitVec.le_def]; omega)]
    omega
  have hdisk : VIRTIO_DISK_SIZE_DEFAULT.toNat ≤ STACK_SIZE.toNat := by decide
  obtain ⟨p₁, m₁, hadd₁, p₂, m₂, hadd₂, p₃, m₃, hadd₃, p₄, m₄, hadd₄, p₅, m₅, hadd₅, p₆, m₆, hadd₆,
    p₇, m₇, hadd₇, -⟩ := hreserves
  rw [← ram_len hfits] at hadd₁
  rw [← stack_len] at hadd₂
  have hallocRam : (allocate (max ramLen.toNat program.length) : Call Bus Unit) = pure () := by
    rw [Nat.max_eq_left hfits]
    exact allocate_of_le hram.1 hram.2
  have hallocStack : (allocate STACK_SIZE.toNat : Call Bus Unit) = pure () :=
    allocate_of_le (by decide) hstack
  have hroom : (allocate VIRTIO_DISK_SIZE_DEFAULT.toNat : Call Bus Unit) = pure () :=
    allocate_of_le (by decide) (Nat.le_trans hdisk hstack)
  have hallocDisk : (allocateDisk VIRTIO_DISK_SIZE_DEFAULT diskImage : Call Bus Unit) =
      pure () := by
    cases diskImage with
    | none => exact hroom
    | some image =>
        rw [allocateDisk, hroom]
        exact ite_self _
  rw [attach, hsub, pure_bind, hallocRam, pure_bind, hallocStack, pure_bind, hallocDisk]
  simp only [pure_bind, bind_eq_ok, Bus.setRam_eq_ok, Bus.setStack_eq_ok, Bus.setClint_eq_ok,
    Bus.setUart_eq_ok, Bus.setVirtio_eq_ok, Bus.setPlic_eq_ok, Bus.setBootloader_eq_ok]
  exact ⟨_, (), _, ⟨p₁, m₁, hadd₁, rfl⟩, (), _, ⟨p₂, m₂, hadd₂, rfl⟩, (), _, ⟨p₃, m₃, hadd₃, rfl⟩,
    (), _, ⟨p₄, m₄, hadd₄, rfl⟩, (), _, ⟨p₅, m₅, hadd₅, rfl⟩, (), _, ⟨p₆, m₆, hadd₆, rfl⟩,
    p₇, m₇, hadd₇, rfl⟩

theorem newSmp_of_reserves (hzero : ncpu ≠ 0)
    (hmax : ¬BitVec.ofNat 64 Plic.MAX_CONTEXTS / 2 < ncpu)
    (hram : ramLen.toNat < 2 ^ 63 ∧ ramLen.toNat ≤ Host.memory)
    (hstack : STACK_SIZE.toNat ≤ Host.memory)
    (hreserves : new.Reserves (reservations ramLen address sb)) :
    ∃ emu bus, newSmp program address uartOutput uartInput diskImage ncpu = .ok emu bus := by
  obtain ⟨bus', hattach⟩ : ∃ bus', attach program address sb uartOutput uartInput diskImage ncpu
      (.new .detached) = .ok () bus' :=
    attach_of_reserves hramLen hbegin hram hstack hreserves
  unfold newSmp
  dsimp only
  rw [if_neg hzero, if_neg hmax, stackBegin_apply hlen hramLen hbegin, pure_bind, bind_ok hattach]
  exact ⟨_, _, rfl⟩

end Build

end Windows

end Xv6Emulator

namespace Xv6Emulator

attribute [local instance] Host.dev

/-- A program of one instruction loaded at `address` boots if its windows are accepted. -/
theorem boots_of_reserves (address : U64) (hfits : address.toNat + 0x1000 < 2 ^ 64)
    (h : RangeManager.new.Reserves (reservations 0x1000 address (0x1000 + address))) :
    ∃ emu bus, newSmp [0x13, 0, 0, 0] address none none none 1 = .ok emu bus := by
  have hbegin : (0x1000 + address).toNat = (0x1000 : U64).toNat + address.toNat := by
    rw [BitVec.toNat_add]
    simp only [BitVec.reduceToNat]
    omega
  exact newSmp_of_reserves (by decide) (by decide) hbegin (by decide) (by decide)
    ⟨by decide, by decide⟩ (by decide) h

theorem reserves_kernel :
    RangeManager.new.Reserves (reservations 0x1000 0x80000000 (0x1000 + 0x80000000)) :=
  ⟨_, _, rfl, _, _, rfl, _, _, rfl, _, _, rfl, _, _, rfl, _, _, rfl, _, _, rfl, trivial⟩

theorem boots_kernel : ∃ emu bus, newSmp [0x13, 0, 0, 0] 0x80000000 none none none 1 =
    .ok emu bus :=
  boots_of_reserves 0x80000000 (by decide) reserves_kernel

end Xv6Emulator

end Riscvm.Rv64rs
