import Riscvm.Foundation.Simulates
import Riscvm.Lockstep.Memories
import Riscvm.Python.VirtIO
import Riscvm.Rv64rs.QueueScript

/-!
# The two block devices

A run of a driver, its accesses of guest memory and of the registers, follows the Python device
step by step: wherever that completes, the Rust device completes too, with the same answers, the
same RAM, the same disk and the same registers.
-/

namespace Riscvm.Lockstep

open Bytes Exec TwosComplement Rv64rs

namespace Disks

/-! ## The relation -/

/-- The devices have the same registers and the same disk, which the interpreter can hold, and
their buses the same memory; around them the bus is `around`. -/
structure Mirrors [Python.Interpreter] (around : Surroundings) (device : Python.VirtIOBlk)
    (bus : Bus) : Prop where
  memory : SameMemory device.bus bus
  around : surroundings bus = around
  disk : device.disk = bus.dev.virtio.disk
  fits : device.disk.length ≤ Python.Interpreter.memory
  deviceFeatures : device.deviceFeatures = (bus.dev.virtio.deviceFeatures.toNat : Int)
  driverFeatures : device.driverFeatures = (bus.dev.virtio.driverFeatures.toNat : Int)
  queueSel : device.queueSel = (bus.dev.virtio.queueSel.toNat : Int)
  queueNum : device.queueNum = (bus.dev.virtio.queueNum.toNat : Int)
  queueReady : device.queueReady = (bus.dev.virtio.queueReady.toNat : Int)
  descAddr : device.descAddr = (bus.dev.virtio.descAddr.toNat : Int)
  availAddr : device.availAddr = (bus.dev.virtio.availAddr.toNat : Int)
  usedAddr : device.usedAddr = (bus.dev.virtio.usedAddr.toNat : Int)
  status : device.status = (bus.dev.virtio.status.toNat : Int)
  interruptStatus : device.interruptStatus = (bus.dev.virtio.interruptStatus.toNat : Int)
  lastAvailIdx : ∀ q : U32, device.lastAvailIdx q.toNat =
    (bus.dev.virtio.lastAvailIdx q).map fun last => (last.toNat : Int)

/-- New devices over the same memory. -/
theorem mirrors_new [Python.Interpreter] {board : Python.Bus} {bus : Bus} {size : U64}
    {image : Option (List U8)} (memory : SameMemory board bus)
    (fresh : bus.dev.virtio = .new size image)
    (fits : (VirtIOBlk.new size image).disk.length ≤ Python.Interpreter.memory) :
    Mirrors (surroundings bus) (.new board size.toNat image) bus where
  memory := memory
  around := rfl
  disk := fresh ▸ rfl
  fits := fits
  deviceFeatures := fresh ▸ rfl
  driverFeatures := fresh ▸ rfl
  queueSel := fresh ▸ rfl
  queueNum := fresh ▸ rfl
  queueReady := fresh ▸ rfl
  descAddr := fresh ▸ rfl
  availAddr := fresh ▸ rfl
  usedAddr := fresh ▸ rfl
  status := fresh ▸ rfl
  interruptStatus := fresh ▸ rfl
  lastAvailIdx _ := fresh ▸ rfl

/-- An integer of the one side as a word of the other. -/
def Word (n : Nat) (value : Int) (word : U64) : Prop :=
  value = (word.toNat : Int) ∧ word.toNat < 2 ^ n

/-! ## Accesses of guest memory -/

section Memory

variable [Host] [Python.Interpreter] {around : Surroundings}
  {device device' : Python.VirtIOBlk} {bus : Bus} {address : Int} {size : U8}

omit [Host] in
theorem Mirrors.setMemory (mirrors : Mirrors around device bus) {board : Python.Bus} {w : Window}
    {ram : Rv64rs.Ram} (same : SameMemory board (bus.setMemory w ram)) :
    Mirrors around { device with bus := board } (bus.setMemory w ram) := by
  cases w
  all_goals exact { mirrors with memory := same, around := mirrors.around }

omit [Host] [Python.Interpreter] in
theorem onBus_ok {α : Type} {x : Python.Call Python.Bus α} {a : α}
    (h : Python.VirtIOBlk.onBus x device = .ok a device') :
    ∃ board, x device.bus = .ok a board ∧ device' = { device with bus := board } := by
  unfold Python.VirtIOBlk.onBus at h
  cases hx : x device.bus with
  | ok b board =>
      rw [hx] at h
      cases h
      exact ⟨board, rfl, rfl⟩
  | error e board =>
      rw [hx] at h
      cases h

omit [Host] [Python.Interpreter] in
/-- An access that succeeds lies in the address space. -/
theorem bounds_of_read {value n : Int} (hn : n = (size.toNat : Int))
    (same : SameMemory device.bus bus)
    (h : Python.VirtIOBlk.onBus (Python.Bus.read address n) device = .ok value device') :
    0 ≤ address ∧ address + n < 2 ^ 64 := by
  subst hn
  obtain ⟨board, hread, -⟩ := onBus_ok h
  rw [Python.Bus.read, bind_eq_ok] at hread
  obtain ⟨_, _, hdevice, -⟩ := hread
  exact same.bounds hdevice

omit [Host] [Python.Interpreter] in
theorem bounds_of_write {value n : Int} {u : Unit} (hn : n = (size.toNat : Int))
    (same : SameMemory device.bus bus)
    (h : Python.VirtIOBlk.onBus (Python.Bus.write address n value) device = .ok u device') :
    0 ≤ address ∧ address + n < 2 ^ 64 := by
  subst hn
  obtain ⟨board, hwrite, -⟩ := onBus_ok h
  rw [Python.Bus.write, bind_eq_ok] at hwrite
  obtain ⟨_, _, hdevice, -⟩ := hwrite
  exact same.bounds hdevice

section Then

variable {α β : Type} {V : α → β → Prop} {addr : U64} {n : Int}

/-- Both sides read, and go on with the same number. -/
theorem readThen (mirrors : Mirrors around device bus) (width : Ram.Width size)
    (hn : n = (size.toNat : Int))
    (haddress : address = (addr.toNat : Int)) {f : Int → Python.VirtIOBlk.Call α}
    {g : U64 → Call Bus β}
    (rest : ∀ value word, Word (8 * size.toNat) value word →
      SimulatesAt (Mirrors around) V (f value) (g word) device bus) :
    SimulatesAt (Mirrors around) V
      (Python.VirtIOBlk.onBus (Python.Bus.read address n) >>= f)
      (Bus.dmaRead addr size >>= g) device bus := by
  subst hn haddress
  intro a device'' h
  obtain ⟨value, device', hvalue, hrest⟩ := bind_eq_ok.mp h
  obtain ⟨board, hread, rfl⟩ := onBus_ok hvalue
  obtain ⟨rfl, hword, n, hn, rfl⟩ := mirrors.memory.read width hread
  have hdma := hword true
  rw [ofInt_toNat, BitVec.ofInt_natCast] at hdma
  have hlt : n < 2 ^ 64 := by
    refine Nat.lt_of_lt_of_le hn ?_
    obtain rfl | rfl | rfl | rfl := width
    all_goals decide
  have htoNat : (BitVec.ofNat 64 n).toNat = n := by
    rw [BitVec.toNat_ofNat, Nat.mod_eq_of_lt hlt]
  have hpow : 256 ^ size.toNat = 2 ^ (8 * size.toNat) := by
    rw [Nat.pow_mul]
  rw [Bus.dmaRead, bind_ok hdma]
  refine rest _ _ ⟨?_, ?_⟩ a device'' hrest
  · rw [htoNat]
  · rw [htoNat, ← hpow]
    exact hn

/-- Both sides write the same number. -/
theorem writeThen (mirrors : Mirrors around device bus) (width : Ram.Width size)
    (hn : n = (size.toNat : Int))
    (haddress : address = (addr.toNat : Int)) {value : Int} {word : U64}
    (hvalue : value = (word.toNat : Int)) {f : Unit → Python.VirtIOBlk.Call α}
    {g : Unit → Call Bus β}
    (rest : ∀ device' bus', Mirrors around device' bus' → bus'.dev = bus.dev →
      SimulatesAt (Mirrors around) V (f ()) (g ()) device' bus') :
    SimulatesAt (Mirrors around) V
      (Python.VirtIOBlk.onBus (Python.Bus.write address n value) >>= f)
      (Bus.dmaWrite addr size word >>= g) device bus := by
  subst hn haddress hvalue
  intro a device'' h
  obtain ⟨⟨⟩, device', hwrite, hrest⟩ := bind_eq_ok.mp h
  obtain ⟨board, hstore, rfl⟩ := onBus_ok hwrite
  obtain ⟨w, ram, hword, same⟩ := mirrors.memory.write width hstore
  have hdma := hword fun _ _ _ => panic .alreadyBorrowed
  rw [ofInt_toNat] at hdma
  rw [Bus.dmaWrite, bind_ok hdma]
  exact rest _ _ (mirrors.setMemory same) (dev_setMemory bus w ram) a device'' hrest

/-- A read past a register, whose address the Rust device checks for overflow first. -/
theorem readPast (mirrors : Mirrors around device bus) (width : Ram.Width size)
    (hn : n = (size.toNat : Int)) {offset : U64}
    (haddress : address = addr.toNat + offset.toNat) {f : Int → Python.VirtIOBlk.Call α}
    {g : U64 → U64 → Call Bus β}
    (rest : ∀ value word, addr.toNat + offset.toNat < 2 ^ 64 → Word (8 * size.toNat) value word →
      SimulatesAt (Mirrors around) V (f value) (g (addr + offset) word) device bus) :
    SimulatesAt (Mirrors around) V
      (Python.VirtIOBlk.onBus (Python.Bus.read address n) >>= f)
      (add addr offset >>= fun sum => Bus.dmaRead sum size >>= g sum) device bus := by
  refine .of_ok fun a s' h => ?_
  obtain ⟨value, device', hvalue, -⟩ := bind_eq_ok.mp h
  have hbounds := bounds_of_read hn mirrors.memory hvalue
  have hlt : addr.toNat + offset.toNat < 2 ^ 64 := by omega
  rw [add_of_lt hlt, pure_bind]
  refine readThen mirrors width hn ?_ fun value word hword => rest value word hlt hword
  rw [BitVec.toNat_add, Nat.mod_eq_of_lt hlt, haddress, Int.natCast_add]

theorem writePast (mirrors : Mirrors around device bus) (width : Ram.Width size)
    (hn : n = (size.toNat : Int)) {offset : U64}
    (haddress : address = addr.toNat + offset.toNat) {value : Int} {word : U64}
    (hvalue : value = (word.toNat : Int)) {f : Unit → Python.VirtIOBlk.Call α}
    {g : U64 → Unit → Call Bus β}
    (rest : ∀ device' bus', Mirrors around device' bus' → bus'.dev = bus.dev →
      addr.toNat + offset.toNat < 2 ^ 64 →
        SimulatesAt (Mirrors around) V (f ()) (g (addr + offset) ()) device' bus') :
    SimulatesAt (Mirrors around) V
      (Python.VirtIOBlk.onBus (Python.Bus.write address n value) >>= f)
      (add addr offset >>= fun sum => Bus.dmaWrite sum size word >>= g sum) device bus := by
  refine .of_ok fun a s' h => ?_
  obtain ⟨u, device', hwrite, -⟩ := bind_eq_ok.mp h
  have hbounds := bounds_of_write hn mirrors.memory hwrite
  have hlt : addr.toNat + offset.toNat < 2 ^ 64 := by omega
  rw [add_of_lt hlt, pure_bind]
  refine writeThen mirrors width hn ?_ hvalue fun device' bus' mirrors' hdev =>
    rest device' bus' mirrors' hdev hlt
  rw [BitVec.toNat_add, Nat.mod_eq_of_lt hlt, haddress, Int.natCast_add]

end Then

end Memory

/-! ## Words of fewer bits -/

theorem width1 : Ram.Width 1 := .inl rfl

theorem width2 : Ram.Width 2 := .inr (.inl rfl)

theorem width4 : Ram.Width 4 := .inr (.inr (.inl rfl))

theorem width8 : Ram.Width 8 := .inr (.inr (.inr rfl))

theorem Word.narrow {n : Nat} {value : Int} {word : U64} (h : Word n value word) :
    value = ((word.setWidth n).toNat : Int) := by
  rw [BitVec.toNat_setWidth, Nat.mod_eq_of_lt h.2]
  exact h.1

/-! ## Following a chain -/

section Chains

variable [Host] [Python.Interpreter] {around : Surroundings} {device : Python.VirtIOBlk}
  {bus : Bus}

/-- A descriptor as the Python device keeps it. -/
def desc (d : VirtIOBlk.Desc) : Python.VirtIOBlk.Desc :=
  ⟨d.addr.toNat, d.length.toNat, d.flags.toNat⟩

omit [Host] [Python.Interpreter] in
/-- Both devices test the same bit. -/
theorem flag_iff (flags : U16) :
    Int.land (flags.toNat : Int) Python.VirtIOBlk.VIRTQ_DESC_F_NEXT ≠ 0 ↔
      flags &&& VirtIOBlk.VIRTQ_DESC_F_NEXT ≠ 0 := by
  have hland : Int.land (flags.toNat : Int) Python.VirtIOBlk.VIRTQ_DESC_F_NEXT =
      ((flags &&& VirtIOBlk.VIRTQ_DESC_F_NEXT).toNat : Int) := by
    rw [BitVec.toNat_and]
    rfl
  rw [hland]
  refine not_congr ⟨fun h => BitVec.eq_of_toNat_eq ?_, fun h => ?_⟩
  · exact Int.natCast_eq_zero.mp h
  · rw [h]
    rfl

omit [Host] [Python.Interpreter] in
theorem toNat_injective {n : Nat} :
    Function.Injective fun b : BitVec n => ((b.toNat : Nat) : Int) := fun _ _ h =>
  BitVec.eq_of_toNat_eq (Int.natCast_inj.mp h)

theorem collectDescs_follows (mirrors : Mirrors around device bus) (base : U64) {fuel : Nat}
    {idx : U16}
    {seen : List U16} (nodup : seen.Nodup) (enough : seen.length + fuel = 65537)
    (descs : List VirtIOBlk.Desc) :
    SimulatesAt (Mirrors around) (fun ds ds' => ds = ds'.map desc)
      (Python.VirtIOBlk.collectDescs base.toNat fuel idx.toNat
        (seen.map fun i => (i.toNat : Int)) (descs.map desc))
      (VirtIOBlk.collectDescs base fuel idx seen descs) device bus := by
  induction fuel generalizing idx seen descs with
  | zero =>
      have hle := DmaScript.length_seen_le nodup
      omega
  | succ fuel ih =>
      have hmul : (idx.setWidth 64 : U64).toNat * (16 : U64).toNat < 2 ^ 64 := by
        rw [BitVec.toNat_setWidth_of_le (by decide)]
        have := idx.isLt
        change idx.toNat * 16 < 2 ^ 64
        omega
      have hoff : (base.toNat : Int) + idx.toNat * 16 =
          base.toNat + (idx.setWidth 64 * 16 : U64).toNat := by
        rw [BitVec.toNat_mul, Nat.mod_eq_of_lt hmul, BitVec.toNat_setWidth_of_le (by decide)]
        rfl
      refine .ite (List.mem_map_of_injective toNat_injective) (fun _ => .pure mirrors rfl)
        fun hnew => ?_
      have hnew : idx ∉ seen := fun h => hnew (List.mem_map_of_mem h)
      rw [mul_of_lt hmul, pure_bind]
      refine readPast mirrors width8 rfl hoff fun addr addr' hlt haddr => ?_
      generalize hsum : base + idx.setWidth 64 * 16 = off
      have hoff' : (base.toNat : Int) + idx.toNat * 16 = off.toNat := by
        rw [hoff, ← hsum, BitVec.toNat_add, Nat.mod_eq_of_lt hlt, Int.natCast_add]
      rw [hoff']
      refine readPast mirrors width4 (by rfl) (by rfl) fun length length' _ hlength => ?_
      refine readPast mirrors width2 (by rfl) (by rfl) fun flags flags' _ hflags => ?_
      refine readPast mirrors width2 (by rfl) (by rfl) fun next next' _ hnext => ?_
      obtain rfl := haddr.1
      obtain rfl : length = ((length'.setWidth 32).toNat : Int) := hlength.narrow
      obtain rfl : flags = ((flags'.setWidth 16).toNat : Int) := hflags.narrow
      obtain rfl : next = ((next'.setWidth 16).toNat : Int) := hnext.narrow
      dsimp only
      have hdescs : descs.map desc ++ [⟨(addr'.toNat : Int), ((length'.setWidth 32).toNat : Int),
          ((flags'.setWidth 16).toNat : Int)⟩] =
          (descs ++ [(⟨addr', length'.setWidth 32, flags'.setWidth 16⟩ : VirtIOBlk.Desc)]).map
            desc := by
        rw [List.map_append]
        rfl
      rw [hdescs]
      refine .ite (flag_iff _) (fun _ => ?_) fun _ => .pure mirrors rfl
      have nodup' : (idx :: seen).Nodup := List.nodup_cons.mpr ⟨hnew, nodup⟩
      refine ih nodup' ?_ _
      rw [List.length_cons]
      omega

/-! ## Moving data -/

omit [Host] [Python.Interpreter] in
/-- The address of the `i`-th byte of a buffer. -/
theorem byte_address {base : U64} {i : Nat} (hi : i < 2 ^ 64) :
    (base.toNat : Int) + (i : Int) = base.toNat + (BitVec.ofNat 64 i).toNat := by
  rw [BitVec.toNat_ofNat, Nat.mod_eq_of_lt hi]

theorem readBytes_follows (mirrors : Mirrors around device bus) (base : U64) {i n : Nat}
    (hn : i + n ≤ 2 ^ 64) :
    SimulatesAt (Mirrors around) (fun xs ys => xs = ys ∧ ys.length = n)
      (Python.VirtIOBlk.readBytes base.toNat i n) (VirtIOBlk.readBytes base i n) device bus := by
  induction n generalizing i with
  | zero => exact .pure mirrors ⟨rfl, rfl⟩
  | succ n ih =>
      refine readPast mirrors width1 (by rfl) (byte_address (by omega)) fun b b' _ hb => ?_
      refine .bind (ih (by omega)) fun xs ys s t related hxs => .pure related ?_
      obtain ⟨rfl, hlength⟩ := hxs
      refine ⟨?_, congrArg (· + 1) hlength⟩
      rw [hb.1, BitVec.ofInt_natCast, BitVec.ofNat_toNat]

theorem writeBytes_follows (mirrors : Mirrors around device bus) (base : U64) {i : Nat}
    {bytes : List U8}
    (hn : i + bytes.length ≤ 2 ^ 64) :
    SimulatesAt (Mirrors around) (fun _ _ => True)
      (Python.VirtIOBlk.writeBytes base.toNat i bytes) (VirtIOBlk.writeBytes base i bytes)
      device bus := by
  induction bytes generalizing i device bus with
  | nil => exact .pure mirrors trivial
  | cons b bytes ih =>
      rw [List.length_cons] at hn
      have hvalue : ((b.toNat : Nat) : Int) = ((b.setWidth 64 : U64).toNat : Int) := by
        rw [BitVec.toNat_setWidth_of_le (by decide)]
      refine writePast mirrors width1 (by rfl) (byte_address (by omega)) hvalue ?_
      intro device' bus' mirrors' _ _
      exact ih mirrors' (by omega)

/-- The limits of the two hosts: what the interpreter can hold the other host can hold too. -/
structure Fits : Prop where
  addressable : Python.Interpreter.memory < 2 ^ 63
  memory : Python.Interpreter.memory ≤ Host.memory

omit [Host] in
/-- A disk that has grown so far fits. -/
theorem le_of_growDisk {stop : Int} {u : Unit} {device' : Python.VirtIOBlk}
    (fits : device.disk.length ≤ Python.Interpreter.memory)
    (h : Python.VirtIOBlk.growDisk stop device = .ok u device') :
    stop ≤ Python.Interpreter.memory := by
  by_contra hlt
  rw [Python.VirtIOBlk.growDisk, get_bind_apply, if_pos (by omega), if_pos (by omega)] at h
  cases h

theorem growThen {α β : Type} {V : α → β → Prop} (limits : Fits)
    (mirrors : Mirrors around device bus)
    (stop : U64) {f : Unit → Python.VirtIOBlk.Call α} {g : Unit → Call Bus β}
    (rest : ∀ device' bus', Mirrors around device' bus' →
      stop.toNat ≤ bus'.dev.virtio.disk.length →
      SimulatesAt (Mirrors around) V (f ()) (g ()) device' bus') :
    SimulatesAt (Mirrors around) V (Python.VirtIOBlk.growDisk stop.toNat >>= f)
      (VirtIOBlk.growDisk stop >>= g) device bus := by
  intro a device'' h
  obtain ⟨⟨⟩, device', hgrow, hrest⟩ := bind_eq_ok.mp h
  have hle := Int.ofNat_le.mp (le_of_growDisk mirrors.fits hgrow)
  have hdisk := mirrors.disk
  have haddressable := limits.addressable
  have hmemory := limits.memory
  rw [bind_ok (VirtIOBlk.growDisk_apply (by omega) (by omega))]
  refine rest _ _ ?_ (VirtIOBlk.length_grown _ _) a device'' hrest
  have hgrown : device' = { device with disk := VirtIOBlk.grown device.disk stop.toNat } := by
    rw [Python.VirtIOBlk.growDisk, get_bind_apply] at hgrow
    rcases Nat.lt_or_ge device.disk.length stop.toNat with hlt | hge
    · rw [if_pos (by omega), if_neg (by omega)] at hgrow
      cases hgrow
      rfl
    · rw [if_neg (by omega)] at hgrow
      cases hgrow
      rw [VirtIOBlk.grown, Nat.sub_eq_zero_of_le hge, List.replicate_zero, List.append_nil]
  have hlength : (VirtIOBlk.grown device.disk stop.toNat).length ≤ Python.Interpreter.memory := by
    have hfits := mirrors.fits
    rw [VirtIOBlk.grown, List.length_append, List.length_replicate]
    omega
  subst hgrown
  exact { mirrors with
    memory := mirrors.memory.withVirtio _
    disk := congrArg (VirtIOBlk.grown · stop.toNat) hdisk
    fits := hlength }

end Chains

/-! ## Processing a chain -/

section Processing

variable [Host] [Python.Interpreter] {around : Surroundings} {device : Python.VirtIOBlk}
  {bus : Bus}

omit [Host] in
theorem updates {f : Python.VirtIOBlk → Python.VirtIOBlk} {g : VirtIOBlk → VirtIOBlk}
    (h : Mirrors around (f device) (bus.withVirtio (g bus.dev.virtio))) :
    SimulatesAt (Mirrors around) (fun _ _ => True) (modify f : Python.VirtIOBlk.Call PUnit)
      (Bus.onVirtio (modify g)) device bus :=
  .modify rfl h

omit [Host] in
/-- The place of a request on the disk, where the Python device can reach it. -/
theorem extent {sector : U64} {length : U32} (limits : Python.Interpreter.memory < 2 ^ 63)
    (hle : (sector.toNat : Int) * Python.VirtIOBlk.SECTOR_SIZE + length.toNat ≤
      Python.Interpreter.memory) :
    (sector * VirtIOBlk.SECTOR_SIZE).toNat = sector.toNat * 512 ∧
      (length.setWidth 64 : U64).toNat = length.toNat ∧
      (sector * VirtIOBlk.SECTOR_SIZE + length.setWidth 64).toNat =
        sector.toNat * 512 + length.toNat ∧
      sector.toNat * 512 + length.toNat ≤ Python.Interpreter.memory := by
  have hle' : sector.toNat * 512 + length.toNat ≤ Python.Interpreter.memory :=
    Int.ofNat_le.mp hle
  have hlength : (length.setWidth 64 : U64).toNat = length.toNat :=
    BitVec.toNat_setWidth_of_le (by decide)
  have hoffset : (sector * VirtIOBlk.SECTOR_SIZE).toNat = sector.toNat * 512 := by
    rw [BitVec.toNat_mul]
    exact Nat.mod_eq_of_lt (by change sector.toNat * 512 < 2 ^ 64; omega)
  refine ⟨hoffset, hlength, ?_, hle'⟩
  rw [BitVec.toNat_add, hoffset, hlength, Nat.mod_eq_of_lt (by omega)]

/-- Both report the same status. -/
theorem report_follows (mirrors : Mirrors around device bus) (status : U64) :
    SimulatesAt (Mirrors around) (fun n w => n = ((w.toNat : Nat) : Int))
      (do Python.VirtIOBlk.writeBytes status.toNat 0 [0]; return 0)
      (do Bus.dmaWrite status 1 0; return (0 : U32)) device bus := by
  rw [Python.VirtIOBlk.writeBytes, bind_assoc]
  refine writeThen mirrors width1 (by rfl) (by rfl) (by rfl) fun device' bus' mirrors' _ => ?_
  exact .pure mirrors' rfl

/-- A read request. -/
theorem readRequest_follows (limits : Fits) (mirrors : Mirrors around device bus) (sector : U64)
    (data status : VirtIOBlk.Desc) :
    SimulatesAt (Mirrors around) (fun n w => n = ((w.toNat : Nat) : Int))
      (do
        let offset := (sector.toNat : Int) * Python.VirtIOBlk.SECTOR_SIZE
        let stop := offset + (desc data).length
        Python.VirtIOBlk.growDisk stop
        let disk := (← get).disk
        Python.VirtIOBlk.writeBytes (desc data).addr 0
          ((disk.drop offset.toNat).take (stop.toNat - offset.toNat))
        Python.VirtIOBlk.writeBytes (desc status).addr 0 [0]
        return 0)
      (do
        let offset := sector * VirtIOBlk.SECTOR_SIZE
        let stop ← add offset (data.length.setWidth 64)
        VirtIOBlk.growDisk stop
        let chunk ← slice (← get).dev.virtio.disk offset.toNat stop.toNat
        allocate chunk.length
        VirtIOBlk.writeBytes data.addr 0 chunk
        Bus.dmaWrite status.addr 1 0
        return (0 : U32)) device bus := by
  have haddressable := limits.addressable
  have hmemory := limits.memory
  refine .of_ok fun _ _ h => ?_
  obtain ⟨_, _, hgrow, -⟩ := bind_eq_ok.mp h
  have hreach := le_of_growDisk mirrors.fits hgrow
  obtain ⟨hoffset, hlength, hstop, hle⟩ := extent haddressable hreach
  have hpython : (sector.toNat : Int) * Python.VirtIOBlk.SECTOR_SIZE + (desc data).length =
      ((sector * VirtIOBlk.SECTOR_SIZE + data.length.setWidth 64).toNat : Int) := by
    rw [hstop]
    rfl
  have hpython' : ((sector.toNat : Int) * Python.VirtIOBlk.SECTOR_SIZE).toNat =
      (sector * VirtIOBlk.SECTOR_SIZE).toNat := by
    rw [hoffset]
    rfl
  dsimp only
  rw [hpython, hpython', Int.toNat_natCast, add_of_lt (by omega), pure_bind]
  refine growThen limits mirrors _ fun device bus mirrors hlong => ?_
  refine .get ?_
  have hsize : ((bus.dev.virtio.disk.drop (sector * VirtIOBlk.SECTOR_SIZE).toNat).take
      ((sector * VirtIOBlk.SECTOR_SIZE + data.length.setWidth 64).toNat -
        (sector * VirtIOBlk.SECTOR_SIZE).toNat)).length ≤ Python.Interpreter.memory := by
    rw [List.length_take]
    omega
  rw [slice_of_le (by omega) hlong, pure_bind, allocate_of_le (by omega) (by omega), pure_bind,
    mirrors.disk]
  exact .bind (writeBytes_follows mirrors data.addr (by omega)) fun _ _ _ _ mirrors _ =>
    report_follows mirrors status.addr

/-- A write request. The Rust device makes room for the data before it reads them. -/
theorem writeRequest_follows (limits : Fits) (mirrors : Mirrors around device bus) (sector : U64)
    (data status : VirtIOBlk.Desc) :
    SimulatesAt (Mirrors around) (fun n w => n = ((w.toNat : Nat) : Int))
      (do
        let offset := (sector.toNat : Int) * Python.VirtIOBlk.SECTOR_SIZE
        let chunk ← Python.VirtIOBlk.readBytes (desc data).addr 0 (desc data).length.toNat
        let stop := offset + (desc data).length
        Python.VirtIOBlk.growDisk stop
        modify fun device =>
          { device with
            disk := device.disk.take offset.toNat ++ chunk ++ device.disk.drop stop.toNat }
        Python.VirtIOBlk.writeBytes (desc status).addr 0 [0]
        return 0)
      (do
        let offset := sector * VirtIOBlk.SECTOR_SIZE
        let dataLen : U64 := data.length.setWidth 64
        allocate dataLen.toNat
        let chunk ← VirtIOBlk.readBytes data.addr 0 dataLen.toNat
        let stop ← add offset dataLen
        VirtIOBlk.growDisk stop
        let disk ← copyFromSlice (← get).dev.virtio.disk offset.toNat stop.toNat chunk
        Bus.onVirtio (modify fun device => { device with disk })
        Bus.dmaWrite status.addr 1 0
        return (0 : U32)) device bus := by
  have haddressable := limits.addressable
  have hmemory := limits.memory
  have hbound := data.length.isLt
  have hdata : (desc data).length.toNat = data.length.toNat := rfl
  have hread := readBytes_follows mirrors data.addr (i := 0) (n := data.length.toNat) (by omega)
  refine .of_ok fun _ _ h => ?_
  obtain ⟨chunk, device', hchunk, hrest⟩ := bind_eq_ok.mp h
  obtain ⟨_, _, hgrow, -⟩ := bind_eq_ok.mp hrest
  obtain ⟨_, _, -, mirrors', -⟩ := hread chunk device' hchunk
  have hreach := le_of_growDisk mirrors'.fits hgrow
  obtain ⟨hoffset, hlength, hstop, hle⟩ := extent haddressable hreach
  have hpython : (sector.toNat : Int) * Python.VirtIOBlk.SECTOR_SIZE + (desc data).length =
      ((sector * VirtIOBlk.SECTOR_SIZE + data.length.setWidth 64).toNat : Int) := by
    rw [hstop]
    rfl
  have hpython' : ((sector.toNat : Int) * Python.VirtIOBlk.SECTOR_SIZE).toNat =
      (sector * VirtIOBlk.SECTOR_SIZE).toNat := by
    rw [hoffset]
    rfl
  dsimp only
  rw [hpython, hpython', Int.toNat_natCast, hdata, hlength,
    allocate_of_le (by omega) (by omega), pure_bind]
  refine .bind hread fun xs ys device bus mirrors hxs => ?_
  obtain ⟨rfl, hys⟩ := hxs
  rw [add_of_lt (by omega), pure_bind]
  refine growThen limits mirrors _ fun device bus mirrors hlong => ?_
  refine .bind_right (c := get) rfl ?_
  rw [copyFromSlice_of_le hlong (by omega), pure_bind]
  refine .bind (updates ?_) fun _ _ device bus mirrors _ => report_follows mirrors status.addr
  have hfits := mirrors.fits
  have hdisk := mirrors.disk
  refine { mirrors with
    memory := mirrors.memory.withVirtio _
    disk := congrArg
      (fun disk => disk.take (sector * VirtIOBlk.SECTOR_SIZE).toNat ++ xs ++
        disk.drop (sector * VirtIOBlk.SECTOR_SIZE + data.length.setWidth 64).toNat) hdisk
    fits := ?_ }
  rw [← hdisk] at hlong
  simp only [List.length_append, List.length_take, List.length_drop]
  omega

omit [Host] [Python.Interpreter] in
theorem index_of_get {α : Type} {xs : List α} {k : Nat} {x : α} (h : xs[k]? = some x) :
    (index xs k : Call Bus α) = pure x := by
  rw [index, h]

theorem processDescriptorChain_follows (limits : Fits) (release : Host.overflowChecks = false)
    (mirrors : Mirrors around device bus) (base : U64) (head : U16) :
    SimulatesAt (Mirrors around) (fun n w => n = ((w.toNat : Nat) : Int))
      (Python.VirtIOBlk.processDescriptorChain base.toNat head.toNat)
      (VirtIOBlk.processDescriptorChain base head) device bus := by
  refine .bind (collectDescs_follows mirrors base List.nodup_nil rfl []) ?_
  rintro _ descs device bus mirrors rfl
  rcases descs with - | ⟨header, - | ⟨data, - | ⟨d, rest⟩⟩⟩
  · exact .pure mirrors rfl
  · exact .pure mirrors rfl
  · exact .pure mirrors rfl
  · obtain ⟨status, hstatus⟩ : ∃ status, (d :: rest).getLast? = some status :=
      ⟨_, List.getLast?_eq_some_getLast (List.cons_ne_nil d rest)⟩
    have hlast : (header :: data :: d :: rest)[(header :: data :: d :: rest).length - 1]? =
        some status := by
      rw [← List.getLast?_eq_getElem?, List.getLast?_cons_cons, List.getLast?_cons_cons, hstatus]
    have hpython : ((d :: rest).map desc).getLast? = some (desc status) := by
      rw [List.getLast?_map, hstatus]
      rfl
    have hlong : ¬(header :: data :: d :: rest).length < 3 := by
      simp only [List.length_cons]
      omega
    rw [if_neg hlong, index_of_get (k := 0) rfl, pure_bind, index_of_get (k := 1) rfl, pure_bind,
      index_of_get hlast, pure_bind, List.map_cons, List.map_cons]
    dsimp only
    rw [hpython]
    refine readThen mirrors width4 (by rfl) (by rfl) fun kind kind' hkind => ?_
    refine readPast mirrors width8 (by rfl) (by rfl) fun sector sector' _ hsector => ?_
    obtain rfl : kind = ((kind'.setWidth 32).toNat : Int) := hkind.narrow
    obtain rfl := hsector.1
    have hmul : (mul sector' VirtIOBlk.SECTOR_SIZE : Call Bus U64) =
        pure (sector' * VirtIOBlk.SECTOR_SIZE) := by
      rw [mul, release]
      rfl
    rw [hmul, pure_bind]
    refine .ite (toNat_iff (k := 0) (by decide)) (fun _ => ?_) fun _ => ?_
    · exact readRequest_follows limits mirrors sector' data status
    · refine .ite (toNat_iff (k := 1) (by decide)) (fun _ => ?_) fun _ => ?_
      · exact writeRequest_follows limits mirrors sector' data status
      · exact report_follows mirrors status.addr

/-! ## Serving a queue -/

omit [Host] [Python.Interpreter] in
/-- A place in a ring. -/
theorem slot_eq {i : U16} {num : U32} :
    (i.toNat : Int) % (num.toNat : Int) =
    ((i.setWidth 64 % num.setWidth 64 : U64).toNat : Int) := by
  rw [BitVec.toNat_umod, BitVec.toNat_setWidth_of_le (by decide),
    BitVec.toNat_setWidth_of_le (by decide), Int.natCast_emod]

omit [Host] [Python.Interpreter] in
theorem slot_small {i : U16} {num : U32} {k : Nat} (hk : k ≤ 8) :
    (i.setWidth 64 % num.setWidth 64 : U64).toNat * k < 2 ^ 64 := by
  rw [BitVec.toNat_umod, BitVec.toNat_setWidth_of_le (by decide)]
  have hle := Nat.mod_le i.toNat ((num.setWidth 64 : U64).toNat)
  have hlt := i.isLt
  have hmul : i.toNat % (num.setWidth 64 : U64).toNat * k ≤ 65536 * 8 :=
    Nat.mul_le_mul (by omega) hk
  omega

omit [Host] [Python.Interpreter] in
/-- Where an access of a ring succeeds, its address is one of a word. -/
theorem ring_eq {base : U64} {i : U16} {num : U32} {k : U64} {n : Nat}
    (hk : k.toNat ≤ 8) (hbound : (base.toNat : Int) + 4 +
      (i.toNat : Int) % (num.toNat : Int) * (k.toNat : Int) + (n : Int) < 2 ^ 64) :
    base.toNat + (4 : U64).toNat < 2 ^ 64 ∧
      (base + 4).toNat + (i.setWidth 64 % num.setWidth 64 * k : U64).toNat < 2 ^ 64 ∧
      (base.toNat : Int) + 4 + (i.toNat : Int) % (num.toNat : Int) * (k.toNat : Int) =
        (base + 4).toNat + (i.setWidth 64 % num.setWidth 64 * k : U64).toNat := by
  have hfour : (4 : U64).toNat = 4 := rfl
  have hsmall : (i.setWidth 64 % num.setWidth 64 : U64).toNat * k.toNat < 2 ^ 64 := slot_small hk
  have hslot : (i.setWidth 64 % num.setWidth 64 * k : U64).toNat =
      (i.setWidth 64 % num.setWidth 64 : U64).toNat * k.toNat := by
    rw [BitVec.toNat_mul, Nat.mod_eq_of_lt hsmall]
  rw [slot_eq, ← Int.natCast_mul, ← hslot] at hbound ⊢
  have hlt : base.toNat + (4 : U64).toNat < 2 ^ 64 := by omega
  have hbase : (base + 4).toNat = base.toNat + 4 := by
    rw [BitVec.toNat_add, Nat.mod_eq_of_lt hlt, hfour]
  refine ⟨hlt, ?_, ?_⟩
  · omega
  · rw [hbase]
    rfl

theorem storePast {address n value : Int} {size : U8} {addr offset word : U64}
    (mirrors : Mirrors around device bus) (width : Ram.Width size) (hn : n = (size.toNat : Int))
    (haddress : address = addr.toNat + offset.toNat) (hvalue : value = (word.toNat : Int)) :
    SimulatesAt (Mirrors around) (fun _ _ => True)
      (Python.VirtIOBlk.onBus (Python.Bus.write address n value))
      (add addr offset >>= fun sum => Bus.dmaWrite sum size word) device bus := by
  have h := writePast (f := pure) (g := fun _ => pure) mirrors width hn haddress hvalue
    fun device' bus' mirrors' _ _ =>
      SimulatesAt.pure (V := fun _ _ => True) mirrors' trivial
  simpa only [bind_pure] using h

omit [Host] [Python.Interpreter] in
theorem u_succ (i : U16) : Python.u 16 ((i.toNat : Int) + 1) = ((i + 1).toNat : Int) := by
  have hone : (1 : U16).toNat = 1 := rfl
  rw [Python.u, BitVec.toNat_add, hone]
  omega

/-- A round takes the same head and enters it at the same place. -/
theorem serveChain_follows (limits : Fits) (release : Host.overflowChecks = false)
    (mirrors : Mirrors around device bus) (virtio : VirtIOBlk) (last usedIdx : U16) :
    SimulatesAt (Mirrors around) (fun _ _ => True)
      (Python.VirtIOBlk.serveChain virtio.descAddr.toNat virtio.availAddr.toNat
        virtio.usedAddr.toNat virtio.queueNum.toNat last.toNat usedIdx.toNat)
      (VirtIOBlk.serveChain virtio last usedIdx) device bus := by
  refine .of_ok fun _ _ h => ?_
  obtain ⟨_, _, hread, -⟩ := bind_eq_ok.mp h
  have hbound := (bounds_of_read (by rfl : (2 : Int) = ((2 : U8).toNat : Int))
    mirrors.memory hread).2
  obtain ⟨hfour, hsum, haddress⟩ := ring_eq (k := 2) (n := 2) (by decide) hbound
  rw [VirtIOBlk.serveChain]
  dsimp only
  rw [add_of_lt hfour, pure_bind, mul_of_lt (slot_small (by decide)), pure_bind]
  refine readPast mirrors width2 (by rfl) haddress fun head head' _ hhead => ?_
  obtain rfl : head = ((head'.setWidth 16).toNat : Int) := hhead.narrow
  refine .bind (processDescriptorChain_follows limits release mirrors _ _) ?_
  rintro _ length device bus mirrors rfl
  refine .of_ok fun _ _ h => ?_
  obtain ⟨_, _, hwrite, -⟩ := bind_eq_ok.mp h
  have hbound := (bounds_of_write (by rfl : (4 : Int) = ((4 : U8).toNat : Int))
    mirrors.memory hwrite).2
  obtain ⟨hfour, hsum, haddress⟩ := ring_eq (k := 8) (n := 4) (by decide) hbound
  rw [add_of_lt hfour, pure_bind, mul_of_lt (slot_small (by decide)), pure_bind]
  refine writePast mirrors width4 (by rfl) haddress ?_ fun device bus mirrors _ hlt => ?_
  · rw [BitVec.toNat_setWidth_of_le (w := 16) (by decide)]
  have haddress' : (virtio.usedAddr.toNat : Int) + 4 +
      (usedIdx.toNat : Int) % (virtio.queueNum.toNat : Int) * 8 =
      ((virtio.usedAddr + 4 +
        usedIdx.setWidth 64 % virtio.queueNum.setWidth 64 * 8 : U64).toNat : Int) := by
    rw [BitVec.toNat_add, Nat.mod_eq_of_lt hsum, Int.natCast_add]
    exact haddress
  rw [haddress']
  refine writePast mirrors width4 (by rfl) (by rfl) ?_ fun device bus mirrors _ _ => ?_
  · rw [BitVec.toNat_setWidth_of_le (by decide)]
  refine storePast mirrors width2 (by rfl) (by rfl) ?_
  rw [u_succ, BitVec.toNat_setWidth_of_le (by decide)]

omit [Host] [Python.Interpreter] in
theorem u_iff {i j : U16} : Python.u 16 (i.toNat : Int) = (j.toNat : Int) ↔ i = j := by
  have hlt := i.isLt
  have hu : Python.u 16 (i.toNat : Int) = (i.toNat : Int) := by
    rw [Python.u]
    omega
  rw [hu, Int.natCast_inj]
  exact ⟨BitVec.eq_of_toNat_eq, congrArg _⟩

theorem serveChains_follows (limits : Fits) (release : Host.overflowChecks = false)
    (mirrors : Mirrors around device bus) (virtio : VirtIOBlk) {availIdx last : U16} (usedIdx : U16)
    {fuel : Nat} (enough : (availIdx - last).toNat ≤ fuel) :
    SimulatesAt (Mirrors around) (fun i j => i = ((j.toNat : Nat) : Int))
      (Python.VirtIOBlk.serveChains virtio.descAddr.toNat virtio.availAddr.toNat
        virtio.usedAddr.toNat virtio.queueNum.toNat availIdx.toNat fuel last.toNat usedIdx.toNat)
      (VirtIOBlk.serveChains virtio availIdx fuel last usedIdx) device bus := by
  induction fuel generalizing last usedIdx device bus with
  | zero =>
      have hlast : last = availIdx := by bv_omega
      rw [VirtIOBlk.serveChains, if_pos hlast]
      exact .pure mirrors rfl
  | succ fuel ih =>
      refine .ite u_iff (fun _ => .pure mirrors rfl) fun hne => ?_
      have hlast : last ≠ availIdx := fun h => hne (u_iff.mpr h)
      refine .bind (serveChain_follows limits release mirrors virtio last usedIdx) ?_
      intro _ _ device bus mirrors _
      rw [u_succ, u_succ]
      exact ih mirrors (usedIdx + 1) (by bv_omega)

/-- Serving a queue, which begins where the last time ended. -/
theorem processQueue_follows (limits : Fits) (release : Host.overflowChecks = false)
    (mirrors : Mirrors around device bus) (queueIdx : U32) :
    SimulatesAt (Mirrors around) (fun _ _ => True) (Python.VirtIOBlk.processQueue queueIdx.toNat)
      (VirtIOBlk.processQueue queueIdx) device bus := by
  have idle : device.queueReady = 0 ∨ device.queueNum = 0 ↔
      bus.dev.virtio.queueReady = 0 ∨ bus.dev.virtio.queueNum = 0 := by
    rw [mirrors.queueReady, mirrors.queueNum]
    exact or_congr (toNat_iff (k := 0) (by decide)) (toNat_iff (k := 0) (by decide))
  refine .get (.ite idle (fun _ => .pure mirrors trivial) fun _ => ?_)
  rw [mirrors.availAddr, mirrors.usedAddr, mirrors.queueNum, mirrors.descAddr,
    mirrors.lastAvailIdx]
  refine readPast mirrors width2 (by rfl) (by rfl) fun availIdx availIdx' _ havail => ?_
  refine readPast mirrors width2 (by rfl) (by rfl) fun usedIdx usedIdx' _ hused => ?_
  obtain rfl : availIdx = ((availIdx'.setWidth 16).toNat : Int) := havail.narrow
  obtain rfl : usedIdx = ((usedIdx'.setWidth 16).toNat : Int) := hused.narrow
  have hlast : ((bus.dev.virtio.lastAvailIdx queueIdx).map fun last => (last.toNat : Int)).getD
      ((usedIdx'.setWidth 16).toNat : Int) =
      (((bus.dev.virtio.lastAvailIdx queueIdx).getD (usedIdx'.setWidth 16)).toNat : Int) := by
    cases bus.dev.virtio.lastAvailIdx queueIdx with
    | none => rfl
    | some last => rfl
  dsimp only
  rw [hlast]
  refine .bind (serveChains_follows limits release mirrors _ _ ?_) ?_
  · exact Nat.le_of_lt (BitVec.isLt _)
  rintro _ last device bus mirrors rfl
  refine updates { mirrors with
    memory := mirrors.memory.withVirtio _
    interruptStatus := ?_
    lastAvailIdx := fun q => ?_ }
  · rw [mirrors.interruptStatus]
    change _ = ((bus.dev.virtio.interruptStatus ||| 1).toNat : Int)
    rw [BitVec.toNat_or]
    rfl
  · change Python.Plic.dictSet device.lastAvailIdx queueIdx.toNat last.toNat q.toNat =
      Option.map _ (if q = queueIdx then some last else bus.dev.virtio.lastAvailIdx q)
    rcases eq_or_ne q queueIdx with rfl | hne
    · rw [if_pos rfl, Python.Plic.dictSet, if_pos rfl]
      rfl
    · rw [if_neg hne, Python.Plic.dictSet, if_neg fun h => hne (toNat_injective h)]
      exact mirrors.lastAvailIdx q

end Processing

end Disks

end Riscvm.Lockstep
