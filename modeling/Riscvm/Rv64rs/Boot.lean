import Riscvm.Rv64rs.Lookup
import Riscvm.Rv64rs.Rounds
import Riscvm.Rv64rs.Undisturbed

/-!
# The boot of all harts

Every hart starts at the bootloader, six instructions that load its number and the address of the
device tree and jump to the kernel at `0x80000000`. However the harts take turns, a hart that has
taken six of them has arrived there, and nobody has stored anything on the way.
-/

namespace Riscvm.Rv64rs

open Bytes Exec Machine

namespace Boot

/-- The instructions of the bootloader. -/
def code : Nat → U32
  | 0 => 0x00000297 -- auipc t0, 0
  | 1 => 0x02828613 -- addi a2, t0, 40
  | 2 => 0xf1402573 -- csrr a0, mhartid
  | 3 => 0x0202b583 -- ld a1, 32(t0)
  | 4 => 0x0182b283 -- ld t0, 24(t0)
  | _ => 0x00028067 -- jr t0

/-- The registers after the first `k` instructions. -/
def registers (id : U64) : Nat → Registers
  | 0 => .new
  | 1 => Registers.new.write 5 0x1000
  | 2 => (Registers.new.write 5 0x1000).write 12 0x1028
  | 3 => ((Registers.new.write 5 0x1000).write 12 0x1028).write 10 id
  | 4 => (((Registers.new.write 5 0x1000).write 12 0x1028).write 10 id).write 11 0x87000000
  | _ => ((((Registers.new.write 5 0x1000).write 12 0x1028).write 10 id).write 11
      0x87000000).write 5 0x80000000

def pc (k : Nat) : U64 :=
  if k < 6 then BOOTLOADER_ADDR + BitVec.ofNat 64 (4 * k) else 0x80000000

/-- A hart that has executed the first `k` instructions since its reset. -/
structure Stage (id : U64) (k : Nat) (cpu : Cpu) : Prop where
  regs : cpu.regs = registers id k
  pc : cpu.pc = Boot.pc k
  mode : cpu.mode = PRIV_M
  hartid : cpu.hartid = id
  csrs : ∀ addr : U32, addr.setWidth 12 ≠ Csr.MIP.setWidth 12 →
    cpu.csrs.get addr = (Cpu.new id).csrs.get addr

/-- The bootloader is in its window and nothing lies over it. -/
structure Image (bus : Bus) : Prop where
  wf : bus.Wf
  range : bus.bootloaderRange = ⟨BOOTLOADER_ADDR, 40⟩
  data : bus.bootloader.data = BOOTLOADER
  ram : bus.ramRange.Apart bus.bootloaderRange
  stack : bus.stackRange.Apart bus.bootloaderRange

/-- The device tree is at `0x87000000`, the kernel at `0x80000000`. -/
structure AtKernel (id : U64) (cpu : Cpu) : Prop where
  pc : cpu.pc = 0x80000000
  a0 : cpu.regs.read 10 = id
  a1 : cpu.regs.read 11 = 0x87000000
  others : ∀ i : BitVec 5, i ≠ 5 → i ≠ 10 → i ≠ 11 → i ≠ 12 → cpu.regs.read i = 0
  mode : cpu.mode = PRIV_M
  csrs : ∀ addr : U32, addr.setWidth 12 ≠ Csr.MIP.setWidth 12 →
    cpu.csrs.get addr = (Cpu.new id).csrs.get addr

theorem Stage.atKernel {id : U64} {cpu : Cpu} (stage : Stage id 6 cpu) : AtKernel id cpu := by
  refine ⟨stage.pc, ?_, ?_, fun i h5 h10 h11 h12 => ?_, stage.mode, stage.csrs⟩
  · rw [stage.regs]
    rfl
  · rw [stage.regs]
    rfl
  · rw [stage.regs]
    simp only [registers, Registers.read_write, h5, h10, h11, h12, false_and, if_false]
    rfl

theorem reset_mstatus (id : U64) :
    (Cpu.new id).csrs.get Csr.MSTATUS &&& Trap.MSTATUS_MIE = 0 := by
  have hget : (Cpu.new id).csrs.get Csr.MSTATUS = 0x000a00000000 := by
    simp [Cpu.new, Csrs.get_insert, Csr.MSTATUS, Csr.MIE, Csr.MHARTID]
  rw [hget]
  decide

theorem reset_satp (id : U64) : (Cpu.new id).csrs.get Csr.SATP >>> 60 = Mmu.MODE_BARE := by
  have hget : (Cpu.new id).csrs.get Csr.SATP = 0 := by
    simp only [Cpu.new, Csrs.get_insert, Csr.SATP, Csr.MSTATUS, Csr.MIE, Csr.MHARTID]
    rfl
  rw [hget]
  decide

theorem reset_mhartid (id : U64) : (Cpu.new id).csrs.get Csr.MHARTID = id :=
  Csrs.get_insert_same _ _ _

section Image

variable [Host] {bus : Bus}

/-- The bytes of the bootloader are read from its window. -/
theorem Image.holds (image : Image bus) {k : Nat} {size : U8} (width : Ram.Width size)
    (inside : k + size.toNat ≤ 40) {v : U64}
    (bytes : BitVec.ofNat 64 (leNat (extract BOOTLOADER k size.toNat)) = v) :
    bus.Holds (BOOTLOADER_ADDR + BitVec.ofNat 64 k) size v := by
  have hsize : (size.setWidth 64 : U64).toNat = size.toNat :=
    BitVec.toNat_setWidth_of_le (by decide)
  have hpos : 0 < size.toNat := by
    obtain rfl | rfl | rfl | rfl := width
    all_goals decide
  have haddress : (BOOTLOADER_ADDR + BitVec.ofNat 64 k).toNat = 0x1000 + k := by
    rw [BOOTLOADER_ADDR, BitVec.toNat_add, BitVec.toNat_ofNat]
    change (0x1000 + k % 2 ^ 64) % 2 ^ 64 = 0x1000 + k
    omega
  have hcontains : (bus.range .bootloader).Contains
      (BOOTLOADER_ADDR + BitVec.ofNat 64 k) (size.setWidth 64) := by
    rw [Bus.range_bootloader, image.range]
    refine ⟨BitVec.le_def.mpr ?_, ?_⟩
    · rw [haddress]
      exact Nat.le_add_right _ _
    · rw [haddress, hsize]
      change 0x1000 + k + size.toNat ≤ 0x1000 + 40
      omega
  have hcovers := Range.covers_of_contains hcontains (Nat.le_refl _) (by omega)
  have hapart {r : Range} (apart : r.Apart bus.bootloaderRange) :
      ¬r.Contains (BOOTLOADER_ADDR + BitVec.ofNat 64 k) (size.setWidth 64) := by
    intro h
    exact apart _ ⟨Range.covers_of_contains h (Nat.le_refl _) (by omega), hcovers⟩
  have hlocate : bus.locate (BOOTLOADER_ADDR + BitVec.ofNat 64 k)
      (size.setWidth 64) = some .bootloader := by
    rw [Bus.locate, Window.all, List.find?_cons_of_neg, List.find?_cons_of_neg,
      List.find?_cons_of_pos]
    · exact decide_eq_true hcontains
    · rw [Bus.range_stack, decide_eq_true_eq]
      exact hapart image.stack
    · rw [Bus.range_ram, decide_eq_true_eq]
      exact hapart image.ram
  have hoffset : (bus.offset .bootloader (BOOTLOADER_ADDR + BitVec.ofNat 64 k)).toNat = k := by
    rw [Bus.offset_toNat hcontains, haddress, Bus.range_bootloader, image.range]
    change 0x1000 + k - 0x1000 = k
    omega
  have hmemory : bus.memory .bootloader = some bus.bootloader := rfl
  have hholds := image.wf.holds width hlocate hmemory
  rwa [hoffset, image.data, bytes] at hholds

omit [Host] in
theorem Image.withDev (image : Image bus) (dev : Devices) : Image { bus with dev } :=
  ⟨image.wf.withDev dev, image.range, image.data, image.ram, image.stack⟩

omit [Host] in
theorem pc_of_lt {k : Nat} (hk : k < 6) : pc k = BOOTLOADER_ADDR + BitVec.ofNat 64 (4 * k) :=
  if_pos hk

/-- Memory holds the next instruction at the pc. -/
theorem Image.code (image : Image bus) {k : Nat} (hk : k < 6) :
    bus.Holds (pc k) 4 ((code k).setWidth 64) := by
  rw [pc_of_lt hk]
  refine image.holds (.inr (.inr (.inl rfl))) ?_ ?_
  · change 4 * k + 4 ≤ 40
    omega
  · obtain rfl | rfl | rfl | rfl | rfl | rfl : k = 0 ∨ k = 1 ∨ k = 2 ∨ k = 3 ∨ k = 4 ∨ k = 5 := by
      omega
    all_goals decide

omit [Host] in
/-- `t0` holds the address of the bootloader while the loads use it. -/
theorem read_t0 (id : U64) {k : Nat} (hk : k = 1 ∨ k = 3 ∨ k = 4) :
    (registers id k).read 5 = BOOTLOADER_ADDR := by
  obtain rfl | rfl | rfl := hk
  all_goals simp [registers, Registers.read_write, BOOTLOADER_ADDR]

/-- One instruction of the bootloader. -/
theorem execute_code (image : Image bus) {id : U64} {k : Nat} (hk : k < 6) {cpu : Cpu}
    (regs : cpu.regs = registers id k) (hpc : cpu.pc = pc k)
    (bare : cpu.csrs.get Csr.SATP >>> 60 = Mmu.MODE_BARE)
    (mhartid : cpu.csrs.get Csr.MHARTID = id) :
    execute (.new (code k)) ⟨cpu, bus⟩ =
      .ok () ⟨{ cpu with regs := registers id (k + 1), pc := pc (k + 1) }, bus⟩ := by
  have hassign {rd : BitVec 5} {v next : U64}
      (h : execute (.new (code k)) ⟨cpu, bus⟩ = .ok () (Machine.assign ⟨cpu, bus⟩ rd v next))
      (hregs : (registers id k).write rd v = registers id (k + 1)) (hnext : next = pc (k + 1)) :
      execute (.new (code k)) ⟨cpu, bus⟩ =
        .ok () ⟨{ cpu with regs := registers id (k + 1), pc := pc (k + 1) }, bus⟩ := by
    rw [h, assign, regs, hregs, hnext]
  have hload {instr : Instruction} (h : instr.opcode = 0x03) (h3 : instr.funct3 = 3) {j : Nat}
      {v : U64} (haddr : cpu.regs.read instr.rs1 + instr.immI = BOOTLOADER_ADDR + BitVec.ofNat 64 j)
      (holds : bus.Holds (BOOTLOADER_ADDR + BitVec.ofNat 64 j) 8 v) :
      execute instr ⟨cpu, bus⟩ =
        .ok () (Machine.assign ⟨cpu, bus⟩ instr.rd v (cpu.pc + 4)) := by
    refine execute_load h ?_
    rw [load_ld h3, haddr]
    exact read_bare (m := ⟨cpu, bus⟩) bare holds
  obtain rfl | rfl | rfl | rfl | rfl | rfl : k = 0 ∨ k = 1 ∨ k = 2 ∨ k = 3 ∨ k = 4 ∨ k = 5 := by
    omega
  · have hopcode : (Instruction.new (code 0)).opcode = 0x17 := by decide
    apply hassign (execute_auipc hopcode)
    · rw [hpc]
      rfl
    · rw [hpc]
      rfl
  · have hopcode : (Instruction.new (code 1)).opcode = 0x13 := by decide
    have hfunct3 : (Instruction.new (code 1)).funct3 = 0 := by decide
    apply hassign (execute_opImm hopcode)
    · rw [Execute.opImm_add hfunct3, regs]
      exact congrArg (Registers.write _ 12) (congrArg (· + 40#64) (read_t0 id (.inl rfl)))
    · rw [hpc]
      rfl
  · have hopcode : (Instruction.new (code 2)).opcode = 0x73 := by decide
    have hfunct3 : (Instruction.new (code 2)).funct3 = 2 := by decide
    have hcsr : (Instruction.new (code 2)).csr.setWidth 32 = Csr.MHARTID := by decide
    apply hassign (execute_mhartid hopcode hfunct3 hcsr)
    · rw [mhartid]
      rfl
    · rw [hpc]
      rfl
  · have hopcode : (Instruction.new (code 3)).opcode = 0x03 := by decide
    have hfunct3 : (Instruction.new (code 3)).funct3 = 3 := by decide
    have haddr : cpu.regs.read 5 + 32 = BOOTLOADER_ADDR + BitVec.ofNat 64 32 := by
      rw [regs, read_t0 id (.inr (.inl rfl))]
      rfl
    have holds := @Image.holds _ _ image 32 8 (.inr (.inr (.inr rfl))) (by decide) _ rfl
    apply hassign (hload hopcode hfunct3 haddr holds)
    · rfl
    · rw [hpc]
      rfl
  · have hopcode : (Instruction.new (code 4)).opcode = 0x03 := by decide
    have hfunct3 : (Instruction.new (code 4)).funct3 = 3 := by decide
    have haddr : cpu.regs.read 5 + 24 = BOOTLOADER_ADDR + BitVec.ofNat 64 24 := by
      rw [regs, read_t0 id (.inr (.inr rfl))]
      rfl
    have holds := @Image.holds _ _ image 24 8 (.inr (.inr (.inr rfl))) (by decide) _ rfl
    apply hassign (hload hopcode hfunct3 haddr holds)
    · rfl
    · rw [hpc]
      rfl
  · have hopcode : (Instruction.new (code 5)).opcode = 0x67 := by decide
    apply hassign (execute_jalr hopcode)
    · exact Registers.write_zero _ _
    · rw [regs]
      have ht0 : (registers id 5).read 5 = 0x80000000 := Registers.read_write_same _ _ (by decide)
      exact congrArg (fun v : U64 => (v + 0) &&& ~~~1) ht0

omit [Host] in
/-- Nothing interrupts a hart in the bootloader. -/
theorem Stage.masked {id : U64} {k : Nat} {cpu : Cpu} (stage : Stage id k cpu)
    (attached : Trap.Attached ⟨cpu, bus⟩) : Masked ⟨cpu, bus⟩ := by
  refine ⟨stage.mode, ?_, ?_, attached⟩
  · change cpu.csrs.get Csr.MSTATUS &&& _ = 0
    rw [stage.csrs Csr.MSTATUS (by decide)]
    exact reset_mstatus id
  · change cpu.csrs.get Csr.SATP >>> 60 = _
    rw [stage.csrs Csr.SATP (by decide)]
    exact reset_satp id

/-- What the bootloader leaves of the bus: only devices have changed, and of those only the time
and the input of the console. -/
structure Kept (bus bus' : Bus) : Prop where
  memory : ∃ dev, bus' = { bus with dev }
  plic : bus'.dev.plic = bus.dev.plic
  virtio : bus'.dev.virtio = bus.dev.virtio
  timers : bus'.dev.clint.mtimecmp = bus.dev.clint.mtimecmp
  output : bus'.dev.uart.output = bus.dev.uart.output

omit [Host] in
theorem Kept.refl (bus : Bus) : Kept bus bus := ⟨⟨bus.dev, rfl⟩, rfl, rfl, rfl, rfl⟩

omit [Host] in
theorem Kept.trans {a b c : Bus} (h : Kept a b) (h' : Kept b c) : Kept a c := by
  obtain ⟨dev, rfl⟩ := h.memory
  obtain ⟨dev', rfl⟩ := h'.memory
  exact ⟨⟨dev', rfl⟩, h'.plic.trans h.plic, h'.virtio.trans h.virtio, h'.timers.trans h.timers,
    h'.output.trans h.output⟩

omit [Host] in
theorem Kept.image {bus' : Bus} (h : Kept bus bus') (image : Image bus) : Image bus' := by
  obtain ⟨dev, rfl⟩ := h.memory
  exact image.withDev dev

omit [Host] in
theorem code_full {k : Nat} (hk : k < 6) : code k &&& 0b11 = 0b11 := by
  obtain rfl | rfl | rfl | rfl | rfl | rfl : k = 0 ∨ k = 1 ∨ k = 2 ∨ k = 3 ∨ k = 4 ∨ k = 5 := by
    omega
  all_goals decide

/-- A hart that has not left the bootloader executes one more of its instructions. -/
theorem Stage.step (image : Image bus) {id : U64} {k : Nat} (hk : k < 6) {cpu : Cpu}
    (stage : Stage id k cpu) (attached : Trap.Attached ⟨cpu, bus⟩) :
    ∃ t, Machine.step ⟨cpu, bus⟩ = .ok () t ∧ Stage id (k + 1) t.cpu ∧ Kept bus t.bus := by
  have hcode : bus.Holds cpu.pc 4 ((code k).setWidth 64) := by
    rw [stage.pc]
    exact image.code hk
  obtain ⟨t, hstep, idles⟩ := step_masked (stage.masked attached) hcode (code_full hk)
  have kept : Kept bus t.bus := by
    obtain ⟨dev, hbus, hplic, hvirtio, htimers, houtput⟩ := idles.bus
    rw [hbus]
    exact ⟨⟨dev, rfl⟩, hplic, hvirtio, htimers, houtput⟩
  obtain ⟨mip, countdown, hcpu⟩ := idles.cpu
  have hregs : t.cpu.regs = registers id k := by
    rw [hcpu]
    exact stage.regs
  have hpc : t.cpu.pc = Boot.pc k := by
    rw [hcpu]
    exact stage.pc
  have hcsrs (addr : U32) (h : addr.setWidth 12 ≠ Csr.MIP.setWidth 12) :
      t.cpu.csrs.get addr = (Cpu.new id).csrs.get addr := by
    rw [hcpu, Csrs.get_insert_ne _ _ h]
    exact stage.csrs addr h
  have hbare : t.cpu.csrs.get Csr.SATP >>> 60 = Mmu.MODE_BARE := by
    rw [hcsrs Csr.SATP (by decide)]
    exact reset_satp id
  have hmhartid : t.cpu.csrs.get Csr.MHARTID = id :=
    (hcsrs Csr.MHARTID (by decide)).trans (reset_mhartid id)
  have hexecute := execute_code (kept.image image) hk hregs hpc hbare hmhartid
  refine ⟨_, hstep.trans hexecute, ⟨rfl, rfl, ?_, ?_, hcsrs⟩, kept⟩
  · change t.cpu.mode = PRIV_M
    rw [hcpu]
    exact stage.mode
  · change t.cpu.hartid = id
    rw [hcpu]
    exact stage.hartid

omit [Host] in
/-- No instruction of the bootloader stores. -/
theorem code_loads (k : Nat) : (Instruction.new (code k)).opcode ≠ 0x23 ∧
    (Instruction.new (code k)).opcode ≠ 0x2f := by
  unfold code
  split <;> decide

/-- A hart that has not left the bootloader notifies nobody. -/
theorem Stage.quiet (image : Image bus) {id : U64} {k : Nat} (hk : k < 6) {cpu : Cpu}
    (stage : Stage id k cpu) (attached : Trap.Attached ⟨cpu, bus⟩) :
    ¬StepNotifies ⟨cpu, bus⟩ := by
  have hcode : bus.Holds cpu.pc 4 ((code k).setWidth 64) := by
    rw [stage.pc]
    exact image.code hk
  obtain ⟨u, hfetched, -⟩ := fetch_masked (stage.masked attached) hcode (code_full hk)
  rintro ⟨instr, t, hfetch, va, v, pa, w, writes, -⟩
  cases hfetched.symm.trans hfetch
  cases writes with
  | store opcode => exact (code_loads k).1 opcode
  | swap opcode => exact (code_loads k).2 opcode

end Image

/-- A machine at reset. -/
structure Fresh (emu : Xv6Emulator) : Prop where
  image : Image emu.bus
  small : emu.cpus.length ≤ 32
  timers : emu.bus.dev.clint.mtimecmp.length = emu.cpus.length
  registered : emu.bus.dev.plic.Registered
  harts : ∀ i cpu, emu.cpus[i]? = some cpu → Stage (BitVec.ofNat 64 i) 0 cpu

/-- `emu` is what `start` has become after hart `i` has taken `turns i` turns in the bootloader. -/
structure Booting (start : Xv6Emulator) (turns : Nat → Nat) (emu : Xv6Emulator) : Prop where
  kept : Kept start.bus emu.bus
  length : emu.cpus.length = start.cpus.length
  harts : ∀ i cpu, emu.cpus[i]? = some cpu → Stage (BitVec.ofNat 64 i) (turns i) cpu

section Turns

variable [Host] {start emu : Xv6Emulator} {turns : Nat → Nat}

omit [Host] in
theorem Booting.attached (fresh : Fresh start) (booting : Booting start turns emu) {i : Nat}
    {cpu : Cpu} (hcpu : emu.cpus[i]? = some cpu) : Trap.Attached ⟨cpu, emu.bus⟩ := by
  have hlt : i < start.cpus.length := by
    rw [← booting.length]
    exact (List.getElem?_eq_some_iff.mp hcpu).1
  have hsmall := fresh.small
  have hid : cpu.hartid.toNat = i := by
    rw [(booting.harts i cpu hcpu).hartid, BitVec.toNat_ofNat]
    omega
  refine ⟨fun _ => ?_, fun _ => ?_, fun _ => ?_⟩
  · rw [booting.kept.timers, fresh.timers, hid]
    exact hlt
  · rw [hid]
    omega
  · rw [booting.kept.plic]
    exact fresh.registered

/-- A turn in the bootloader succeeds. -/
theorem Booting.step (fresh : Fresh start) (booting : Booting start turns emu) {i : Nat}
    (hi : turns i < 6) {cpu : Cpu} (hcpu : emu.cpus[i]? = some cpu) :
    ∃ t, Machine.step ⟨cpu, emu.bus⟩ = .ok () t ∧
      Stage (BitVec.ofNat 64 i) (turns i + 1) t.cpu ∧ Kept emu.bus t.bus :=
  (booting.harts i cpu hcpu).step (booting.kept.image fresh.image) hi
    (booting.attached fresh hcpu)

theorem Booting.stepHart (fresh : Fresh start) (booting : Booting start turns emu) {i : Nat}
    (hi : turns i < 6) :
    Booting start (Function.update turns i (turns i + 1)) (emu.stepHart i) := by
  cases hcpu : emu.cpus[i]? with
  | none =>
      rw [Xv6Emulator.stepHart_none hcpu]
      refine ⟨booting.kept, booting.length, fun j cpu hj => ?_⟩
      have hne : j ≠ i := by
        rintro rfl
        rw [hcpu] at hj
        cases hj
      rw [Function.update_of_ne hne]
      exact booting.harts j cpu hj
  | some cpu =>
      obtain ⟨t, hstep, hstage, hkept⟩ := booting.step fresh hi hcpu
      rw [Xv6Emulator.stepHart_ok hcpu hstep]
      refine ⟨booting.kept.trans hkept, ?_, fun j cpu' hj => ?_⟩
      · rw [List.length_set]
        exact booting.length
      · dsimp only at hj
        by_cases hji : j = i
        · subst hji
          rw [List.getElem?_set_self (List.getElem?_eq_some_iff.mp hcpu).1] at hj
          cases hj
          rw [Function.update_self]
          exact hstage
        · rw [List.getElem?_set_ne (Ne.symm hji)] at hj
          rw [Function.update_of_ne hji]
          exact booting.harts j cpu' hj

/-- The harts boot in every order of turns. -/
theorem Fresh.booting (fresh : Fresh start) (schedule : List Nat)
    (bounded : ∀ i, schedule.count i ≤ 6) :
    Booting start (fun i => schedule.count i) (schedule.foldl Xv6Emulator.stepHart start) := by
  refine Turns.foldl_count (fun turns emu i hi booting => booting.stepHart fresh hi) ?_ schedule
    bounded
  exact ⟨.refl _, rfl, fresh.harts⟩

end Turns

section Build

variable [Host] {program : List U8} {address : U64} {uartOutput : Option (List U8)}
  {uartInput : Option (List (Option (List U8)))} {diskImage : Option (List U8)} {ncpu : U64}
  {emu : Xv6Emulator} {left : Bus}

open Xv6Emulator

theorem attach_bootloader {stackBegin : U64} {bus bus' : Bus}
    (h : attach program address stackBegin uartOutput uartInput diskImage ncpu bus = .ok () bus') :
    bus'.bootloader.data = BOOTLOADER := by
  simp only [attach, bind_eq_ok, Bus.setRam_eq_ok, Bus.setStack_eq_ok, Bus.setClint_eq_ok,
    Bus.setUart_eq_ok, Bus.setVirtio_eq_ok, Bus.setPlic_eq_ok, Bus.setBootloader_eq_ok] at h
  obtain ⟨_, _, -, _, _, -, _, _, -, _, _, -, _, _, -, _, _, -, _, _, -, _, _, -, _, _, -, _, _, -,
    _, _, -, rfl⟩ := h
  rfl

/-- RAM and stack leave the bootloader alone. -/
def ClearOfBootloader (programLen : Nat) (address : U64) : Prop :=
  ¬(address.toNat ≤ BOOTLOADER_ADDR.toNat ∧
    BOOTLOADER_ADDR.toNat < address.toNat + pageBytes programLen + STACK_SIZE.toNat)

instance (programLen : Nat) (address : U64) : Decidable (ClearOfBootloader programLen address) :=
  inferInstanceAs (Decidable (¬_))

theorem image_newSmp
    (boot : newSmp program address uartOutput uartInput diskImage ncpu = .ok emu left)
    (clear : ClearOfBootloader program.length address) : Image emu.bus := by
  obtain ⟨ramLen, stackBegin, hram, hstack, hreserves, hwindows⟩ := newSmp_spec boot
  obtain ⟨sb, -, -, hattach, -⟩ := newSmp_ok boot
  obtain ⟨hvalid, hclears, -⟩ := hreserves.clears RangeManager.new_disjoint.toSorted
  simp only [Bus.windows, List.cons.injEq] at hwindows
  obtain ⟨hramRange, hstackRange, hbootRange, -⟩ := hwindows
  have hmem : (⟨BOOTLOADER_ADDR, 40⟩ : Range) ∈ fixedWindows := by decide
  rw [reservations, List.forall_mem_cons, List.forall_mem_cons] at hvalid
  rw [reservations, List.pairwise_cons, List.pairwise_cons] at hclears
  obtain ⟨hramClears, hstackClears, -⟩ := hclears
  have hbound : address.toNat + ramLen.toNat < 2 ^ 64 := hvalid.1.2
  have hbegin : stackBegin.toNat = address.toNat + pageBytes program.length := by
    rw [hstack, BitVec.toNat_add, hram]
    omega
  refine ⟨(booted_newSmp boot).wf, hbootRange, attach_bootloader hattach, ?_, ?_⟩
  · rw [hramRange, hbootRange,
      (hramClears _ (List.mem_cons_of_mem _ hmem)).apart_iff (by decide)]
    rintro ⟨hlow, hhigh⟩
    refine clear ⟨hlow, ?_⟩
    change BOOTLOADER_ADDR.toNat < address.toNat + ramLen.toNat at hhigh
    omega
  · rw [hstackRange, hbootRange, (hstackClears _ hmem).apart_iff (by decide)]
    rintro ⟨hlow, hhigh⟩
    change stackBegin.toNat ≤ BOOTLOADER_ADDR.toNat at hlow
    change BOOTLOADER_ADDR.toNat < stackBegin.toNat + STACK_SIZE.toNat at hhigh
    exact clear ⟨by omega, by omega⟩

omit [Host] in
theorem stage_resetCpu (id : U64) : Stage id 0 (resetCpu id) :=
  ⟨rfl, rfl, rfl, rfl, fun _ _ => rfl⟩

theorem fresh_newSmp
    (boot : newSmp program address uartOutput uartInput diskImage ncpu = .ok emu left)
    (clear : ClearOfBootloader program.length address) :
    Fresh emu ∧ emu.cpus.length = ncpu.toNat := by
  obtain ⟨sb, hncpu, -, hattach, hcpus⟩ := newSmp_ok boot
  have hlength : emu.cpus.length = ncpu.toNat := by
    rw [hcpus, List.length_map, List.length_range]
  refine ⟨⟨image_newSmp boot clear, ?_, ?_, ?_, fun i cpu hcpu => ?_⟩, hlength⟩
  · rw [hlength]
    exact hncpu
  · rw [attach_dev hattach, hlength, Clint.new, List.length_replicate]
  · exact Bus.registered_xv6 (booted_newSmp boot).lines
  · rw [hcpus, List.getElem?_map] at hcpu
    obtain ⟨j, hj, rfl⟩ := Option.map_eq_some_iff.mp hcpu
    obtain ⟨hlt, hget⟩ := List.getElem?_eq_some_iff.mp hj
    rw [List.getElem_range] at hget
    subst hget
    exact stage_resetCpu _

/-- While the harts boot, in any order of turns, none of them notifies the block device. -/
theorem quiet_boot
    (boot : newSmp program address uartOutput uartInput diskImage ncpu = .ok emu left)
    (clear : ClearOfBootloader program.length address) (schedule : List Nat)
    (bounded : ∀ i, schedule.count i ≤ 6) :
    ∀ done i rest, schedule = done ++ i :: rest →
      ¬OnHart StepNotifies (done.foldl stepHart emu) i := by
  rintro done i rest h ⟨cpu, hcpu, notifies⟩
  have fresh := (fresh_newSmp boot clear).1
  have hdone (j : Nat) : done.count j + (i :: rest).count j ≤ 6 := by
    rw [← List.count_append, ← h]
    exact bounded j
  have hturn : done.count i < 6 := by
    have := hdone i
    rw [List.count_cons_self] at this
    omega
  have booting := fresh.booting done fun j => Nat.le_trans (Nat.le_add_right _ _) (hdone j)
  exact (booting.harts i cpu hcpu).quiet (booting.kept.image fresh.image) hturn
    (booting.attached fresh hcpu) notifies

/-- However the harts of a machine take turns after its reset, up to six each: every turn succeeds,
a hart that has taken six stands at the kernel with its own number in `a0` and the address of the
device tree in `a1`, and memory, PLIC and disk are as they were, nothing having been printed. -/
theorem every_hart_boots
    (boot : newSmp program address uartOutput uartInput diskImage ncpu = .ok emu left)
    (clear : ClearOfBootloader program.length address) (schedule : List Nat)
    (bounded : ∀ i, schedule.count i ≤ 6) :
    (∀ done i rest, schedule = done ++ i :: rest → i < ncpu.toNat →
      ∃ cpu t, (done.foldl stepHart emu).cpus[i]? = some cpu ∧
        step ⟨cpu, (done.foldl stepHart emu).bus⟩ = .ok () t) ∧
    (∀ i < ncpu.toNat, schedule.count i = 6 →
      ∃ cpu, (schedule.foldl stepHart emu).cpus[i]? = some cpu ∧
        AtKernel (BitVec.ofNat 64 i) cpu) ∧
    Kept emu.bus (schedule.foldl stepHart emu).bus := by
  obtain ⟨fresh, hlength⟩ := fresh_newSmp boot clear
  have hart (schedule' : List Nat) (h : ∀ i, schedule'.count i ≤ 6) {i : Nat}
      (hi : i < ncpu.toNat) : ∃ cpu, (schedule'.foldl stepHart emu).cpus[i]? = some cpu := by
    have hin := (fresh.booting schedule' h).length
    exact ⟨_, List.getElem?_eq_getElem (by omega)⟩
  refine ⟨fun done i rest h hi => ?_, fun i hi hcount => ?_, (fresh.booting schedule bounded).kept⟩
  · have hdone (j : Nat) : done.count j + (i :: rest).count j ≤ 6 := by
      rw [← List.count_append, ← h]
      exact bounded j
    have hbelow (j : Nat) : done.count j ≤ 6 := Nat.le_trans (Nat.le_add_right _ _) (hdone j)
    have hturn : done.count i < 6 := by
      have := hdone i
      rw [List.count_cons_self] at this
      omega
    obtain ⟨cpu, hcpu⟩ := hart done hbelow hi
    obtain ⟨t, hstep, -⟩ := (fresh.booting done hbelow).step fresh hturn hcpu
    exact ⟨cpu, t, hcpu, hstep⟩
  · obtain ⟨cpu, hcpu⟩ := hart schedule bounded hi
    have hstage := (fresh.booting schedule bounded).harts i cpu hcpu
    rw [hcount] at hstage
    exact ⟨cpu, hcpu, hstage.atKernel⟩

end Build

section Example

attribute [local instance] Host.dev

open Xv6Emulator

/-- Turns of two harts, out of step. -/
def sixEach : List Nat := [0, 1, 1, 1, 0, 0, 1, 0, 1, 0, 0, 1]

theorem count_sixEach {i : Nat} (hi : i < 2) : sixEach.count i = 6 := by
  obtain rfl | rfl : i = 0 ∨ i = 1 := by omega
  all_goals rfl

theorem count_sixEach_le (i : Nat) : sixEach.count i ≤ 6 := by
  by_cases hi : i < 2
  · exact Nat.le_of_eq (count_sixEach hi)
  · rw [List.count_eq_zero_of_not_mem]
    · exact Nat.zero_le _
    · simp only [sixEach, List.mem_cons, List.not_mem_nil, or_false]
      omega

theorem every_hart_boots_twoHarts : ∃ emu left,
    newSmp [0x13, 0, 0, 0] 0x80000000 none none none 2 = .ok emu left ∧
      ∀ i < 2, ∃ cpu, (sixEach.foldl stepHart emu).cpus[i]? = some cpu ∧
        AtKernel (BitVec.ofNat 64 i) cpu := by
  obtain ⟨emu, left, boot⟩ := boots_twoHarts
  refine ⟨emu, left, boot, fun i hi => ?_⟩
  exact (every_hart_boots boot (by decide) _ count_sixEach_le).2.1 i hi (count_sixEach hi)

/-- Two harts boot without a panic. -/
theorem core_never_panics_twoHarts : ∃ emu left,
    newSmp [0x13, 0, 0, 0] 0x80000000 none none none 2 = .ok emu left ∧
      ∀ done i rest, sixEach = done ++ i :: rest →
        ∀ cpu, (done.foldl stepHart emu).cpus[i]? = some cpu →
          ¬Panics (step ⟨cpu, (done.foldl stepHart emu).bus⟩) ∧
            cpu.uartPollCountdown.toNat ≤ 4096 := by
  obtain ⟨emu, left, boot⟩ := boots_twoHarts
  exact ⟨emu, left, boot, (core_never_panics boot sixEach
    (quiet_boot boot (by decide) _ count_sixEach_le)).1⟩

end Example

end Boot

end Riscvm.Rv64rs
