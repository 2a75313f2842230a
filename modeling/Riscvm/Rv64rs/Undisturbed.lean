import Riscvm.Rv64rs.NoPanic

/-!
# Undisturbed execution

Between two instructions of a hart in M-mode with interrupts off and without paging nothing
happens but the ticking of the devices: the hart executes the instruction that memory holds at
its pc. One equation for each instruction that such a stretch of code needs.
-/

namespace Riscvm.Rv64rs

open Bytes Exec Machine

namespace Bus

variable [Host]

/-- Memory holds `v` in the `size` bytes at `address`, whatever state the devices are in. -/
def Holds (bus : Bus) (address : U64) (size : U8) (v : U64) : Prop :=
  ∀ dev, read address size { bus with dev } = .ok v { bus with dev }

section Devices

variable {bus : Bus} (dev : Devices)

omit [Host] in
theorem range_dev (w : Window) : { bus with dev }.range w = bus.range w := by
  cases w <;> rfl

omit [Host] in
theorem memory_dev (w : Window) : { bus with dev }.memory w = bus.memory w := by
  cases w <;> rfl

omit [Host] in
theorem Wf.withDev (wf : bus.Wf) : { bus with dev }.Wf := by
  refine ⟨fun w => ?_, fun w ram h => ?_⟩
  · rw [range_dev]
    exact wf.bounded w
  · rw [memory_dev] at h
    rw [range_dev]
    exact wf.length w ram h

end Devices

/-- What memory holds is read from the window that serves the access. -/
theorem Wf.holds {bus : Bus} (wf : bus.Wf) {address : U64} {size : U8} (width : Ram.Width size)
    {w : Window} (hw : bus.locate address (size.setWidth 64) = some w) {ram : Ram}
    (hm : bus.memory w = some ram) :
    bus.Holds address size
      (BitVec.ofNat 64 (leNat (extract ram.data (bus.offset w address).toNat size.toNat))) := by
  intro dev
  have hlocate : { bus with dev }.locate address (size.setWidth 64) = some w := by
    rw [← hw, locate, locate]
    simp only [range_dev]
  have hread := readAt_memory (wf.withDev dev) width hlocate ((memory_dev dev w).trans hm) false
  rw [offset, range_dev] at hread
  exact hread

end Bus

namespace Machine

/-- Nothing interrupts the hart, and it fetches at physical addresses. -/
structure Masked (m : Machine) : Prop where
  mode : m.cpu.mode = PRIV_M
  off : m.cpu.csrs.get Csr.MSTATUS &&& Trap.MSTATUS_MIE = 0
  bare : m.cpu.csrs.get Csr.SATP >>> 60 = Mmu.MODE_BARE
  attached : Trap.Attached m

/-- What becomes of a machine while nothing is executed: time passes, input arrives and the hart
samples its lines. -/
structure Idles (m t : Machine) : Prop where
  cpu : ∃ mip countdown, t.cpu =
    { m.cpu with csrs := m.cpu.csrs.insert Csr.MIP mip, uartPollCountdown := countdown }
  bus : ∃ dev, t.bus = { m.bus with dev } ∧ dev.plic = m.bus.dev.plic ∧
    dev.virtio = m.bus.dev.virtio ∧ dev.clint.mtimecmp = m.bus.dev.clint.mtimecmp ∧
    dev.uart.output = m.bus.dev.uart.output

theorem output_pollInput (uart : Uart) : uart.pollInput.output = uart.output := by
  unfold Uart.pollInput
  split <;> rfl

/-- Without an interrupt that could be taken, looking for one only samples the lines. -/
theorem checkInterrupt_masked [Host] {m : Machine} (masked : Masked m) :
    ∃ mip, Trap.checkInterrupt m = .ok false { m with cpu := Trap.withMip m.cpu mip } := by
  obtain ⟨mip, hsample, -⟩ := Trap.sampleMip_lines masked.attached
  refine ⟨mip, ?_⟩
  rw [Trap.checkInterrupt_apply hsample]
  cases hfirst : Trap.firstCandidate (mip &&& m.cpu.csrs.get Csr.MIE)
      (m.cpu.csrs.get Csr.MSTATUS) (Trap.withMip m.cpu mip) Trap.PRIORITY with
  | none => rfl
  | some cause =>
      obtain ⟨-, -, -, hm⟩ := Trap.firstCandidate_some hfirst
      have hnot : ¬Trap.Delegated (Trap.withMip m.cpu mip) cause true :=
        fun hd => hd.1 masked.mode
      exact absurd masked.off (hm hnot masked.mode)

/-- The devices after a tick and perhaps a poll. -/
theorem polled_ticked (m : Machine) : ∃ countdown dev, polled (ticked m) =
      ⟨{ m.cpu with uartPollCountdown := countdown }, { m.bus with dev }⟩ ∧
    dev.plic = m.bus.dev.plic ∧ dev.virtio = m.bus.dev.virtio ∧
    dev.clint.mtimecmp = m.bus.dev.clint.mtimecmp ∧
    dev.uart.output = m.bus.dev.uart.output := by
  have hticked : ∃ dev, ticked m = ⟨m.cpu, { m.bus with dev }⟩ ∧ dev.plic = m.bus.dev.plic ∧
      dev.virtio = m.bus.dev.virtio ∧ dev.clint.mtimecmp = m.bus.dev.clint.mtimecmp ∧
      dev.uart = m.bus.dev.uart := by
    unfold ticked
    split
    · exact ⟨_, rfl, rfl, rfl, rfl, rfl⟩
    · exact ⟨m.bus.dev, rfl, rfl, rfl, rfl, rfl⟩
  obtain ⟨dev, heq, hplic, hvirtio, hclint, huart⟩ := hticked
  rw [heq, ← huart]
  unfold polled
  split
  · split
    · exact ⟨_, _, rfl, hplic, hvirtio, hclint, output_pollInput _⟩
    · exact ⟨_, dev, rfl, hplic, hvirtio, hclint, rfl⟩
  · exact ⟨_, dev, rfl, hplic, hvirtio, hclint, rfl⟩

variable [Host]

/-- Without paging the word at the pc is decoded. -/
theorem fetchWord_bare {m : Machine} (bare : m.cpu.csrs.get Csr.SATP >>> 60 = Mmu.MODE_BARE)
    {word : U32} (code : Bus.read m.cpu.pc 4 m.bus = .ok (word.setWidth 64) m.bus)
    (full : word &&& 0b11 = 0b11) : fetchWord m = .ok (.full (.new word)) m := by
  have hword : ((word.setWidth 64 : U64).setWidth 32 : U32) = word := by
    rw [BitVec.setWidth_setWidth_of_le _ (by decide), BitVec.setWidth_eq]
  rw [fetchWord, get_bind_apply, bind_ok (Mmu.translate_bare bare), bind_ok (onBus_ok code), hword,
    run_ite, if_pos full]
  rfl

/-- The hart fetches the instruction that memory holds at its pc. -/
theorem fetch_masked {m : Machine} (masked : Masked m) {word : U32}
    (code : m.bus.Holds m.cpu.pc 4 (word.setWidth 64)) (full : word &&& 0b11 = 0b11) :
    ∃ t, fetch m = .ok (.full (.new word)) t ∧ Idles m t := by
  obtain ⟨countdown, dev, heq, hplic, hvirtio, htimers, houtput⟩ := polled_ticked m
  have hattached : Trap.Attached (polled (ticked m)) := by
    rw [heq]
    refine ⟨fun hclint => ?_, masked.attached.context, fun hheld => ?_⟩
    · rw [htimers]
      exact masked.attached.timer hclint
    · rw [hplic]
      exact masked.attached.registered hheld
  have hmasked : Masked (polled (ticked m)) := by
    rw [heq] at hattached ⊢
    exact ⟨masked.mode, masked.off, masked.bare, hattached⟩
  obtain ⟨mip, hcheck⟩ := checkInterrupt_masked hmasked
  have hidle : Idles m { polled (ticked m) with
      cpu := Trap.withMip (polled (ticked m)).cpu mip } := by
    rw [heq]
    exact ⟨⟨mip, countdown, rfl⟩, ⟨dev, rfl, hplic, hvirtio, htimers, houtput⟩⟩
  refine ⟨_, ?_, hidle⟩
  have hbare : (Trap.withMip (polled (ticked m)).cpu mip).csrs.get Csr.SATP >>> 60 =
      Mmu.MODE_BARE := by
    rw [Trap.withMip, Csrs.get_insert_ne _ _ (by decide)]
    exact hmasked.bare
  have hcode : Bus.read (polled (ticked m)).cpu.pc 4 (polled (ticked m)).bus =
      .ok (word.setWidth 64) (polled (ticked m)).bus := by
    rw [heq]
    exact code dev
  rw [fetch, bind_ok (tickClint_apply m), bind_ok (pollUart_apply _), bind_ok hcheck]
  exact fetchWord_bare (m := { polled (ticked m) with
    cpu := Trap.withMip (polled (ticked m)).cpu mip }) hbare hcode full

/-- A step is that instruction's, after a while of idling. -/
theorem step_masked {m : Machine} (masked : Masked m) {word : U32}
    (code : m.bus.Holds m.cpu.pc 4 (word.setWidth 64)) (full : word &&& 0b11 = 0b11) :
    ∃ t, step m = execute (.new word) t ∧ Idles m t := by
  obtain ⟨t, hfetch, hidles⟩ := fetch_masked masked code full
  refine ⟨t, ?_, hidles⟩
  rw [step, bind_ok hfetch]

omit [Host] in
/-- The machine after an instruction that assigns `value` to `rd` and goes on at `pc`. -/
def assign (m : Machine) (rd : BitVec 5) (value pc : U64) : Machine :=
  { m with cpu := { m.cpu with regs := m.cpu.regs.write rd value, pc } }

theorem read_bare {m : Machine} (bare : m.cpu.csrs.get Csr.SATP >>> 60 = Mmu.MODE_BARE)
    {address : U64} {size : U8} {v : U64} (h : m.bus.Holds address size v) :
    read address size m = .ok v m := by
  rw [read, bind_ok (Mmu.translate_bare bare)]
  exact onBus_ok (h m.bus.dev)

section Instructions

variable {instr : Instruction} {m : Machine}

theorem execute_ok {next : U64} {t : Machine}
    (h : Execute.executeFrom (m.cpu.pc + 4) instr m = .ok next t) :
    execute instr m = .ok () { t with cpu := { t.cpu with pc := next } } := by
  rw [execute, bind_ok (t := t) (a := next)]
  · rfl
  · rw [Execute.execute, get_bind_apply]
    exact h

theorem execute_assign {value next : U64}
    (h : Execute.executeFrom (m.cpu.pc + 4) instr m = (do
      writeReg instr.rd value
      return next) m) : execute instr m = .ok () (m.assign instr.rd value next) :=
  execute_ok h

theorem execute_auipc (h : instr.opcode = 0x17) :
    execute instr m = .ok () (m.assign instr.rd (m.cpu.pc + instr.immU) (m.cpu.pc + 4)) := by
  refine execute_assign ?_
  unfold Execute.executeFrom
  simp only [h]
  rfl

theorem execute_opImm (h : instr.opcode = 0x13) :
    execute instr m = .ok () (m.assign instr.rd
      (Execute.opImm instr (m.cpu.regs.read instr.rs1)) (m.cpu.pc + 4)) :=
  execute_assign (Execute.executeFrom_opImm _ m h)

theorem execute_jalr (h : instr.opcode = 0x67) :
    execute instr m = .ok () (m.assign instr.rd (m.cpu.pc + 4)
      ((m.cpu.regs.read instr.rs1 + instr.immI) &&& ~~~1)) :=
  execute_assign (Execute.executeFrom_jalr _ m h)

theorem execute_load (h : instr.opcode = 0x03) {v : U64}
    (loaded : Execute.load instr (m.cpu.regs.read instr.rs1 + instr.immI) m = .ok v m) :
    execute instr m = .ok () (m.assign instr.rd v (m.cpu.pc + 4)) := by
  refine execute_assign ?_
  rw [Execute.executeFrom_load _ m h, bind_ok loaded]

theorem load_ld (h : instr.funct3 = 3) (addr : U64) : Execute.load instr addr = read addr 8 := by
  unfold Execute.load
  simp only [h]
  rfl

/-- CSRRS of `mhartid`, which no instruction changes. -/
theorem execute_mhartid (h : instr.opcode = 0x73) (h3 : instr.funct3 = 0x2)
    (hcsr : instr.csr.setWidth 32 = Csr.MHARTID) :
    execute instr m = .ok () (m.assign instr.rd (m.cpu.csrs.get Csr.MHARTID) (m.cpu.pc + 4)) := by
  refine execute_assign ?_
  unfold Execute.executeFrom
  simp only [h]
  change Execute.executeSystem instr (m.cpu.pc + 4) m = _
  unfold Execute.executeSystem Execute.csrAccess
  simp only [h3, hcsr]
  rfl

end Instructions

end Machine

end Riscvm.Rv64rs
