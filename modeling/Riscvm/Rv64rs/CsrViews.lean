import Riscvm.Rv64rs.Control

/-!
# The CSR instructions

A CSR address names a view: a register and the bits of it that the view shows. The six
instructions read the old view into `rd` and store a new one, both in terms of the operand as
it was before the instruction, and touch no other bit of the CSRs.
-/

namespace Riscvm.Rv64rs

open Bits Exec Machine

/-- The register behind a CSR address and the bits of it that the address shows. -/
structure CsrView where
  register : U32
  mask : U64

namespace CsrView

/-- `sstatus`, `sie` and `sip` are views of `mstatus`, `mie` and `mip`. -/
def of (csr : BitVec 12) : CsrView :=
  if csr = 0x100 then ⟨Csr.MSTATUS, Trap.SSTATUS_MASK⟩
  else if csr = 0x104 then ⟨Csr.MIE, Trap.SIE_MASK⟩
  else if csr = 0x144 then ⟨Csr.MIP, Trap.SIP_MASK⟩
  else ⟨csr.setWidth 32, BitVec.allOnes 64⟩

/-- What the view shows. -/
def value (view : CsrView) (csrs : Csrs) : U64 := csrs.get view.register &&& view.mask

/-- Only the visible bits of one register differ, and they are those of `value`. -/
structure Stored (view : CsrView) (value : U64) (csrs csrs' : Csrs) : Prop where
  new : view.value csrs' = value &&& view.mask
  outside : csrs'.get view.register &&& ~~~view.mask = csrs.get view.register &&& ~~~view.mask
  others : ∀ slot, slot ≠ view.register.setWidth 12 → csrs'.slots slot = csrs.slots slot

theorem setWidth_eq_iff {csr : BitVec 12} {k : Nat} (hk : k < 4096) :
    csr.setWidth 32 = BitVec.ofNat 32 k ↔ csr = BitVec.ofNat 12 k := by
  rw [← BitVec.toNat_inj, ← BitVec.toNat_inj, BitVec.toNat_setWidth, BitVec.toNat_ofNat,
    BitVec.toNat_ofNat]
  have := csr.isLt
  rw [Nat.mod_eq_of_lt (by omega), Nat.mod_eq_of_lt (by omega), Nat.mod_eq_of_lt hk]

/-- `aliased_target` names the register and the mask of the view. -/
theorem aliasedTarget_eq (csr : BitVec 12) :
    Trap.aliasedTarget (csr.setWidth 32) =
      if csr = 0x100 ∨ csr = 0x104 ∨ csr = 0x144 then some ((of csr).register, (of csr).mask)
      else none := by
  have hsstatus : csr.setWidth 32 = Csr.SSTATUS ↔ csr = 0x100 := setWidth_eq_iff (by decide)
  have hsie : csr.setWidth 32 = Csr.SIE ↔ csr = 0x104 := setWidth_eq_iff (by decide)
  have hsip : csr.setWidth 32 = Csr.SIP ↔ csr = 0x144 := setWidth_eq_iff (by decide)
  unfold Trap.aliasedTarget of
  simp only [hsstatus, hsie, hsip]
  by_cases h1 : csr = 0x100
  · simp only [h1, true_or, if_true]
  · by_cases h2 : csr = 0x104
    · simp only [h2, true_or, or_true, if_true]
      rfl
    · by_cases h3 : csr = 0x144
      · simp only [h3, or_true, if_true]
        rfl
      · simp only [h1, h2, h3, or_false, if_false]

theorem csrRead_eq (cpu : Cpu) (csr : BitVec 12) :
    Trap.csrRead cpu (csr.setWidth 32) = (of csr).value cpu.csrs := by
  unfold Trap.csrRead
  rw [aliasedTarget_eq]
  by_cases h : csr = 0x100 ∨ csr = 0x104 ∨ csr = 0x144
  · rw [if_pos h]
    rfl
  · rw [if_neg h]
    obtain ⟨h1, h2, h3⟩ : csr ≠ 0x100 ∧ csr ≠ 0x104 ∧ csr ≠ 0x144 := by
      simpa only [not_or] using h
    rw [of, if_neg h1, if_neg h2, if_neg h3, value, BitVec.and_allOnes]

theorem csrWrite_stored (cpu : Cpu) {csr : BitVec 12} (writable : csr ≠ 0xf14) (value : U64) :
    (of csr).Stored value cpu.csrs (Trap.csrWrite cpu (csr.setWidth 32) value).csrs := by
  have hmhartid : ¬csr.setWidth 32 = Csr.MHARTID :=
    fun h => writable ((setWidth_eq_iff (k := 0xf14) (by decide)).mp h)
  have hcsrs : (Trap.csrWrite cpu (csr.setWidth 32) value).csrs =
      cpu.csrs.insert (of csr).register
        ((cpu.csrs.get (of csr).register &&& ~~~(of csr).mask) ||| (value &&& (of csr).mask)) := by
    unfold Trap.csrWrite
    rw [if_neg hmhartid, aliasedTarget_eq]
    by_cases h : csr = 0x100 ∨ csr = 0x104 ∨ csr = 0x144
    · rw [if_pos h]
    · rw [if_neg h]
      obtain ⟨h1, h2, h3⟩ : csr ≠ 0x100 ∧ csr ≠ 0x104 ∧ csr ≠ 0x144 := by
        simpa only [not_or] using h
      rw [of, if_neg h1, if_neg h2, if_neg h3]
      dsimp only
      rw [BitVec.and_allOnes, BitVec.not_allOnes, BitVec.and_zero, BitVec.zero_or]
  rw [hcsrs]
  refine ⟨?_, ?_, fun slot h => if_neg h⟩
  · rw [CsrView.value, Csrs.get_insert_same]
    ext i hi
    simp
    grind
  · rw [Csrs.get_insert_same]
    ext i hi
    simp
    grind

/-- Storing the value that the view shows changes nothing. -/
theorem Stored.eq_self {view : CsrView} {value : U64} {csrs csrs' : Csrs}
    (h : view.Stored value csrs csrs') (same : value = view.value csrs) : csrs' = csrs := by
  subst same
  have hregister : csrs'.get view.register = csrs.get view.register := by
    have hnew : csrs'.get view.register &&& view.mask = csrs.get view.register &&& view.mask := by
      have hnew := h.new
      rwa [CsrView.value, CsrView.value, BitVec.and_assoc, BitVec.and_self] at hnew
    rw [← and_or_and_not (csrs'.get view.register) view.mask, hnew, h.outside, and_or_and_not]
  apply Csrs.ext
  intro slot
  by_cases hslot : slot = view.register.setWidth 12
  · rw [hslot]
    exact hregister
  · exact h.others slot hslot

end CsrView

/-- Write, set and clear. -/
inductive CsrForm where
  | write
  | set
  | clear
  deriving DecidableEq

namespace CsrForm

/-- `funct3` of the form with a register or an immediate operand. -/
def funct3 (form : CsrForm) (immediate : Bool) : BitVec 3 :=
  match form, immediate with
  | .write, false => 1
  | .set, false => 2
  | .clear, false => 3
  | .write, true => 5
  | .set, true => 6
  | .clear, true => 7

def update (form : CsrForm) (old source : U64) : U64 :=
  match form with
  | .write => source
  | .set => old ||| source
  | .clear => old &&& ~~~source

/-- The operand as it was before the instruction. -/
def source (instr : Instruction) (immediate : Bool) (cpu : Cpu) : U64 :=
  if immediate then instr.rs1.setWidth 64 else cpu.regs.read instr.rs1

end CsrForm

/-- What a CSR instruction does to a machine. -/
structure CsrExecuted (form : CsrForm) (immediate : Bool) (instr : Instruction) (m m' : Machine) :
    Prop where
  rd : m'.cpu.regs = m.cpu.regs.write instr.rd (Trap.csrRead m.cpu (instr.csr.setWidth 32))
  stored : instr.csr ≠ 0xf14 → (CsrView.of instr.csr).Stored
    (form.update (Trap.csrRead m.cpu (instr.csr.setWidth 32))
      (CsrForm.source instr immediate m.cpu))
    m.cpu.csrs m'.cpu.csrs
  mhartid : m'.cpu.csrs.get Csr.MHARTID = m.cpu.csrs.get Csr.MHARTID
  readOnly : instr.csr = 0xf14 → m'.cpu.csrs = m.cpu.csrs
  sstatus : Trap.csrRead m'.cpu Csr.SSTATUS = Trap.csrRead m'.cpu Csr.MSTATUS &&& Trap.SSTATUS_MASK
  sie : Trap.csrRead m'.cpu Csr.SIE = Trap.csrRead m'.cpu Csr.MIE &&& Trap.SIE_MASK
  sip : Trap.csrRead m'.cpu Csr.SIP = Trap.csrRead m'.cpu Csr.MIP &&& Trap.SIP_MASK
  zero : form ≠ .write → CsrForm.source instr immediate m.cpu = 0 → m'.cpu.csrs = m.cpu.csrs
  pc : m'.cpu.pc = m.cpu.pc + 4
  mode : m'.cpu.mode = m.cpu.mode
  hartid : m'.cpu.hartid = m.cpu.hartid
  bus : m'.bus = m.bus

variable [Host]

theorem Execute.executeFrom_csrForm {instr : Instruction} {form : CsrForm} {immediate : Bool}
    (hop : instr.opcode = 0x73) (h3 : instr.funct3 = form.funct3 immediate) (next : U64)
    (m : Machine) :
    executeFrom next instr m = (do
      csrAccess instr fun old => form.update old (CsrForm.source instr immediate m.cpu)
      return next) m := by
  rw [executeFrom_system hop]
  unfold executeSystem
  rw [bind_ok (readReg_apply _ m)]
  cases form <;> cases immediate <;> (simp only [h3, CsrForm.funct3]; rfl)

theorem execute_csr_apply {instr : Instruction} {form : CsrForm} {immediate : Bool}
    (hop : instr.opcode = 0x73) (h3 : instr.funct3 = form.funct3 immediate) (m : Machine) :
    let old := Trap.csrRead m.cpu (instr.csr.setWidth 32)
    let cpu := Trap.csrWrite { m.cpu with regs := m.cpu.regs.write instr.rd old }
      (instr.csr.setWidth 32) (form.update old (CsrForm.source instr immediate m.cpu))
    Machine.execute instr m = .ok () { m with cpu := { cpu with pc := m.cpu.pc + 4 } } := by
  have hbody := (Execute.executeFrom_csrForm hop h3 (m.cpu.pc + 4) m).trans
    (bind_ok (Execute.csrAccess_apply instr _ m) _)
  exact (execute_apply instr m).trans (bind_ok hbody _)

omit [Host] in
/-- The rest of the hart is left alone by a store to a CSR. -/
theorem csrWrite_frame (cpu : Cpu) (addr : U32) (value : U64) :
    (Trap.csrWrite cpu addr value).regs = cpu.regs ∧
      (Trap.csrWrite cpu addr value).mode = cpu.mode ∧
      (Trap.csrWrite cpu addr value).hartid = cpu.hartid := by
  unfold Trap.csrWrite
  split <;> exact ⟨rfl, rfl, rfl⟩

omit [Host] in
theorem csrWrite_mhartid {csr : BitVec 12} (h : csr = 0xf14) (cpu : Cpu) (value : U64) :
    Trap.csrWrite cpu (csr.setWidth 32) value = cpu := by
  subst h
  exact if_pos rfl

omit [Host] in
theorem CsrView.register_ne_mhartid {csr : BitVec 12} (h : csr ≠ 0xf14) :
    Csr.MHARTID.setWidth 12 ≠ (CsrView.of csr).register.setWidth 12 := by
  unfold CsrView.of
  split
  · decide
  split
  · decide
  split
  · decide
  · rw [setWidth_setWidth_of_ge csr (by decide), BitVec.setWidth_eq]
    exact h.symm

omit [Host] in
/-- Setting or clearing no bit stores the old view. -/
theorem CsrForm.update_zero {form : CsrForm} (h : form ≠ .write) (old : U64) :
    form.update old 0 = old := by
  cases form with
  | write => exact absurd rfl h
  | set => exact BitVec.or_zero
  | clear => exact (congrArg (old &&& ·) BitVec.not_zero).trans BitVec.and_allOnes

/-- The six CSR instructions on every CSR address. -/
theorem execute_csr {instr : Instruction} {form : CsrForm} {immediate : Bool}
    (hop : instr.opcode = 0x73) (h3 : instr.funct3 = form.funct3 immediate) (m : Machine) :
    ∃ m', Machine.execute instr m = .ok () m' ∧ CsrExecuted form immediate instr m m' := by
  refine ⟨_, execute_csr_apply hop h3 m, ?_⟩
  by_cases hcsr : instr.csr = 0xf14
  · have hsame (cpu : Cpu) (value : U64) := congrArg Cpu.csrs (csrWrite_mhartid hcsr cpu value)
    exact ⟨(csrWrite_frame ..).1, fun h => absurd hcsr h, congrArg (·.get Csr.MHARTID) (hsame ..),
      fun _ => hsame .., rfl, rfl, rfl, fun _ _ => hsame .., rfl, (csrWrite_frame ..).2.1,
      (csrWrite_frame ..).2.2, rfl⟩
  · have hstored (value : U64) := CsrView.csrWrite_stored
      { m.cpu with regs := m.cpu.regs.write instr.rd (Trap.csrRead m.cpu (instr.csr.setWidth 32)) }
      hcsr value
    refine ⟨(csrWrite_frame ..).1, fun _ => hstored _,
      (hstored _).others _ (CsrView.register_ne_mhartid hcsr), fun h => absurd h hcsr,
      rfl, rfl, rfl, fun hform hzero => (hstored _).eq_self ?_, rfl, (csrWrite_frame ..).2.1,
      (csrWrite_frame ..).2.2, rfl⟩
    rw [hzero, CsrForm.update_zero hform, CsrView.csrRead_eq m.cpu]

omit [Host] in
/-- `csrrw a0, sstatus, a0` on a machine out of reset. -/
theorem execute_csr_swap :
    ∃ m', @Machine.execute .dev (.new 0x10051573) ⟨Cpu.new 0, .new .detached⟩ = .ok () m' ∧
      CsrExecuted .write false (.new 0x10051573) ⟨Cpu.new 0, .new .detached⟩ m' :=
  @execute_csr .dev (.new 0x10051573) .write false (by decide) (by decide) _

end Riscvm.Rv64rs
