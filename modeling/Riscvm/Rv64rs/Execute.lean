import Riscvm.Rv64rs.Mmu
import Riscvm.Rv64rs.Decode

/-!
# Execution of 32-bit instructions

`execute.rs`. The results of the arithmetic opcodes are functions of the operands,
`none` where the source has no case. `execute` fixes the sequential next pc to
`pc + 4`; the body, `executeFrom`, takes it as an argument.
-/

namespace Riscvm.Rv64rs

open Exec Machine

namespace Execute

/-- `(((value << shift) as i64) >> shift) as u64` with `shift = 64 - bits`. -/
def sext64 (value : U64) (bits : Nat) : U64 :=
  (value <<< (64 - bits)).sshiftRight (64 - bits)

/-- The double shift is the sign extension of the low bits. -/
theorem sext64_eq {value : U64} {bits : Nat} (pos : 0 < bits) (le : bits ≤ 64) :
    sext64 value bits = (value.setWidth bits).signExtend 64 := by
  unfold sext64
  apply BitVec.eq_of_getLsbD_eq
  intro i hi
  simp only [BitVec.getLsbD_signExtend, BitVec.getLsbD_sshiftRight, BitVec.getLsbD_shiftLeft,
    BitVec.msb_eq_getLsbD_last, BitVec.getLsbD_setWidth]
  grind

/-- `(condition) as u64`. -/
def ofBool (condition : Bool) : U64 := if condition then 1 else 0

/-- OP-IMM. -/
def opImm (instr : Instruction) (a : U64) : U64 :=
  match instr.funct3 with
  | 0x0#3 => a + instr.immI                                 -- ADDI
  | 0x2#3 => ofBool (a.slt instr.immI)                      -- SLTI
  | 0x3#3 => ofBool (a.ult instr.immI)                      -- SLTIU
  | 0x4#3 => a ^^^ instr.immI                               -- XORI
  | 0x6#3 => a ||| instr.immI                               -- ORI
  | 0x7#3 => a &&& instr.immI                               -- ANDI
  | 0x1#3 => a <<< instr.shamt.toNat                        -- SLLI
  | _ =>
      if instr.funct7 &&& 0x20 ≠ 0 then a.sshiftRight instr.shamt.toNat -- SRAI
      else a >>> instr.shamt.toNat                          -- SRLI

theorem opImm_add {instr : Instruction} (h3 : instr.funct3 = 0) (a : U64) :
    opImm instr a = a + instr.immI := by
  unfold opImm
  simp only [h3]
  rfl

theorem opImm_srl {instr : Instruction} (h3 : instr.funct3 = 5)
    (h7 : instr.funct7 &&& 0x20 = 0) (a : U64) : opImm instr a = a >>> instr.shamt.toNat := by
  unfold opImm
  simp only [h3, h7]
  rfl

theorem opImm_sra {instr : Instruction} (h3 : instr.funct3 = 5)
    (h7 : instr.funct7 &&& 0x20 ≠ 0) (a : U64) :
    opImm instr a = a.sshiftRight instr.shamt.toNat := by
  unfold opImm
  simp only [h3]
  exact if_pos h7

/-- OP-IMM-32, before the sign extension of the 32-bit result. -/
def opImm32 (instr : Instruction) (a : U32) : Option U32 :=
  let shamt32 := (instr.shamt.setWidth 5).toNat
  match instr.funct3 with
  | 0x0#3 => some (a + instr.immI.setWidth 32)              -- ADDIW
  | 0x1#3 => some (a <<< shamt32)                           -- SLLIW
  | 0x5#3 =>
      some (if instr.funct7 &&& 0x20 ≠ 0 then a.sshiftRight shamt32 -- SRAIW
        else a >>> shamt32)                                 -- SRLIW
  | _ => none

/-- DIV and DIVW: -1 on division by zero, the dividend on overflow. -/
def divSigned {w : Nat} (a b : BitVec w) : BitVec w :=
  if b = 0 then -1
  else if a = BitVec.intMin w ∧ b = -1 then a
  else a.sdiv b

/-- REM and REMW: the dividend on division by zero, 0 on overflow. -/
def remSigned {w : Nat} (a b : BitVec w) : BitVec w :=
  if b = 0 then a
  else if a = BitVec.intMin w ∧ b = -1 then 0
  else a.srem b

/-- DIVU and DIVUW. -/
def divUnsigned {w : Nat} (a b : BitVec w) : BitVec w := if b = 0 then -1 else a / b

/-- REMU and REMUW. -/
def remUnsigned {w : Nat} (a b : BitVec w) : BitVec w := if b = 0 then a else a % b

/-- OP, with the M extension. -/
def op (funct3 : BitVec 3) (funct7 : BitVec 7) (a b : U64) : Option U64 :=
  match funct3, funct7 with
  | 0x0#3, 0x00#7 => some (a + b)                           -- ADD
  | 0x0#3, 0x20#7 => some (a - b)                           -- SUB
  | 0x1#3, 0x00#7 => some (a <<< (b &&& 0x3f))              -- SLL
  | 0x2#3, 0x00#7 => some (ofBool (a.slt b))                -- SLT
  | 0x3#3, 0x00#7 => some (ofBool (a.ult b))                -- SLTU
  | 0x4#3, 0x00#7 => some (a ^^^ b)                         -- XOR
  | 0x5#3, 0x00#7 => some (a >>> (b &&& 0x3f))              -- SRL
  | 0x5#3, 0x20#7 => some (a.sshiftRight' (b &&& 0x3f))     -- SRA
  | 0x6#3, 0x00#7 => some (a ||| b)                         -- OR
  | 0x7#3, 0x00#7 => some (a &&& b)                         -- AND
  | 0x0#3, 0x01#7 => some (a * b)                           -- MUL
  | 0x1#3, 0x01#7 =>                                        -- MULH
      some (((a.signExtend 128 * b.signExtend 128).sshiftRight 64).setWidth 64)
  | 0x2#3, 0x01#7 =>                                        -- MULHSU
      some (((a.signExtend 128 * b.setWidth 128).sshiftRight 64).setWidth 64)
  | 0x3#3, 0x01#7 =>                                        -- MULHU
      some (((a.setWidth 128 * b.setWidth 128) >>> 64).setWidth 64)
  | 0x4#3, 0x01#7 => some (divSigned a b)                   -- DIV
  | 0x5#3, 0x01#7 => some (divUnsigned a b)                 -- DIVU
  | 0x6#3, 0x01#7 => some (remSigned a b)                   -- REM
  | 0x7#3, 0x01#7 => some (remUnsigned a b)                 -- REMU
  | _, _ => none

/-- OP-32, before the sign extension of the 32-bit result. -/
def op32 (funct3 : BitVec 3) (funct7 : BitVec 7) (a b : U32) : Option U32 :=
  match funct3, funct7 with
  | 0x0#3, 0x00#7 => some (a + b)                           -- ADDW
  | 0x0#3, 0x20#7 => some (a - b)                           -- SUBW
  | 0x1#3, _ => some (a <<< (b &&& 0x1f))                   -- SLLW
  | 0x5#3, 0x00#7 => some (a >>> (b &&& 0x1f))              -- SRLW
  | 0x5#3, 0x20#7 => some (a.sshiftRight' (b &&& 0x1f))     -- SRAW
  | 0x0#3, 0x01#7 => some (a * b)                           -- MULW
  | 0x4#3, 0x01#7 => some (divSigned a b)                   -- DIVW
  | 0x5#3, 0x01#7 => some (divUnsigned a b)                 -- DIVUW
  | 0x6#3, 0x01#7 => some (remSigned a b)                   -- REMW
  | 0x7#3, 0x01#7 => some (remUnsigned a b)                 -- REMUW
  | _, _ => none

/-- The condition of a BRANCH. -/
def branchTaken (funct3 : BitVec 3) (a b : U64) : Option Bool :=
  match funct3 with
  | 0x0#3 => some (a == b)                                  -- BEQ
  | 0x1#3 => some (a != b)                                  -- BNE
  | 0x4#3 => some (a.slt b)                                 -- BLT
  | 0x5#3 => some (!a.slt b)                                -- BGE
  | 0x6#3 => some (a.ult b)                                 -- BLTU
  | 0x7#3 => some (!a.ult b)                                -- BGEU
  | _ => none

/-- `mstatus` after SRET. -/
def leaveS (sstatus : U64) : U64 :=
  let spie := sstatus &&& Trap.MSTATUS_SPIE ≠ 0
  let sstatus := (sstatus &&& ~~~Trap.MSTATUS_SIE) ||| (if spie then Trap.MSTATUS_SIE else 0)
  let sstatus := sstatus ||| Trap.MSTATUS_SPIE
  sstatus &&& ~~~Trap.MSTATUS_SPP

/-- `mstatus` after MRET. -/
def leaveM (mstatus : U64) : U64 :=
  let mpie := mstatus &&& Trap.MSTATUS_MPIE ≠ 0
  let mstatus := (mstatus &&& ~~~Trap.MSTATUS_MIE) ||| (if mpie then Trap.MSTATUS_MIE else 0)
  let mstatus := mstatus ||| Trap.MSTATUS_MPIE
  mstatus &&& ~~~Trap.MSTATUS_MPP

variable [Host]

/-- `cpu.illegal_instruction`. -/
def illegalInstruction {α : Type} (instr : Instruction) : Call Machine α := do
  error (.illegalInstruction (instr.opcode.setWidth 32) instr.value (← get).cpu.pc)

/-- LOAD: the value for `rd`. -/
def load (instr : Instruction) (addr : U64) : Call Machine U64 := do
  match instr.funct3 with
  | 0x0#3 => return sext64 (← read addr 1) 8                -- LB
  | 0x1#3 => return sext64 (← read addr 2) 16               -- LH
  | 0x2#3 => return sext64 (← read addr 4) 32               -- LW
  | 0x3#3 => read addr 8                                    -- LD
  | 0x4#3 => read addr 1                                    -- LBU
  | 0x5#3 => read addr 2                                    -- LHU
  | 0x6#3 => read addr 4                                    -- LWU
  | _ => illegalInstruction instr

/-- STORE. -/
def store (instr : Instruction) (addr value : U64) : Call Machine Unit := do
  match instr.funct3 with
  | 0x0#3 => write addr 1 value                             -- SB
  | 0x1#3 => write addr 2 value                             -- SH
  | 0x2#3 => write addr 4 value                             -- SW
  | 0x3#3 => write addr 8 value                             -- SD
  | _ => illegalInstruction instr

/-- The CSR instructions: `rd` gets the old value and the CSR `update` of it. -/
def csrAccess (instr : Instruction) (update : (old : U64) → U64) : Call Machine Unit := do
  let old := Trap.csrRead (← get).cpu (instr.csr.setWidth 32)
  writeReg instr.rd old
  modifyCpu fun cpu => Trap.csrWrite cpu (instr.csr.setWidth 32) (update old)

def executeSystem (instr : Instruction) (defaultNext : U64) : Call Machine U64 := do
  -- the register is read before `rd` is written, in case they are the same
  let rs1Value ← readReg instr.rs1
  let imm : U64 := instr.rs1.setWidth 64
  match instr.funct3 with
  | 0x1#3 => csrAccess instr (fun _ => rs1Value); return defaultNext             -- CSRRW
  | 0x2#3 => csrAccess instr (fun old => old ||| rs1Value); return defaultNext   -- CSRRS
  | 0x3#3 => csrAccess instr (fun old => old &&& ~~~rs1Value); return defaultNext -- CSRRC
  | 0x5#3 => csrAccess instr (fun _ => imm); return defaultNext                  -- CSRRWI
  | 0x6#3 => csrAccess instr (fun old => old ||| imm); return defaultNext        -- CSRRSI
  | 0x7#3 => csrAccess instr (fun old => old &&& ~~~imm); return defaultNext     -- CSRRCI
  | 0x0#3 =>
      match instr.funct7, instr.rs2 with
      | 0b0000000#7, 0b00000#5 =>                           -- ECALL
          let cause : U64 := 8 + (← get).cpu.mode.setWidth 64
          onCpu (Trap.raiseTrap cause false 0)
      | 0b0001000#7, 0b00010#5 =>                           -- SRET
          let cpu := (← get).cpu
          let sstatus := cpu.csrs.get Csr.MSTATUS
          let spp := (sstatus &&& Trap.MSTATUS_SPP) >>> 8
          modifyCpu fun cpu =>
            { cpu with
              csrs := cpu.csrs.insert Csr.MSTATUS (leaveS sstatus)
              mode := spp.setWidth 8 }
          return (← get).cpu.csrs.get Csr.SEPC
      | 0b0001000#7, 0b00101#5 => return defaultNext        -- WFI
      | 0b0001001#7, _ =>                                   -- SFENCE.VMA
          modifyCpu fun cpu => { cpu with tlb := cpu.tlb.flush }
          return defaultNext
      | 0b0011000#7, _ =>                                   -- MRET
          let cpu := (← get).cpu
          let mstatus := cpu.csrs.get Csr.MSTATUS
          let mpp := (mstatus &&& Trap.MSTATUS_MPP) >>> 11
          modifyCpu fun cpu =>
            { cpu with
              csrs := cpu.csrs.insert Csr.MSTATUS (leaveM mstatus)
              mode := mpp.setWidth 8 }
          return (← get).cpu.csrs.get Csr.MEPC
      | _, _ => illegalInstruction instr
  | _ => illegalInstruction instr

/-- The body of `execute`: the next pc, sequentially `defaultNext`. -/
def executeFrom (defaultNext : U64) (instr : Instruction) : Call Machine U64 := do
  let pc := (← get).cpu.pc
  let rs1 ← readReg instr.rs1
  let rs2 ← readReg instr.rs2
  match instr.opcode with
  | 0x03#7 => -- OPCODE_LOAD
      writeReg instr.rd (← load instr (rs1 + instr.immI))
      return defaultNext
  | 0x23#7 => -- OPCODE_STORE
      store instr (rs1 + instr.immS) rs2
      return defaultNext
  | 0x37#7 => -- OPCODE_LUI
      writeReg instr.rd instr.immU
      return defaultNext
  | 0x17#7 => -- OPCODE_AUIPC
      writeReg instr.rd (pc + instr.immU)
      return defaultNext
  | 0x6f#7 => -- OPCODE_JAL
      writeReg instr.rd defaultNext
      return pc + instr.immJ
  | 0x67#7 => -- OPCODE_JALR
      let target := (rs1 + instr.immI) &&& ~~~1
      writeReg instr.rd defaultNext
      return target
  | 0x63#7 => -- OPCODE_BRANCH
      match branchTaken instr.funct3 rs1 rs2 with
      | some taken => return if taken then pc + instr.immB else defaultNext
      | none => illegalInstruction instr
  | 0x13#7 => -- OPCODE_OP_IMM
      writeReg instr.rd (opImm instr rs1)
      return defaultNext
  | 0x1b#7 => -- OPCODE_OP_IMM_32
      match opImm32 instr (rs1.setWidth 32) with
      | some out32 =>
          writeReg instr.rd (out32.signExtend 64)
          return defaultNext
      | none => illegalInstruction instr
  | 0x33#7 => -- OPCODE_OP
      match op instr.funct3 instr.funct7 rs1 rs2 with
      | some out =>
          writeReg instr.rd out
          return defaultNext
      | none => illegalInstruction instr
  | 0x3b#7 => -- OPCODE_OP_32
      match op32 instr.funct3 instr.funct7 (rs1.setWidth 32) (rs2.setWidth 32) with
      | some out32 =>
          writeReg instr.rd (out32.signExtend 64)
          return defaultNext
      | none => illegalInstruction instr
  | 0x0f#7 => return defaultNext -- OPCODE_MISC_MEM
  | 0x73#7 => executeSystem instr defaultNext -- OPCODE_SYSTEM
  | 0x2f#7 => -- OPCODE_AMO: only AMOSWAP.W
      if instr.funct3 = 0x2 ∧ instr.funct7 >>> 2 = 0b00001 then
        let old := sext64 (← read rs1 4) 32
        write rs1 4 rs2
        writeReg instr.rd old
        return defaultNext
      else illegalInstruction instr
  | _ => illegalInstruction instr

theorem load_lw {instr : Instruction} (h : instr.funct3 = 2) (addr : U64) :
    load instr addr = (do return sext64 (← read addr 4) 32) := by
  unfold load
  simp only [h]
  rfl

/-! One equation for each opcode of the computational instructions. -/

section Opcodes

variable {instr : Instruction} (next : U64) (m : Machine)

theorem executeFrom_load (h : instr.opcode = 0x03) :
    executeFrom next instr m = (do
      writeReg instr.rd (← load instr (m.cpu.regs.read instr.rs1 + instr.immI))
      return next) m := by
  unfold executeFrom
  simp only [h]
  rfl

theorem executeFrom_store (h : instr.opcode = 0x23) :
    executeFrom next instr m = (do
      store instr (m.cpu.regs.read instr.rs1 + instr.immS) (m.cpu.regs.read instr.rs2)
      return next) m := by
  unfold executeFrom
  simp only [h]
  rfl

theorem executeFrom_lui (h : instr.opcode = 0x37) :
    executeFrom next instr m = (do
      writeReg instr.rd instr.immU
      return next) m := by
  unfold executeFrom
  simp only [h]
  rfl

theorem executeFrom_jal (h : instr.opcode = 0x6f) :
    executeFrom next instr m = (do
      writeReg instr.rd next
      return m.cpu.pc + instr.immJ) m := by
  unfold executeFrom
  simp only [h]
  rfl

theorem executeFrom_jalr (h : instr.opcode = 0x67) :
    executeFrom next instr m = (do
      writeReg instr.rd next
      return (m.cpu.regs.read instr.rs1 + instr.immI) &&& ~~~1) m := by
  unfold executeFrom
  simp only [h]
  rfl

theorem executeFrom_branch (h : instr.opcode = 0x63) {taken : Bool}
    (hb : branchTaken instr.funct3 (m.cpu.regs.read instr.rs1) (m.cpu.regs.read instr.rs2) =
      some taken) :
    executeFrom next instr m = .ok (if taken then m.cpu.pc + instr.immB else next) m := by
  unfold executeFrom
  simp only [h]
  rw [get_bind_apply, bind_ok (readReg_apply _ _), bind_ok (readReg_apply _ _), hb]
  rfl

theorem executeFrom_opImm (h : instr.opcode = 0x13) :
    executeFrom next instr m = (do
      writeReg instr.rd (opImm instr (m.cpu.regs.read instr.rs1))
      return next) m := by
  unfold executeFrom
  simp only [h]
  rfl

theorem executeFrom_opImm32 (h : instr.opcode = 0x1b) {out : U32}
    (ho : opImm32 instr ((m.cpu.regs.read instr.rs1).setWidth 32) = some out) :
    executeFrom next instr m = (do
      writeReg instr.rd (out.signExtend 64)
      return next) m := by
  unfold executeFrom
  simp only [h]
  rw [get_bind_apply, bind_ok (readReg_apply _ _), bind_ok (readReg_apply _ _), ho]
  rfl

theorem executeFrom_op (h : instr.opcode = 0x33) {out : U64}
    (ho : op instr.funct3 instr.funct7 (m.cpu.regs.read instr.rs1) (m.cpu.regs.read instr.rs2) =
      some out) :
    executeFrom next instr m = (do
      writeReg instr.rd out
      return next) m := by
  unfold executeFrom
  simp only [h]
  rw [get_bind_apply, bind_ok (readReg_apply _ _), bind_ok (readReg_apply _ _), ho]
  rfl

theorem executeFrom_op32 (h : instr.opcode = 0x3b) {out : U32}
    (ho : op32 instr.funct3 instr.funct7 ((m.cpu.regs.read instr.rs1).setWidth 32)
      ((m.cpu.regs.read instr.rs2).setWidth 32) = some out) :
    executeFrom next instr m = (do
      writeReg instr.rd (out.signExtend 64)
      return next) m := by
  unfold executeFrom
  simp only [h]
  rw [get_bind_apply, bind_ok (readReg_apply _ _), bind_ok (readReg_apply _ _), ho]
  rfl

end Opcodes

def execute (instr : Instruction) : Call Machine U64 := do
  executeFrom ((← get).cpu.pc + 4) instr

end Execute

/-- `Cpu::execute`: run the instruction and commit the next pc. -/
def Machine.execute [Host] (instr : Instruction) : Call Machine Unit := do
  let nextPc ← Execute.execute instr
  modifyCpu fun cpu => { cpu with pc := nextPc }

end Riscvm.Rv64rs
