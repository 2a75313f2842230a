import Riscvm.Rv64rs.Execute

/-!
# Execution of 16-bit instructions

`rvc.rs`: the scattered immediates of the compressed formats and the execution of
a compressed word.
-/

namespace Riscvm.Rv64rs

open Bits Exec Machine

/-- `section`: bits `[pos + nbits - 1 : pos]` of `x`. -/
def bits (x : U16) (pos nbits : Nat) : U32 := (x.setWidth 32 >>> pos) &&& (bit nbits - 1)

theorem bits_eq (x : U16) {pos nbits : Nat} (h : nbits ≤ 32) :
    bits x pos nbits = (x.extractLsb' pos nbits).setWidth 32 := by
  ext j hj
  rw [bits, BitVec.getElem_and, getElem_mask h]
  simp
  grind

structure CInstruction where
  value : U16
  deriving DecidableEq

namespace CInstruction

variable {σ : Type} (instr : CInstruction)

def new (value : U16) : CInstruction := ⟨value⟩

def op : U32 := bits instr.value 0 2
def rd : BitVec 5 := (bits instr.value 7 5).setWidth 5
def rs1 : BitVec 5 := instr.rd
def rs2 : BitVec 5 := (bits instr.value 2 5).setWidth 5
def rs1Prime : BitVec 5 := (bits instr.value 7 3).setWidth 5 + 8
def rs2Prime : BitVec 5 := (bits instr.value 2 3).setWidth 5 + 8
def funct3 : U32 := bits instr.value 13 3
def funct6 : U32 := bits instr.value 10 6
def funct2 : U32 := bits instr.value 5 2
def bit12 : U32 := bits instr.value 12 1

def nzError {α : Type} : Call σ α := error .zeroImmediate

def nz (v : U64) : Call σ U64 := if v = 0 then nzError else pure v

def uimm5_0 : U32 := (bits instr.value 12 1 <<< 5) ||| bits instr.value 2 5

/-- LI, ADDIW, ANDI: zero is a valid value. -/
def imm5_0 : U64 := sext instr.uimm5_0 6

/-- The same bits, with zero reserved. -/
def nzimm5_0 : Call σ U64 := nz instr.imm5_0

/-- The shift amount of SLLI, SRLI and SRAI: zero is reserved. -/
def shamt : Call σ U32 := if instr.uimm5_0 = 0 then nzError else pure instr.uimm5_0

def uimm9_2 : U32 :=
  (bits instr.value 11 2 <<< 4) ||| (bits instr.value 7 4 <<< 6) |||
    (bits instr.value 6 1 <<< 2) ||| (bits instr.value 5 1 <<< 3)

def nzuimm9_2 : Call σ U32 := if instr.uimm9_2 = 0 then nzError else pure instr.uimm9_2

def nzimm9_4 : Call σ U64 :=
  nz (sext ((bits instr.value 12 1 <<< 9) ||| (bits instr.value 6 1 <<< 4) |||
    (bits instr.value 5 1 <<< 6) ||| (bits instr.value 3 2 <<< 7) |||
    (bits instr.value 2 1 <<< 5)) 10)

def offset6_2 : U32 :=
  (bits instr.value 10 3 <<< 3) ||| (bits instr.value 6 1 <<< 2) ||| (bits instr.value 5 1 <<< 6)

def offset7_3 : U32 := (bits instr.value 10 3 <<< 3) ||| (bits instr.value 5 2 <<< 6)

def offset8_1 : U64 :=
  sext ((bits instr.value 12 1 <<< 8) ||| (bits instr.value 10 2 <<< 3) |||
    (bits instr.value 5 2 <<< 6) ||| (bits instr.value 3 2 <<< 1) |||
    (bits instr.value 2 1 <<< 5)) 9

def offset8_3Ldsp : U32 :=
  (bits instr.value 12 1 <<< 5) ||| (bits instr.value 5 2 <<< 3) ||| (bits instr.value 2 3 <<< 6)

def offset8_3Sdsp : U32 := (bits instr.value 10 3 <<< 3) ||| (bits instr.value 7 3 <<< 6)

def offset11_1 : U64 :=
  sext ((bits instr.value 12 1 <<< 11) ||| (bits instr.value 11 1 <<< 4) |||
    (bits instr.value 9 2 <<< 8) ||| (bits instr.value 8 1 <<< 10) |||
    (bits instr.value 7 1 <<< 6) ||| (bits instr.value 6 1 <<< 7) |||
    (bits instr.value 3 3 <<< 1) ||| (bits instr.value 2 1 <<< 5)) 12

end CInstruction

namespace Rvc

variable [Host]

/-- `cpu.illegal_c_instruction`. -/
def illegalCInstruction {α : Type} (instr : CInstruction) : Call Machine α := do
  error (.illegalCInstruction instr.value (← get).cpu.pc)

/-- Quadrant 0. -/
def executeQ0 (instr : CInstruction) (defaultNext : U64) : Call Machine U64 := do
  match instr.funct3 with
  | 0b000#32 => -- C.ADDI4SPN
      let imm ← instr.nzuimm9_2
      let sp ← readReg 2
      writeReg instr.rs2Prime (sp + imm.setWidth 64)
      return defaultNext
  | 0b010#32 => -- C.LW
      let addr := (← readReg instr.rs1Prime) + instr.offset6_2.setWidth 64
      let v ← read addr 4
      writeReg instr.rs2Prime (sext (v.setWidth 32) 32)
      return defaultNext
  | 0b011#32 => -- C.LD
      let addr := (← readReg instr.rs1Prime) + instr.offset7_3.setWidth 64
      let v ← read addr 8
      writeReg instr.rs2Prime v
      return defaultNext
  | 0b110#32 => -- C.SW
      let addr := (← readReg instr.rs1Prime) + instr.offset6_2.setWidth 64
      write addr 4 (← readReg instr.rs2Prime)
      return defaultNext
  | 0b111#32 => -- C.SD
      let addr := (← readReg instr.rs1Prime) + instr.offset7_3.setWidth 64
      write addr 8 (← readReg instr.rs2Prime)
      return defaultNext
  | _ => illegalCInstruction instr

/-- Quadrant 1, funct3 `100`: the register-register and shift group. -/
def executeQ1Alu (instr : CInstruction) (defaultNext : U64) : Call Machine U64 := do
  match instr.funct6 &&& 0b11 with
  | 0b00#32 => -- C.SRLI
      let shamt ← instr.shamt
      let r := instr.rs1Prime
      writeReg r ((← readReg r) >>> shamt.toNat)
      return defaultNext
  | 0b01#32 => -- C.SRAI
      let shamt ← instr.shamt
      let r := instr.rs1Prime
      writeReg r ((← readReg r).sshiftRight shamt.toNat)
      return defaultNext
  | 0b10#32 => -- C.ANDI
      let r := instr.rs1Prime
      writeReg r ((← readReg r) &&& instr.imm5_0)
      return defaultNext
  | _ =>
      let r1 := instr.rs1Prime
      let a ← readReg r1
      let b ← readReg instr.rs2Prime
      if instr.funct6 &&& 0b100 = 0 then
        match instr.funct2 with
        | 0b00#32 => writeReg r1 (a - b)                    -- C.SUB
        | 0b01#32 => writeReg r1 (a ^^^ b)                  -- C.XOR
        | 0b10#32 => writeReg r1 (a ||| b)                  -- C.OR
        | _ => writeReg r1 (a &&& b)                        -- C.AND
        return defaultNext
      else
        let a32 : U32 := a.setWidth 32
        let b32 : U32 := b.setWidth 32
        match instr.funct2 with
        | 0b00#32 => -- C.SUBW
            writeReg r1 ((a32 - b32).signExtend 64)
            return defaultNext
        | 0b01#32 => -- C.ADDW
            writeReg r1 ((a32 + b32).signExtend 64)
            return defaultNext
        | _ => illegalCInstruction instr

/-- Quadrant 1. -/
def executeQ1 (instr : CInstruction) (pc defaultNext : U64) : Call Machine U64 := do
  match instr.funct3 with
  | 0b000#32 => -- C.ADDI and C.NOP
      let imm := instr.imm5_0
      let rd := instr.rd
      writeReg rd ((← readReg rd) + imm)
      return defaultNext
  | 0b001#32 => -- C.ADDIW
      let rd := instr.rd
      if rd = 0 then illegalCInstruction instr
      else
        let a : U32 := (← readReg rd).setWidth 32
        let out := a + instr.imm5_0.setWidth 32
        writeReg rd (out.signExtend 64)
        return defaultNext
  | 0b010#32 => -- C.LI
      let rd := instr.rd
      if rd = 0 then illegalCInstruction instr
      else
        writeReg rd instr.imm5_0
        return defaultNext
  | 0b011#32 =>
      if instr.rd = 2 then -- C.ADDI16SP
        let imm ← instr.nzimm9_4
        let sp ← readReg 2
        writeReg 2 (sp + imm)
        return defaultNext
      else -- C.LUI
        let rd := instr.rd
        if rd = 0 ∨ rd = 2 then illegalCInstruction instr
        else
          let imm ← instr.nzimm5_0
          writeReg rd (imm <<< 12)
          return defaultNext
  | 0b100#32 => executeQ1Alu instr defaultNext
  | 0b101#32 => return pc + instr.offset11_1 -- C.J
  | 0b110#32 => -- C.BEQZ
      let taken := (← readReg instr.rs1Prime) = 0
      return if taken then pc + instr.offset8_1 else defaultNext
  | _ => -- C.BNEZ
      let taken := (← readReg instr.rs1Prime) ≠ 0
      return if taken then pc + instr.offset8_1 else defaultNext

/-- Quadrant 2, funct3 `100`: the moves, additions and register jumps. -/
def executeQ2Move (instr : CInstruction) (pc defaultNext : U64) : Call Machine U64 := do
  if instr.bit12 = 0 then
    if instr.rs2 ≠ 0 then -- C.MV
      let rs1 := instr.rs1
      if rs1 = 0 then illegalCInstruction instr
      else
        writeReg rs1 (← readReg instr.rs2)
        return defaultNext
    else -- C.JR
      let rs1 := instr.rs1
      if rs1 = 0 then illegalCInstruction instr
      else readReg rs1
  else if instr.rs2 ≠ 0 then -- C.ADD
    let rd := instr.rd
    if rd = 0 then illegalCInstruction instr
    else
      writeReg rd ((← readReg rd) + (← readReg instr.rs2))
      return defaultNext
  else if instr.rs1 ≠ 0 then -- C.JALR
    let target ← readReg instr.rs1
    writeReg 1 (pc + 2)
    return target
  else illegalCInstruction instr -- C.EBREAK

/-- Quadrant 2. -/
def executeQ2 (instr : CInstruction) (pc defaultNext : U64) : Call Machine U64 := do
  match instr.funct3 with
  | 0b000#32 => -- C.SLLI
      let shamt ← instr.shamt
      let rd := instr.rd
      writeReg rd ((← readReg rd) <<< shamt.toNat)
      return defaultNext
  | 0b011#32 => -- C.LDSP
      let rd := instr.rd
      if rd = 0 then illegalCInstruction instr
      else
        let addr := (← readReg 2) + instr.offset8_3Ldsp.setWidth 64
        let v ← read addr 8
        writeReg rd v
        return defaultNext
  | 0b100#32 => executeQ2Move instr pc defaultNext
  | 0b111#32 => -- C.SDSP
      let addr := (← readReg 2) + instr.offset8_3Sdsp.setWidth 64
      write addr 8 (← readReg instr.rs2)
      return defaultNext
  | _ => illegalCInstruction instr

/-- `rvc::execute`: the next pc, sequentially `pc + 2`. -/
def execute (instr : CInstruction) : Call Machine U64 := do
  let pc := (← get).cpu.pc
  let defaultNext := pc + 2
  match instr.op with
  | 0b00#32 => executeQ0 instr defaultNext
  | 0b01#32 => executeQ1 instr pc defaultNext
  | 0b10#32 => executeQ2 instr pc defaultNext
  | _ => illegalCInstruction instr

end Rvc

/-- `Cpu::execute_compressed`. -/
def Machine.executeCompressed [Host] (instr : CInstruction) : Call Machine Unit := do
  let nextPc ← Rvc.execute instr
  modifyCpu fun cpu => { cpu with pc := nextPc }

end Riscvm.Rv64rs
