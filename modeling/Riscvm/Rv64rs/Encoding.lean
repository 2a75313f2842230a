import Riscvm.Rv64rs.Decode

/-!
# The base instruction formats

The six 32-bit formats as concatenations of their fields, most significant first,
and what `Instruction.new` reads out of each. Branch and jump offsets are given
without their lowest bit, which is always zero.
-/

namespace Riscvm.Rv64rs

namespace Encoding

open BitVec

variable (funct7 : BitVec 7) (rs2 rs1 : BitVec 5) (funct3 : BitVec 3) (rd : BitVec 5)
variable (opcode : BitVec 7)

def rType : U32 := funct7 ++ rs2 ++ rs1 ++ funct3 ++ rd ++ opcode

def iType (imm : BitVec 12) : U32 := imm ++ rs1 ++ funct3 ++ rd ++ opcode

def sType (imm : BitVec 12) : U32 :=
  imm.extractLsb' 5 7 ++ rs2 ++ rs1 ++ funct3 ++ imm.extractLsb' 0 5 ++ opcode

/-- `imm` holds bits 12 to 1 of the offset. -/
def bType (imm : BitVec 12) : U32 :=
  imm.extractLsb' 11 1 ++ imm.extractLsb' 4 6 ++ rs2 ++ rs1 ++ funct3 ++ imm.extractLsb' 0 4 ++
    imm.extractLsb' 10 1 ++ opcode

def uType (imm : BitVec 20) : U32 := imm ++ rd ++ opcode

/-- `imm` holds bits 20 to 1 of the offset. -/
def jType (imm : BitVec 20) : U32 :=
  imm.extractLsb' 19 1 ++ imm.extractLsb' 0 10 ++ imm.extractLsb' 10 1 ++ imm.extractLsb' 11 8 ++
    rd ++ opcode

@[simp] theorem new_rType :
    (Instruction.new (rType funct7 rs2 rs1 funct3 rd opcode)).opcode = opcode ∧
    (Instruction.new (rType funct7 rs2 rs1 funct3 rd opcode)).rd = rd ∧
    (Instruction.new (rType funct7 rs2 rs1 funct3 rd opcode)).rs1 = rs1 ∧
    (Instruction.new (rType funct7 rs2 rs1 funct3 rd opcode)).rs2 = rs2 ∧
    (Instruction.new (rType funct7 rs2 rs1 funct3 rd opcode)).funct3 = funct3 ∧
    (Instruction.new (rType funct7 rs2 rs1 funct3 rd opcode)).funct7 = funct7 := by
  refine ⟨?_, ?_, ?_, ?_, ?_, ?_⟩
  all_goals
    ext j hj
    simp only [Instruction.new, rType, getElem_setWidth, getLsbD_ushiftRight, getLsbD_append]
    grind

/-- A shift immediate has its amount in the low part of `imm`. -/
@[simp] theorem new_iType (imm : BitVec 12) :
    (Instruction.new (iType rs1 funct3 rd opcode imm)).opcode = opcode ∧
    (Instruction.new (iType rs1 funct3 rd opcode imm)).rd = rd ∧
    (Instruction.new (iType rs1 funct3 rd opcode imm)).rs1 = rs1 ∧
    (Instruction.new (iType rs1 funct3 rd opcode imm)).funct3 = funct3 ∧
    (Instruction.new (iType rs1 funct3 rd opcode imm)).shamt = imm.setWidth 6 ∧
    (Instruction.new (iType rs1 funct3 rd opcode imm)).funct7 = imm.extractLsb' 5 7 := by
  refine ⟨?_, ?_, ?_, ?_, ?_, ?_⟩
  all_goals
    ext j hj
    simp only [Instruction.new, iType, getElem_setWidth, getLsbD_ushiftRight, getLsbD_append]
    grind

@[simp] theorem new_sType (imm : BitVec 12) :
    (Instruction.new (sType rs2 rs1 funct3 opcode imm)).opcode = opcode ∧
    (Instruction.new (sType rs2 rs1 funct3 opcode imm)).rs1 = rs1 ∧
    (Instruction.new (sType rs2 rs1 funct3 opcode imm)).rs2 = rs2 ∧
    (Instruction.new (sType rs2 rs1 funct3 opcode imm)).funct3 = funct3 := by
  refine ⟨?_, ?_, ?_, ?_⟩
  all_goals
    ext j hj
    simp only [Instruction.new, sType, getElem_setWidth, getLsbD_ushiftRight, getLsbD_append]
    grind

@[simp] theorem new_bType (imm : BitVec 12) :
    (Instruction.new (bType rs2 rs1 funct3 opcode imm)).opcode = opcode ∧
    (Instruction.new (bType rs2 rs1 funct3 opcode imm)).rs1 = rs1 ∧
    (Instruction.new (bType rs2 rs1 funct3 opcode imm)).rs2 = rs2 ∧
    (Instruction.new (bType rs2 rs1 funct3 opcode imm)).funct3 = funct3 := by
  refine ⟨?_, ?_, ?_, ?_⟩
  all_goals
    ext j hj
    simp only [Instruction.new, bType, getElem_setWidth, getLsbD_ushiftRight, getLsbD_append]
    grind

@[simp] theorem new_uType (imm : BitVec 20) :
    (Instruction.new (uType rd opcode imm)).opcode = opcode ∧
    (Instruction.new (uType rd opcode imm)).rd = rd := by
  refine ⟨?_, ?_⟩
  all_goals
    ext j hj
    simp only [Instruction.new, uType, getElem_setWidth, getLsbD_ushiftRight, getLsbD_append]
    grind

@[simp] theorem new_jType (imm : BitVec 20) :
    (Instruction.new (jType rd opcode imm)).opcode = opcode ∧
    (Instruction.new (jType rd opcode imm)).rd = rd := by
  refine ⟨?_, ?_⟩
  all_goals
    ext j hj
    simp only [Instruction.new, jType, getElem_setWidth, getLsbD_ushiftRight, getLsbD_append]
    grind

@[simp] theorem iType_immI (imm : BitVec 12) :
    (Instruction.new (iType rs1 funct3 rd opcode imm)).immI = imm.signExtend 64 := by
  have hbits : (iType rs1 funct3 rd opcode imm >>> 20).setWidth 12 = imm := by
    ext j hj
    simp only [iType, getElem_setWidth, getLsbD_ushiftRight, getLsbD_append]
    grind
  exact (sext_eq (by decide) (by decide)).trans (congrArg (signExtend 64) hbits)

@[simp] theorem sType_immS (imm : BitVec 12) :
    (Instruction.new (sType rs2 rs1 funct3 opcode imm)).immS = imm.signExtend 64 := by
  have hbits : (((sType rs2 rs1 funct3 opcode imm >>> 25) <<< 5) |||
      ((sType rs2 rs1 funct3 opcode imm >>> 7) &&& 0x1f)).setWidth 12 = imm := by
    apply eq_of_getLsbD_eq
    intro j hj
    simp only [sType, getLsbD_setWidth, getLsbD_or, getLsbD_and, getLsbD_shiftLeft,
      getLsbD_ushiftRight, getLsbD_append, getLsbD_extractLsb']
    rcases j with _ | _ | _ | _ | _ | _ | _ | _ | _ | _ | _ | _ | j
    all_goals simp
  exact (sext_eq (by decide) (by decide)).trans (congrArg (signExtend 64) hbits)

@[simp] theorem bType_immB (imm : BitVec 12) :
    (Instruction.new (bType rs2 rs1 funct3 opcode imm)).immB = (imm ++ 0#1).signExtend 64 := by
  have hbits : ((((bType rs2 rs1 funct3 opcode imm >>> 31) &&& 1) <<< 12) |||
      (((bType rs2 rs1 funct3 opcode imm >>> 7) &&& 1) <<< 11) |||
      (((bType rs2 rs1 funct3 opcode imm >>> 25) &&& 0x3f) <<< 5) |||
      (((bType rs2 rs1 funct3 opcode imm >>> 8) &&& 0xf) <<< 1)).setWidth 13 = imm ++ 0#1 := by
    apply eq_of_getLsbD_eq
    intro j hj
    simp only [bType, getLsbD_setWidth, getLsbD_or, getLsbD_and, getLsbD_shiftLeft,
      getLsbD_ushiftRight, getLsbD_append, getLsbD_extractLsb']
    rcases j with _ | _ | _ | _ | _ | _ | _ | _ | _ | _ | _ | _ | _ | j
    all_goals simp
  exact (sext_eq (by decide) (by decide)).trans (congrArg (signExtend 64) hbits)

@[simp] theorem uType_immU (imm : BitVec 20) :
    (Instruction.new (uType rd opcode imm)).immU = (imm ++ 0#12).signExtend 64 := by
  have hmask : (0xfffff000 : U32) = allOnes 20 ++ 0#12 := by decide
  have hbits : uType rd opcode imm &&& 0xfffff000 = imm ++ 0#12 := by
    rw [hmask]
    apply eq_of_getLsbD_eq
    intro j hj
    simp only [uType, getLsbD_and, getLsbD_append, getLsbD_allOnes, getLsbD_zero]
    grind
  exact congrArg (signExtend 64) hbits

@[simp] theorem jType_immJ (imm : BitVec 20) :
    (Instruction.new (jType rd opcode imm)).immJ = (imm ++ 0#1).signExtend 64 := by
  have hbits : ((((jType rd opcode imm >>> 31) &&& 1) <<< 20) |||
      (((jType rd opcode imm >>> 12) &&& 0xff) <<< 12) |||
      (((jType rd opcode imm >>> 20) &&& 1) <<< 11) |||
      (((jType rd opcode imm >>> 21) &&& 0x3ff) <<< 1)).setWidth 21 = imm ++ 0#1 := by
    apply eq_of_getLsbD_eq
    intro j hj
    simp only [jType, getLsbD_setWidth, getLsbD_or, getLsbD_and, getLsbD_shiftLeft,
      getLsbD_ushiftRight, getLsbD_append, getLsbD_extractLsb']
    rcases j with _ | _ | _ | _ | _ | _ | _ | _ | _ | _ | _ | _ | _ | _ | _ | _ | _ | _ |
      _ | _ | _ |
      j
    all_goals simp
  exact (sext_eq (by decide) (by decide)).trans (congrArg (signExtend 64) hbits)

end Encoding

end Riscvm.Rv64rs
