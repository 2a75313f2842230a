import Riscvm.Rv64rs.Encoding
import Riscvm.Rv64rs.Rvc

/-!
# Compressed instructions as abbreviations

The RVC specification expands every 16-bit instruction to a 32-bit one. `expand`
states that expansion on the fields of the word, and `execute_expand` compares it
with the interpreter: running a compressed word is running its expansion with the
sequential next pc two bytes on.
-/

namespace Riscvm.Rv64rs

open Bits Exec Machine Encoding BitVec

namespace Compressed

variable (w : U16)

def quadrant : BitVec 2 := w.extractLsb' 0 2
def funct3 : BitVec 3 := w.extractLsb' 13 3
def rd : BitVec 5 := w.extractLsb' 7 5
def rs2 : BitVec 5 := w.extractLsb' 2 5

/-- `rd'` and `rs1'`: one of `x8` to `x15`. -/
def rdP : BitVec 5 := 0b01#2 ++ w.extractLsb' 7 3

/-- `rs2'`, and `rd'` of the loads. -/
def rs2P : BitVec 5 := 0b01#2 ++ w.extractLsb' 2 3

/-- `imm[5|4:0]`. -/
def imm6 : BitVec 6 := w.extractLsb' 12 1 ++ w.extractLsb' 2 5

/-- `nzuimm[5:4|9:6|2|3]` of C.ADDI4SPN. -/
def nzuimm10 : BitVec 10 :=
  w.extractLsb' 7 4 ++ w.extractLsb' 11 2 ++ w.extractLsb' 5 1 ++ w.extractLsb' 6 1 ++ 0b00#2

/-- `nzimm[9|4|6|8:7|5]` of C.ADDI16SP. -/
def nzimm10 : BitVec 10 :=
  w.extractLsb' 12 1 ++ w.extractLsb' 3 2 ++ w.extractLsb' 5 1 ++ w.extractLsb' 2 1 ++
    w.extractLsb' 6 1 ++ 0b0000#4

/-- `uimm[5:3]`, `uimm[2|6]` of C.LW and C.SW. -/
def uimm7 : BitVec 7 :=
  w.extractLsb' 5 1 ++ w.extractLsb' 10 3 ++ w.extractLsb' 6 1 ++ 0b00#2

/-- `uimm[5:3]`, `uimm[7:6]` of C.LD and C.SD. -/
def uimm8 : BitVec 8 := w.extractLsb' 5 2 ++ w.extractLsb' 10 3 ++ 0b000#3

/-- `uimm[5]`, `uimm[4:3|8:6]` of C.LDSP. -/
def uimm9Load : BitVec 9 :=
  w.extractLsb' 2 3 ++ w.extractLsb' 12 1 ++ w.extractLsb' 5 2 ++ 0b000#3

/-- `uimm[5:3|8:6]` of C.SDSP. -/
def uimm9Store : BitVec 9 := w.extractLsb' 7 3 ++ w.extractLsb' 10 3 ++ 0b000#3

/-- Bits 8 to 1 of `imm[8|4:3]`, `imm[7:6|2:1|5]` of the branches. -/
def branchOffset : BitVec 8 :=
  w.extractLsb' 12 1 ++ w.extractLsb' 5 2 ++ w.extractLsb' 2 1 ++ w.extractLsb' 10 2 ++
    w.extractLsb' 3 2

/-- Bits 11 to 1 of `imm[11|4|9:8|10|6|7|3:1|5]` of C.J. -/
def jumpOffset : BitVec 11 :=
  w.extractLsb' 12 1 ++ w.extractLsb' 8 1 ++ w.extractLsb' 9 2 ++ w.extractLsb' 6 1 ++
    w.extractLsb' 7 1 ++ w.extractLsb' 2 1 ++ w.extractLsb' 11 1 ++ w.extractLsb' 3 3

/-- Quadrant 0. -/
def expandQ0 : Option U32 :=
  match funct3 w with
  | 0b000#3 => -- addi rd', x2, nzuimm
      if nzuimm10 w = 0 then none
      else some (iType 2 0 (rs2P w) 0x13 ((nzuimm10 w).setWidth 12))
  | 0b010#3 => some (iType (rdP w) 2 (rs2P w) 0x03 ((uimm7 w).setWidth 12)) -- lw
  | 0b011#3 => some (iType (rdP w) 3 (rs2P w) 0x03 ((uimm8 w).setWidth 12)) -- ld
  | 0b110#3 => some (sType (rs2P w) (rdP w) 2 0x23 ((uimm7 w).setWidth 12)) -- sw
  | 0b111#3 => some (sType (rs2P w) (rdP w) 3 0x23 ((uimm8 w).setWidth 12)) -- sd
  | _ => none

/-- The register-register and shift group of quadrant 1. -/
def expandAlu : Option U32 :=
  match w.extractLsb' 10 2 with
  | 0b00#2 => some (iType (rdP w) 5 (rdP w) 0x13 (0b000000#6 ++ imm6 w)) -- srli
  | 0b01#2 => some (iType (rdP w) 5 (rdP w) 0x13 (0b010000#6 ++ imm6 w)) -- srai
  | 0b10#2 => some (iType (rdP w) 7 (rdP w) 0x13 ((imm6 w).signExtend 12)) -- andi
  | _ =>
      match w.extractLsb' 12 1, w.extractLsb' 5 2 with
      | 0#1, 0b00#2 => some (rType 0x20 (rs2P w) (rdP w) 0 (rdP w) 0x33) -- sub
      | 0#1, 0b01#2 => some (rType 0x00 (rs2P w) (rdP w) 4 (rdP w) 0x33) -- xor
      | 0#1, 0b10#2 => some (rType 0x00 (rs2P w) (rdP w) 6 (rdP w) 0x33) -- or
      | 0#1, 0b11#2 => some (rType 0x00 (rs2P w) (rdP w) 7 (rdP w) 0x33) -- and
      | 1#1, 0b00#2 => some (rType 0x20 (rs2P w) (rdP w) 0 (rdP w) 0x3b) -- subw
      | 1#1, 0b01#2 => some (rType 0x00 (rs2P w) (rdP w) 0 (rdP w) 0x3b) -- addw
      | _, _ => none

/-- Quadrant 1. -/
def expandQ1 : Option U32 :=
  match funct3 w with
  | 0b000#3 => some (iType (rd w) 0 (rd w) 0x13 ((imm6 w).signExtend 12)) -- addi, nop
  | 0b001#3 => -- addiw
      if rd w = 0 then none else some (iType (rd w) 0 (rd w) 0x1b ((imm6 w).signExtend 12))
  | 0b010#3 => some (iType 0 0 (rd w) 0x13 ((imm6 w).signExtend 12)) -- li: addi rd, x0, imm
  | 0b011#3 =>
      if rd w = 2 then -- addi x2, x2, nzimm
        if nzimm10 w = 0 then none else some (iType 2 0 2 0x13 ((nzimm10 w).signExtend 12))
      else if imm6 w = 0 then none
      else some (uType (rd w) 0x37 ((imm6 w).signExtend 20)) -- lui
  | 0b100#3 => expandAlu w
  | 0b101#3 => some (jType 0 0x6f ((jumpOffset w).signExtend 20)) -- jal x0, offset
  | 0b110#3 => some (bType 0 (rdP w) 0 0x63 ((branchOffset w).signExtend 12)) -- beq rs1', x0
  | _ => some (bType 0 (rdP w) 1 0x63 ((branchOffset w).signExtend 12)) -- bne rs1', x0

/-- Quadrant 2. -/
def expandQ2 : Option U32 :=
  match funct3 w with
  | 0b000#3 => some (iType (rd w) 1 (rd w) 0x13 (0b000000#6 ++ imm6 w)) -- slli
  | 0b011#3 => -- ld rd, uimm(x2)
      if rd w = 0 then none else some (iType 2 3 (rd w) 0x03 ((uimm9Load w).setWidth 12))
  | 0b100#3 =>
      match w.extractLsb' 12 1 with
      | 0#1 =>
          if rs2 w = 0 then
            if rd w = 0 then none else some (iType (rd w) 0 0 0x67 0) -- jalr x0, 0(rs1)
          else some (rType 0 (rs2 w) 0 0 (rd w) 0x33) -- add rd, x0, rs2
      | _ =>
          if rs2 w = 0 then
            if rd w = 0 then some (iType 0 0 0 0x73 1) -- ebreak
            else some (iType (rd w) 0 1 0x67 0) -- jalr x1, 0(rs1)
          else some (rType 0 (rs2 w) (rd w) 0 (rd w) 0x33) -- add rd, rd, rs2
  | 0b111#3 => some (sType (rs2 w) 2 3 0x23 ((uimm9Store w).setWidth 12)) -- sd rs2, uimm(x2)
  | _ => none

/-- The 32-bit instruction that the integer RVC instruction `w` abbreviates. -/
def expand : Option U32 :=
  match quadrant w with
  | 0b00#2 => expandQ0 w
  | 0b01#2 => expandQ1 w
  | 0b10#2 => expandQ2 w
  | _ => none

theorem op_eq : (CInstruction.new w).op = (quadrant w).setWidth 32 := bits_eq w (by decide)

theorem funct3_eq : (CInstruction.new w).funct3 = (funct3 w).setWidth 32 := bits_eq w (by decide)

theorem rd_eq : (CInstruction.new w).rd = rd w := by
  rw [CInstruction.rd, CInstruction.new, bits_eq w (by decide),
    setWidth_setWidth_of_le _ (by decide)]
  rfl

theorem rs2_eq : (CInstruction.new w).rs2 = rs2 w := by
  rw [CInstruction.rs2, CInstruction.new, bits_eq w (by decide),
    setWidth_setWidth_of_le _ (by decide)]
  rfl

/-- The three-bit register fields name `x8` to `x15`. -/
theorem prime_eq (r : BitVec 3) : (r.setWidth 32).setWidth 5 + 8 = 0b01#2 ++ r := by
  revert r
  decide

theorem rs1Prime_eq : (CInstruction.new w).rs1Prime = rdP w := by
  rw [CInstruction.rs1Prime, CInstruction.new, bits_eq w (by decide), prime_eq]
  rfl

theorem rs2Prime_eq : (CInstruction.new w).rs2Prime = rs2P w := by
  rw [CInstruction.rs2Prime, CInstruction.new, bits_eq w (by decide), prime_eq]
  rfl

theorem uimm5_0_eq : (CInstruction.new w).uimm5_0 = (imm6 w).setWidth 32 := by
  apply eq_of_getLsbD_eq
  intro j hj
  simp (disch := decide) only [CInstruction.uimm5_0, CInstruction.new, bits_eq, imm6, getLsbD_or,
    getLsbD_shiftLeft, getLsbD_setWidth, getLsbD_append, getLsbD_extractLsb']
  grind

theorem imm5_0_eq : (CInstruction.new w).imm5_0 = (imm6 w).signExtend 64 := by
  rw [CInstruction.imm5_0, sext_eq (by decide) (by decide), uimm5_0_eq,
    setWidth_setWidth_of_le _ (by decide), setWidth_eq]

theorem uimm9_2_eq : (CInstruction.new w).uimm9_2 = (nzuimm10 w).setWidth 32 := by
  apply eq_of_getLsbD_eq
  intro j hj
  simp (disch := decide) only [CInstruction.uimm9_2, CInstruction.new, bits_eq, nzuimm10,
    getLsbD_or, getLsbD_shiftLeft, getLsbD_setWidth, getLsbD_append, getLsbD_extractLsb']
  rcases j with _ | _ | _ | _ | _ | _ | _ | _ | _ | _ | j
  rotate_right
  · grind
  all_goals simp

theorem offset6_2_eq : (CInstruction.new w).offset6_2 = (uimm7 w).setWidth 32 := by
  apply eq_of_getLsbD_eq
  intro j hj
  simp (disch := decide) only [CInstruction.offset6_2, CInstruction.new, bits_eq, uimm7,
    getLsbD_or, getLsbD_shiftLeft, getLsbD_setWidth, getLsbD_append, getLsbD_extractLsb']
  rcases j with _ | _ | _ | _ | _ | _ | _ | j
  all_goals first | (simp; done) | grind

theorem offset7_3_eq : (CInstruction.new w).offset7_3 = (uimm8 w).setWidth 32 := by
  apply eq_of_getLsbD_eq
  intro j hj
  simp (disch := decide) only [CInstruction.offset7_3, CInstruction.new, bits_eq, uimm8,
    getLsbD_or, getLsbD_shiftLeft, getLsbD_setWidth, getLsbD_append, getLsbD_extractLsb']
  rcases j with _ | _ | _ | _ | _ | _ | _ | _ | j
  all_goals first | (simp; done) | grind

theorem offset8_3Ldsp_eq : (CInstruction.new w).offset8_3Ldsp = (uimm9Load w).setWidth 32 := by
  apply eq_of_getLsbD_eq
  intro j hj
  simp (disch := decide) only [CInstruction.offset8_3Ldsp, CInstruction.new, bits_eq, uimm9Load,
    getLsbD_or, getLsbD_shiftLeft, getLsbD_setWidth, getLsbD_append, getLsbD_extractLsb']
  rcases j with _ | _ | _ | _ | _ | _ | _ | _ | _ | j
  rotate_right
  · grind
  all_goals simp

theorem offset8_3Sdsp_eq : (CInstruction.new w).offset8_3Sdsp = (uimm9Store w).setWidth 32 := by
  apply eq_of_getLsbD_eq
  intro j hj
  simp (disch := decide) only [CInstruction.offset8_3Sdsp, CInstruction.new, bits_eq, uimm9Store,
    getLsbD_or, getLsbD_shiftLeft, getLsbD_setWidth, getLsbD_append, getLsbD_extractLsb']
  rcases j with _ | _ | _ | _ | _ | _ | _ | _ | _ | j
  all_goals first | (simp; done) | grind

theorem nzimm9_4_eq : ((CInstruction.new w).nzimm9_4 : Call Machine U64) =
    CInstruction.nz ((nzimm10 w).signExtend 64) := by
  rw [CInstruction.nzimm9_4, sext_eq (by decide) (by decide)]
  congr 2
  apply eq_of_getLsbD_eq
  intro j hj
  simp (disch := decide) only [CInstruction.new, bits_eq, nzimm10, getLsbD_or, getLsbD_shiftLeft,
    getLsbD_setWidth, getLsbD_append, getLsbD_extractLsb']
  rcases j with _ | _ | _ | _ | _ | _ | _ | _ | _ | _ | j
  rotate_right
  · omega
  all_goals simp

theorem offset8_1_eq :
    (CInstruction.new w).offset8_1 = (branchOffset w ++ 0#1).signExtend 64 := by
  rw [CInstruction.offset8_1, sext_eq (by decide) (by decide)]
  congr 1
  apply eq_of_getLsbD_eq
  intro j hj
  simp (disch := decide) only [CInstruction.new, bits_eq, branchOffset, getLsbD_or,
    getLsbD_shiftLeft, getLsbD_setWidth, getLsbD_append, getLsbD_extractLsb']
  rcases j with _ | _ | _ | _ | _ | _ | _ | _ | _ | j
  rotate_right
  · omega
  all_goals simp

theorem offset11_1_eq :
    (CInstruction.new w).offset11_1 = (jumpOffset w ++ 0#1).signExtend 64 := by
  rw [CInstruction.offset11_1, sext_eq (by decide) (by decide)]
  congr 1
  apply eq_of_getLsbD_eq
  intro j hj
  simp (disch := decide) only [CInstruction.new, bits_eq, jumpOffset, getLsbD_or,
    getLsbD_shiftLeft, getLsbD_setWidth, getLsbD_append, getLsbD_extractLsb']
  rcases j with _ | _ | _ | _ | _ | _ | _ | _ | _ | _ | _ | _ | j
  rotate_right
  · omega
  all_goals simp

theorem funct2_eq : (CInstruction.new w).funct2 = (w.extractLsb' 5 2).setWidth 32 :=
  bits_eq w (by decide)

theorem bit12_eq : (CInstruction.new w).bit12 = (w.extractLsb' 12 1).setWidth 32 :=
  bits_eq w (by decide)

theorem funct6_low : (CInstruction.new w).funct6 &&& 0b11 = (w.extractLsb' 10 2).setWidth 32 := by
  have hmask : ∀ f : BitVec 6, f.setWidth 32 &&& 0b11#32 = (f.setWidth 2).setWidth 32 := by decide
  have hlow : (w.extractLsb' 10 6).setWidth 2 = w.extractLsb' 10 2 := by
    apply eq_of_getLsbD_eq
    intro j hj
    simp only [getLsbD_setWidth, getLsbD_extractLsb']
    grind
  rw [← hlow, ← hmask, CInstruction.funct6, CInstruction.new, bits_eq w (by decide)]
  rfl

theorem funct6_bit2 : (CInstruction.new w).funct6 &&& 0b100 = 0 ↔ w.extractLsb' 12 1 = 0 := by
  have hmask : ∀ f : BitVec 6, f.setWidth 32 &&& 0b100#32 = 0 ↔ f.extractLsb' 2 1 = 0 := by decide
  have hbit : (w.extractLsb' 10 6).extractLsb' 2 1 = w.extractLsb' 12 1 := by
    apply eq_of_getLsbD_eq
    intro j hj
    simp only [getLsbD_extractLsb']
    grind
  rw [← hbit, ← hmask, CInstruction.funct6, CInstruction.new, bits_eq w (by decide)]
  rfl

/-- An offset that fits the 12-bit immediate without reaching its sign. -/
theorem offset_eq {n : Nat} (x : BitVec n) (h : n < 12) :
    (x.setWidth 32).setWidth 64 = (x.setWidth 12).signExtend 64 := by
  rw [signExtend_setWidth_of_lt x h, setWidth_setWidth_of_ge _ (by omega)]

theorem sext_setWidth (v : U64) : sext (v.setWidth 32) 32 = Execute.sext64 v 32 := by
  rw [sext_eq (by decide) (by decide), Execute.sext64_eq (by decide) (by decide), setWidth_eq]

/-- C.LUI shifts the extended immediate; LUI extends the shifted one. -/
theorem lui_eq (x : BitVec 6) :
    x.signExtend 64 <<< 12 = ((x.signExtend 20 ++ 0#12).signExtend 64 : U64) := by
  rw [signExtend_signExtend_append x 0#12 (by decide) (by decide)]
  apply eq_of_getLsbD_eq
  intro j hj
  simp only [getLsbD_shiftLeft, getLsbD_signExtend, getLsbD_append, msb_eq_getLsbD_last,
    getLsbD_zero]
  grind

/-- The immediate of a shift holds the amount below a function field that tells
SRAI from the others. -/
theorem shift_fields (x : BitVec 6) :
    (0b000000#6 ++ x).setWidth 6 = x ∧ (0b010000#6 ++ x).setWidth 6 = x ∧
      (0b000000#6 ++ x).extractLsb' 5 7 &&& 0x20 = 0 ∧
      (0b010000#6 ++ x).extractLsb' 5 7 &&& 0x20 ≠ 0 := by
  revert x
  decide

theorem toNat_shamt (x : BitVec 6) : (x.setWidth 32).toNat = x.toNat :=
  toNat_setWidth_of_le (by decide)

/-- C.JR and C.JALR. -/
def JumpsToRegister : Prop :=
  quadrant w = 0b10 ∧ funct3 w = 0b100 ∧ rs2 w = 0 ∧ rd w ≠ 0

/-- Clearing the lowest bit of an even value. -/
theorem clear_even {x : U64} (h : x &&& 1 = 0) : x &&& ~~~1 = x := by
  have hbit : x.getLsbD 0 = false := by
    have h0 := congrArg (fun y : U64 => y.getLsbD 0) h
    simpa using h0
  ext j hj
  have hone : (1 : U64)[j] = decide (j = 0) := BitVec.getElem_one hj
  rw [BitVec.getElem_and, BitVec.getElem_not, hone]
  by_cases hj0 : j = 0
  · subst hj0
    rw [BitVec.getLsbD_eq_getElem (by decide)] at hbit
    rw [hbit, Bool.false_and]
  · simp [hj0]

/-- JALR without an offset jumps to an even value as it is. -/
theorem jalr_target {x : U64} (h : x &&& 1 = 0) :
    (x + (0 : BitVec 12).signExtend 64) &&& ~~~1 = x := by
  have hzero : (0 : BitVec 12).signExtend 64 = 0#64 := by decide
  rw [hzero, BitVec.add_zero, clear_even h]

theorem cases1 (f : BitVec 1) : f = 0 ∨ f = 1 := by
  revert f
  decide

theorem cases2 (f : BitVec 2) : f = 0 ∨ f = 1 ∨ f = 2 ∨ f = 3 := by
  revert f
  decide

theorem cases3 (f : BitVec 3) : f = 0 ∨ f = 1 ∨ f = 2 ∨ f = 3 ∨ f = 4 ∨ f = 5 ∨ f = 6 ∨ f = 7 := by
  revert f
  decide

/-- The outcome is a refusal of the word itself. -/
def Rejected (r : EStateM.Result Fault Machine U64) : Prop :=
  ∃ e m, r = .error (.err e) m ∧
    (e = .zeroImmediate ∨ ∃ word pc, e = .illegalCInstruction word pc)

section Agreement

variable [Host] (next : U64) (m : Machine)

/-- The outcome `r` refuses the word or is that of its expansion with sequential
next pc `next`. -/
def RunsAs (expansion : Option U32) (r : EStateM.Result Fault Machine U64) : Prop :=
  Rejected r ∨ ∃ word, expansion = some word ∧ r = Execute.executeFrom next (.new word) m

theorem RunsAs.illegal (expansion : Option U32) (instr : CInstruction) :
    RunsAs next m expansion (Rvc.illegalCInstruction instr m) :=
  .inl ⟨_, _, rfl, .inr ⟨_, _, rfl⟩⟩

theorem RunsAs.zero (expansion : Option U32) :
    RunsAs next m expansion ((CInstruction.nzError : Call Machine U64) m) :=
  .inl ⟨_, _, rfl, .inl rfl⟩

theorem executeQ0_runsAs : RunsAs next m (expandQ0 w) (Rvc.executeQ0 (.new w) next m) := by
  unfold Rvc.executeQ0
  rw [funct3_eq]
  rcases cases3 (funct3 w) with h | h | h | h | h | h | h | h <;> rw [h]
  · by_cases hz : nzuimm10 w = 0
    · simp only [CInstruction.nzuimm9_2, uimm9_2_eq,
        setWidth_eq_zero _ (show 10 ≤ 32 by decide), hz]
      exact .zero next m _
    · refine .inr ⟨_, by simp only [expandQ0, h]; exact if_neg hz, ?_⟩
      rw [Execute.executeFrom_opImm _ _ (by simp)]
      simp only [CInstruction.nzuimm9_2, uimm9_2_eq, setWidth_eq_zero _ (show 10 ≤ 32 by decide),
        hz, if_false, pure_bind, offset_eq _ (show 10 < 12 by decide), Execute.opImm, new_iType,
        iType_immI, rs2Prime_eq]
      rfl
  · exact .illegal next m _ _
  · refine .inr ⟨_, by simp only [expandQ0, h]; rfl, ?_⟩
    rw [Execute.executeFrom_load _ _ (by simp), Execute.load_lw (by simp)]
    simp only [rs1Prime_eq, rs2Prime_eq, offset6_2_eq,
      offset_eq _ (show 7 < 12 by decide), sext_setWidth, new_iType, iType_immI, bind_assoc,
      pure_bind]
    rfl
  · refine .inr ⟨_, by simp only [expandQ0, h]; rfl, ?_⟩
    rw [Execute.executeFrom_load _ _ (by simp)]
    simp only [Execute.load, rs1Prime_eq, rs2Prime_eq, offset7_3_eq,
      offset_eq _ (show 8 < 12 by decide), new_iType, iType_immI]
    rfl
  · exact .illegal next m _ _
  · exact .illegal next m _ _
  · refine .inr ⟨_, by simp only [expandQ0, h]; rfl, ?_⟩
    rw [Execute.executeFrom_store _ _ (by simp)]
    simp only [Execute.store, rs1Prime_eq, rs2Prime_eq, offset6_2_eq,
      offset_eq _ (show 7 < 12 by decide), new_sType, sType_immS]
    rfl
  · refine .inr ⟨_, by simp only [expandQ0, h]; rfl, ?_⟩
    rw [Execute.executeFrom_store _ _ (by simp)]
    simp only [Execute.store, rs1Prime_eq, rs2Prime_eq, offset7_3_eq,
      offset_eq _ (show 8 < 12 by decide), new_sType, sType_immS]
    rfl

theorem executeQ1Alu_runsAs :
    RunsAs next m (expandAlu w) (Rvc.executeQ1Alu (.new w) next m) := by
  obtain ⟨hlow, hlow', hsrl, hsra⟩ := shift_fields (imm6 w)
  unfold Rvc.executeQ1Alu
  rw [funct6_low]
  rcases cases2 (w.extractLsb' 10 2) with h | h | h | h <;> rw [h]
  · by_cases hz : imm6 w = 0
    · simp only [CInstruction.shamt, uimm5_0_eq, setWidth_eq_zero _ (show 6 ≤ 32 by decide), hz]
      exact .zero next m _
    · refine .inr ⟨_, by simp only [expandAlu, h]; rfl, ?_⟩
      rw [Execute.executeFrom_opImm _ _ (by simp),
        Execute.opImm_srl (by simp) (by simpa only [new_iType] using hsrl)]
      simp only [CInstruction.shamt, uimm5_0_eq, setWidth_eq_zero _ (show 6 ≤ 32 by decide), hz,
        if_false, pure_bind, new_iType, hlow, toNat_shamt, rs1Prime_eq]
      rfl
  · by_cases hz : imm6 w = 0
    · simp only [CInstruction.shamt, uimm5_0_eq, setWidth_eq_zero _ (show 6 ≤ 32 by decide), hz]
      exact .zero next m _
    · refine .inr ⟨_, by simp only [expandAlu, h]; rfl, ?_⟩
      rw [Execute.executeFrom_opImm _ _ (by simp),
        Execute.opImm_sra (by simp) (by simpa only [new_iType] using hsra)]
      simp only [CInstruction.shamt, uimm5_0_eq, setWidth_eq_zero _ (show 6 ≤ 32 by decide), hz,
        if_false, pure_bind, new_iType, hlow', toNat_shamt, rs1Prime_eq]
      rfl
  · refine .inr ⟨_, by simp only [expandAlu, h]; rfl, ?_⟩
    rw [Execute.executeFrom_opImm _ _ (by simp)]
    simp only [Execute.opImm, new_iType, iType_immI, imm5_0_eq,
      signExtend_signExtend _ (show 6 ≤ 12 by decide), rs1Prime_eq]
    rfl
  · simp only [funct6_bit2, funct2_eq, rs1Prime_eq, rs2Prime_eq]
    rcases cases1 (w.extractLsb' 12 1) with hb | hb <;> rw [hb]
    · rcases cases2 (w.extractLsb' 5 2) with h2 | h2 | h2 | h2 <;> rw [h2]
      all_goals
        refine .inr ⟨_, by simp only [expandAlu, h, hb, h2]; rfl, ?_⟩
        rw [Execute.executeFrom_op _ _ (by simp) (by simp only [new_rType]; rfl)]
        simp only [new_rType]
        rfl
    · rcases cases2 (w.extractLsb' 5 2) with h2 | h2 | h2 | h2 <;> rw [h2]
      · refine .inr ⟨_, by simp only [expandAlu, h, hb, h2]; rfl, ?_⟩
        rw [Execute.executeFrom_op32 _ _ (by simp) (by simp only [new_rType]; rfl)]
        simp only [new_rType]
        rfl
      · refine .inr ⟨_, by simp only [expandAlu, h, hb, h2]; rfl, ?_⟩
        rw [Execute.executeFrom_op32 _ _ (by simp) (by simp only [new_rType]; rfl)]
        simp only [new_rType]
        rfl
      · exact .illegal next m _ _
      · exact .illegal next m _ _

theorem executeQ1_runsAs :
    RunsAs next m (expandQ1 w) (Rvc.executeQ1 (.new w) m.cpu.pc next m) := by
  unfold Rvc.executeQ1
  rw [funct3_eq]
  rcases cases3 (funct3 w) with h | h | h | h | h | h | h | h <;> rw [h]
  · refine .inr ⟨_, by simp only [expandQ1, h]; rfl, ?_⟩
    rw [Execute.executeFrom_opImm _ _ (by simp)]
    simp only [Execute.opImm, new_iType, iType_immI, imm5_0_eq, rd_eq,
      signExtend_signExtend _ (show 6 ≤ 12 by decide)]
    rfl
  · simp only [rd_eq]
    by_cases hrd : rd w = 0
    · simp only [hrd]
      exact .illegal next m _ _
    · refine .inr ⟨_, by simp only [expandQ1, h]; exact if_neg hrd, ?_⟩
      rw [Execute.executeFrom_opImm32 _ _ (by simp)
        (by simp only [Execute.opImm32, new_iType]; rfl)]
      simp only [new_iType, iType_immI, imm5_0_eq, hrd, if_false,
        signExtend_signExtend _ (show 6 ≤ 12 by decide)]
      rfl
  · simp only [rd_eq]
    by_cases hrd : rd w = 0
    · simp only [hrd]
      exact .illegal next m _ _
    · refine .inr ⟨_, by simp only [expandQ1, h]; rfl, ?_⟩
      rw [Execute.executeFrom_opImm _ _ (by simp), Execute.opImm_add (by simp)]
      simp only [new_iType, iType_immI, imm5_0_eq, hrd, if_false,
        signExtend_signExtend _ (show 6 ≤ 12 by decide), Registers.read_zero]
      rw [show (0 : U64) + (imm6 w).signExtend 64 = (imm6 w).signExtend 64 from BitVec.zero_add _]
      rfl
  · simp only [rd_eq]
    by_cases h2 : rd w = 2
    · simp only [h2, if_true, nzimm9_4_eq]
      by_cases hz : nzimm10 w = 0
      · simp only [CInstruction.nz, signExtend_eq_zero _ (show 10 ≤ 64 by decide), hz, if_true]
        exact .zero next m _
      · refine .inr ⟨_, by simp only [expandQ1, h, h2]; exact if_neg hz, ?_⟩
        rw [Execute.executeFrom_opImm _ _ (by simp)]
        simp only [CInstruction.nz, signExtend_eq_zero _ (show 10 ≤ 64 by decide), hz, if_false,
          pure_bind, Execute.opImm, new_iType, iType_immI,
          signExtend_signExtend _ (show 10 ≤ 12 by decide)]
        rfl
    · simp only [h2, if_false, or_false]
      by_cases hrd : rd w = 0
      · simp only [hrd]
        exact .illegal next m _ _
      · simp only [hrd, if_false, CInstruction.nzimm5_0, imm5_0_eq]
        by_cases hz : imm6 w = 0
        · simp only [CInstruction.nz, signExtend_eq_zero _ (show 6 ≤ 64 by decide), hz, if_true]
          exact .zero next m _
        · refine .inr ⟨_, by simp only [expandQ1, h, h2, if_false]; exact if_neg hz, ?_⟩
          rw [Execute.executeFrom_lui _ _ (by simp)]
          simp only [CInstruction.nz, signExtend_eq_zero _ (show 6 ≤ 64 by decide), hz, if_false,
            pure_bind, new_uType, uType_immU, lui_eq]
          rfl
  · have hexpand : expandQ1 w = expandAlu w := by
      simp only [expandQ1, h]
      rfl
    rw [hexpand]
    exact executeQ1Alu_runsAs w next m
  · refine .inr ⟨_, by simp only [expandQ1, h]; rfl, ?_⟩
    rw [Execute.executeFrom_jal _ _ (by simp)]
    simp only [new_jType, jType_immJ, offset11_1_eq,
      signExtend_signExtend_append _ 0#1 (show 0 < 11 by decide) (show 11 ≤ 20 by decide)]
    rw [bind_ok (writeReg_apply _ _ _), Registers.write_zero]
    rfl
  · refine .inr ⟨_, by simp only [expandQ1, h]; rfl, ?_⟩
    rw [Execute.executeFrom_branch _ _ (by simp) (by simp only [new_bType]; rfl)]
    simp only [bType_immB, offset8_1_eq, rs1Prime_eq, Registers.read_zero,
      signExtend_signExtend_append _ 0#1 (show 0 < 8 by decide) (show 8 ≤ 12 by decide)]
    simp only [beq_iff_eq]
    rfl
  · refine .inr ⟨_, by simp only [expandQ1, h]; rfl, ?_⟩
    rw [Execute.executeFrom_branch _ _ (by simp) (by simp only [new_bType]; rfl)]
    simp only [bType_immB, offset8_1_eq, rs1Prime_eq, Registers.read_zero,
      signExtend_signExtend_append _ 0#1 (show 0 < 8 by decide) (show 8 ≤ 12 by decide)]
    simp only [bne_iff_ne]
    rfl

theorem executeQ2Move_runsAs (hnext : next = m.cpu.pc + 2) (hq : quadrant w = 0b10)
    (h : funct3 w = 0b100) (even : JumpsToRegister w → m.cpu.regs.read (rd w) &&& 1 = 0) :
    RunsAs next m (expandQ2 w) (Rvc.executeQ2Move (.new w) m.cpu.pc next m) := by
  unfold Rvc.executeQ2Move
  simp only [CInstruction.rs1, rd_eq, rs2_eq, bit12_eq, setWidth_eq_zero _ (show 1 ≤ 32 by decide)]
  rcases cases1 (w.extractLsb' 12 1) with hb | hb
  · rw [if_pos hb]
    by_cases hrs2 : rs2 w = 0
    · rw [if_neg (not_not_intro hrs2)]
      by_cases hrd : rd w = 0
      · rw [if_pos hrd]
        exact .illegal next m _ _
      · refine .inr ⟨_, by simp only [expandQ2, h, hb, hrs2, if_true]; exact if_neg hrd, ?_⟩
        rw [if_neg hrd, Execute.executeFrom_jalr _ _ (by simp)]
        simp only [new_iType, iType_immI, jalr_target (even ⟨hq, h, hrs2, hrd⟩)]
        rw [bind_ok (writeReg_apply _ _ _), Registers.write_zero]
        rfl
    · rw [if_pos hrs2]
      by_cases hrd : rd w = 0
      · rw [if_pos hrd]
        exact .illegal next m _ _
      · refine .inr ⟨_, by simp only [expandQ2, h, hb]; exact if_neg hrs2, ?_⟩
        rw [if_neg hrd, Execute.executeFrom_op _ _ (by simp) (by simp only [new_rType]; rfl)]
        simp only [new_rType, Registers.read_zero]
        rw [show (0 : U64) + m.cpu.regs.read (rs2 w) = _ from BitVec.zero_add _]
        rfl
  · rw [if_neg (hb ▸ by decide)]
    by_cases hrs2 : rs2 w = 0
    · rw [if_neg (not_not_intro hrs2)]
      by_cases hrd : rd w = 0
      · rw [if_neg (not_not_intro hrd)]
        exact .illegal next m _ _
      · refine .inr ⟨_, by simp only [expandQ2, h, hb, hrs2, if_true]; exact if_neg hrd, ?_⟩
        rw [if_pos hrd, Execute.executeFrom_jalr _ _ (by simp)]
        simp only [new_iType, iType_immI, jalr_target (even ⟨hq, h, hrs2, hrd⟩), hnext]
        rfl
    · rw [if_pos hrs2]
      by_cases hrd : rd w = 0
      · rw [if_pos hrd]
        exact .illegal next m _ _
      · refine .inr ⟨_, by simp only [expandQ2, h, hb]; exact if_neg hrs2, ?_⟩
        rw [if_neg hrd, Execute.executeFrom_op _ _ (by simp) (by simp only [new_rType]; rfl)]
        simp only [new_rType]
        rfl

theorem executeQ2_runsAs (hnext : next = m.cpu.pc + 2) (hq : quadrant w = 0b10)
    (even : JumpsToRegister w → m.cpu.regs.read (rd w) &&& 1 = 0) :
    RunsAs next m (expandQ2 w) (Rvc.executeQ2 (.new w) m.cpu.pc next m) := by
  obtain ⟨hlow, -, hsrl, -⟩ := shift_fields (imm6 w)
  unfold Rvc.executeQ2
  rw [funct3_eq]
  simp only [rd_eq, rs2_eq]
  rcases cases3 (funct3 w) with h | h | h | h | h | h | h | h <;> rw [h]
  · by_cases hz : imm6 w = 0
    · simp only [CInstruction.shamt, uimm5_0_eq, setWidth_eq_zero _ (show 6 ≤ 32 by decide), hz]
      exact .zero next m _
    · refine .inr ⟨_, by simp only [expandQ2, h]; rfl, ?_⟩
      rw [Execute.executeFrom_opImm _ _ (by simp)]
      simp only [CInstruction.shamt, uimm5_0_eq, setWidth_eq_zero _ (show 6 ≤ 32 by decide), hz,
        if_false, pure_bind, Execute.opImm, new_iType, hlow, toNat_shamt]
      rfl
  · exact .illegal next m _ _
  · exact .illegal next m _ _
  · by_cases hrd : rd w = 0
    · simp only [hrd]
      exact .illegal next m _ _
    · refine .inr ⟨_, by simp only [expandQ2, h]; exact if_neg hrd, ?_⟩
      rw [Execute.executeFrom_load _ _ (by simp)]
      simp only [Execute.load, hrd, if_false, offset8_3Ldsp_eq,
        offset_eq _ (show 9 < 12 by decide), new_iType, iType_immI]
      rfl
  · exact executeQ2Move_runsAs w next m hnext hq h even
  · exact .illegal next m _ _
  · exact .illegal next m _ _
  · refine .inr ⟨_, by simp only [expandQ2, h]; rfl, ?_⟩
    rw [Execute.executeFrom_store _ _ (by simp)]
    simp only [Execute.store, offset8_3Sdsp_eq, offset_eq _ (show 9 < 12 by decide), new_sType,
      sType_immS]
    rfl

/-- Running a compressed word that is not refused is running the instruction it
abbreviates, with `pc + 2` for the sequential next pc and the link. -/
theorem execute_expand (hlow : quadrant w ≠ 0b11)
    (accepted : ¬Rejected (Rvc.execute (.new w) m))
    (even : JumpsToRegister w → m.cpu.regs.read (rd w) &&& 1 = 0) :
    ∃ word, expand w = some word ∧
      Rvc.execute (.new w) m = Execute.executeFrom (m.cpu.pc + 2) (.new word) m := by
  have hruns : RunsAs (m.cpu.pc + 2) m (expand w) (Rvc.execute (.new w) m) := by
    unfold Rvc.execute expand
    rw [get_bind_apply, op_eq]
    rcases cases2 (quadrant w) with h | h | h | h
    · rw [h]
      exact executeQ0_runsAs w _ m
    · rw [h]
      exact executeQ1_runsAs w _ m
    · have hq2 := executeQ2_runsAs w _ m rfl h even
      rw [h]
      exact hq2
    · exact absurd h hlow
  exact hruns.resolve_left accepted

end Agreement

/-- `c.jalr a0` on a hart whose registers are zero. -/
theorem execute_expand_jalr :
    ∃ word, expand 0x9502 = some word ∧
      @Rvc.execute .dev (.new 0x9502) ⟨Cpu.new 0, .new .detached⟩ =
        @Execute.executeFrom .dev ((Cpu.new 0).pc + 2) (.new word) ⟨Cpu.new 0, .new .detached⟩ :=
  @execute_expand 0x9502 .dev ⟨Cpu.new 0, .new .detached⟩ (by decide)
    (fun ⟨_, _, h, _⟩ => nomatch h) (fun _ => rfl)

end Compressed

end Riscvm.Rv64rs
