import Riscvm.Rv64rs.Encoding
import Mathlib.Tactic.IntervalCases

/-!
# The hand assembler

`asm.rs` shifts the operands of an instruction into place and ORs them together; an `i32` immediate
is its word here. Within their widths the operands make a word of the format, and every word is a
word of every format, so encoding and decoding undo each other.
-/

namespace Riscvm.Rv64rs

namespace Asm

open BitVec Encoding

def encodeI (imm rs1 funct3 rd opcode : U32) : U32 :=
  ((imm &&& 0xfff) <<< 20) ||| (rs1 <<< 15) ||| (funct3 <<< 12) ||| (rd <<< 7) ||| opcode

def encodeS (imm rs1 rs2 funct3 opcode : U32) : U32 :=
  (((imm >>> 5) &&& 0x7f) <<< 25) ||| (rs2 <<< 20) ||| (rs1 <<< 15) ||| (funct3 <<< 12) |||
    ((imm &&& 0x1f) <<< 7) ||| opcode

/-- `imm` is the upper 20 bits, in place. -/
def encodeU (imm rd opcode : U32) : U32 := (imm &&& 0xfffff000) ||| (rd <<< 7) ||| opcode

def encodeJ (imm rd opcode : U32) : U32 :=
  let bit20 := (imm >>> 20) &&& 1
  let bits10To1 := (imm >>> 1) &&& 0x3ff
  let bit11 := (imm >>> 11) &&& 1
  let bits19To12 := (imm >>> 12) &&& 0xff
  (bit20 <<< 31) ||| (bits10To1 <<< 21) ||| (bit11 <<< 20) ||| (bits19To12 <<< 12) |||
    (rd <<< 7) ||| opcode

def encodeB (imm rs1 rs2 funct3 opcode : U32) : U32 :=
  let bit12 := (imm >>> 12) &&& 1
  let bits10To5 := (imm >>> 5) &&& 0x3f
  let bits4To1 := (imm >>> 1) &&& 0xf
  let bit11 := (imm >>> 11) &&& 1
  (bit12 <<< 31) ||| (bits10To5 <<< 25) ||| (rs2 <<< 20) ||| (rs1 <<< 15) ||| (funct3 <<< 12) |||
    (bits4To1 <<< 8) ||| (bit11 <<< 7) ||| opcode

section Fields

variable (imm : U32) (rs1 rs2 rd : BitVec 5) (funct3 : BitVec 3) (opcode : BitVec 7)

theorem encodeI_eq :
    encodeI imm (rs1.setWidth 32) (funct3.setWidth 32) (rd.setWidth 32) (opcode.setWidth 32) =
      iType rs1 funct3 rd opcode (imm.setWidth 12) := by
  apply eq_of_getLsbD_eq
  intro j hj
  simp only [encodeI, iType, getLsbD_setWidth, getLsbD_or, getLsbD_and, getLsbD_shiftLeft,
    getLsbD_append]
  interval_cases j
  all_goals simp

theorem encodeS_eq :
    encodeS imm (rs1.setWidth 32) (rs2.setWidth 32) (funct3.setWidth 32) (opcode.setWidth 32) =
      sType rs2 rs1 funct3 opcode (imm.setWidth 12) := by
  apply eq_of_getLsbD_eq
  intro j hj
  simp only [encodeS, sType, getLsbD_setWidth, getLsbD_or, getLsbD_and, getLsbD_shiftLeft,
    getLsbD_ushiftRight, getLsbD_append, getLsbD_extractLsb']
  interval_cases j
  all_goals simp

theorem encodeU_eq : encodeU imm (rd.setWidth 32) (opcode.setWidth 32) =
    uType rd opcode (imm.extractLsb' 12 20) := by
  apply eq_of_getLsbD_eq
  intro j hj
  simp only [encodeU, uType, getLsbD_setWidth, getLsbD_or, getLsbD_and, getLsbD_shiftLeft,
    getLsbD_append, getLsbD_extractLsb']
  interval_cases j
  all_goals simp

theorem encodeJ_eq : encodeJ imm (rd.setWidth 32) (opcode.setWidth 32) =
    jType rd opcode (imm.extractLsb' 1 20) := by
  apply eq_of_getLsbD_eq
  intro j hj
  simp only [encodeJ, jType, getLsbD_setWidth, getLsbD_or, getLsbD_and, getLsbD_shiftLeft,
    getLsbD_ushiftRight, getLsbD_append, getLsbD_extractLsb']
  interval_cases j
  all_goals simp

theorem encodeB_eq :
    encodeB imm (rs1.setWidth 32) (rs2.setWidth 32) (funct3.setWidth 32) (opcode.setWidth 32) =
      bType rs2 rs1 funct3 opcode (imm.extractLsb' 1 12) := by
  apply eq_of_getLsbD_eq
  intro j hj
  simp only [encodeB, bType, getLsbD_setWidth, getLsbD_or, getLsbD_and, getLsbD_shiftLeft,
    getLsbD_ushiftRight, getLsbD_append, getLsbD_extractLsb']
  interval_cases j
  all_goals simp

end Fields

theorem exists_iType (w : U32) : ∃ (rs1 rd : BitVec 5) (funct3 : BitVec 3) (opcode : BitVec 7)
    (imm : BitVec 12), iType rs1 funct3 rd opcode imm = w := by
  refine ⟨w.extractLsb' 15 5, w.extractLsb' 7 5, w.extractLsb' 12 3, w.extractLsb' 0 7,
    w.extractLsb' 20 12, ?_⟩
  apply eq_of_getLsbD_eq
  intro j hj
  simp only [iType, getLsbD_append, getLsbD_extractLsb']
  interval_cases j
  all_goals simp

theorem exists_sType (w : U32) : ∃ (rs2 rs1 : BitVec 5) (funct3 : BitVec 3) (opcode : BitVec 7)
    (imm : BitVec 12), sType rs2 rs1 funct3 opcode imm = w := by
  refine ⟨w.extractLsb' 20 5, w.extractLsb' 15 5, w.extractLsb' 12 3, w.extractLsb' 0 7,
    w.extractLsb' 25 7 ++ w.extractLsb' 7 5, ?_⟩
  apply eq_of_getLsbD_eq
  intro j hj
  simp only [sType, getLsbD_append, getLsbD_extractLsb']
  interval_cases j
  all_goals simp

theorem exists_uType (w : U32) : ∃ (rd : BitVec 5) (opcode : BitVec 7) (imm : BitVec 20),
    uType rd opcode imm = w := by
  refine ⟨w.extractLsb' 7 5, w.extractLsb' 0 7, w.extractLsb' 12 20, ?_⟩
  apply eq_of_getLsbD_eq
  intro j hj
  simp only [uType, getLsbD_append, getLsbD_extractLsb']
  interval_cases j
  all_goals simp

theorem exists_jType (w : U32) : ∃ (rd : BitVec 5) (opcode : BitVec 7) (imm : BitVec 20),
    jType rd opcode imm = w := by
  refine ⟨w.extractLsb' 7 5, w.extractLsb' 0 7, w.extractLsb' 31 1 ++ w.extractLsb' 12 8 ++
    w.extractLsb' 20 1 ++ w.extractLsb' 21 10, ?_⟩
  apply eq_of_getLsbD_eq
  intro j hj
  simp only [jType, getLsbD_append, getLsbD_extractLsb']
  interval_cases j
  all_goals simp

theorem exists_bType (w : U32) : ∃ (rs2 rs1 : BitVec 5) (funct3 : BitVec 3) (opcode : BitVec 7)
    (imm : BitVec 12), bType rs2 rs1 funct3 opcode imm = w := by
  refine ⟨w.extractLsb' 20 5, w.extractLsb' 15 5, w.extractLsb' 12 3, w.extractLsb' 0 7,
    w.extractLsb' 31 1 ++ w.extractLsb' 7 1 ++ w.extractLsb' 25 6 ++ w.extractLsb' 8 4, ?_⟩
  apply eq_of_getLsbD_eq
  intro j hj
  simp only [bType, getLsbD_append, getLsbD_extractLsb']
  interval_cases j
  all_goals simp

/-- As an `i32`, `imm` is a signed number of `n` bits. -/
def Fits (n : Nat) (imm : U32) : Prop := -2 ^ (n - 1) ≤ imm.toInt ∧ imm.toInt < 2 ^ (n - 1)

theorem Fits.signExtend {n : Nat} {imm : U32} (h : Fits n imm) (pos : 0 < n) (le : n ≤ 32) :
    (imm.setWidth n).signExtend 64 = imm.signExtend 64 := by
  obtain ⟨k, rfl⟩ : ∃ k, n = k + 1 := ⟨n - 1, by omega⟩
  obtain ⟨hlow, hhigh⟩ := h
  rw [Nat.add_sub_cancel] at hlow hhigh
  have hbmod : imm.toInt.bmod (2 ^ (k + 1)) = imm.toInt := by
    apply Int.bmod_eq_of_le_mul_two <;> push_cast <;> omega
  apply eq_of_toInt_eq
  rw [toInt_signExtend_of_le (by omega), toInt_signExtend_of_le (by omega), ← hbmod,
    ← toInt_signExtend_eq_toInt_bmod_of_le imm le, signExtend_eq_setWidth_of_le imm le]

/-- A number whose low bits are zero is given by the bits above them. -/
theorem extract_append_zero {n k : Nat} {imm : U32} (h : imm.toNat % 2 ^ k = 0) :
    imm.extractLsb' k n ++ 0#k = imm.setWidth (n + k) := by
  apply eq_of_getLsbD_eq
  intro j hj
  rw [getLsbD_append, getLsbD_setWidth, decide_eq_true hj, Bool.true_and]
  by_cases hlow : j < k
  · have hbit : imm.toNat.testBit j = (imm.toNat % 2 ^ k).testBit j := by
      rw [Nat.testBit_mod_two_pow, decide_eq_true hlow, Bool.true_and]
    rw [if_pos hlow, getLsbD_zero, getLsbD, hbit, h, Nat.zero_testBit]
  · rw [if_neg hlow, getLsbD_extractLsb', Nat.add_sub_cancel' (by omega),
      decide_eq_true (by omega), Bool.true_and]

/-- The other way round, an extension of it has these bits. -/
theorem extract_signExtend_append {n k : Nat} (imm : BitVec n) (le : n + k ≤ 32) :
    (((imm ++ 0#k).signExtend 64).setWidth 32).extractLsb' k n = imm := by
  apply eq_of_getLsbD_eq
  intro j hj
  rw [getLsbD_extractLsb', getLsbD_setWidth, getLsbD_signExtend, getLsbD_append]
  simp only [decide_eq_true hj, Bool.true_and]
  have h32 : k + j < 32 := by omega
  have h64 : k + j < 64 := by omega
  have hnk : k + j < n + k := by omega
  have hk : ¬k + j < k := by omega
  simp [h32, h64, hnk]

/-- Operands given as words, each within the width of its field. -/
structure Operands (rs1 rs2 rd funct3 opcode : U32) : Prop where
  rs1 : rs1 < 32
  rs2 : rs2 < 32
  rd : rd < 32
  funct3 : funct3 < 8
  opcode : opcode < 128

theorem setWidth_of_lt {n : Nat} {x : U32} (h : x.toNat < 2 ^ n) :
    (x.setWidth n).setWidth 32 = x := by
  apply eq_of_toNat_eq
  rw [toNat_setWidth, toNat_setWidth, Nat.mod_eq_of_lt h, Nat.mod_eq_of_lt x.isLt]

variable {rs1 rs2 rd funct3 opcode : U32}

/-- The operands are words of their fields. -/
theorem Operands.fields (h : Operands rs1 rs2 rd funct3 opcode) :
    (rs1.setWidth 5).setWidth 32 = rs1 ∧ (rs2.setWidth 5).setWidth 32 = rs2 ∧
      (rd.setWidth 5).setWidth 32 = rd ∧ (funct3.setWidth 3).setWidth 32 = funct3 ∧
      (opcode.setWidth 7).setWidth 32 = opcode :=
  ⟨setWidth_of_lt h.rs1, setWidth_of_lt h.rs2, setWidth_of_lt h.rd, setWidth_of_lt h.funct3,
    setWidth_of_lt h.opcode⟩

theorem new_encodeI (operands : Operands rs1 rs2 rd funct3 opcode) {imm : U32}
    (fits : Fits 12 imm) :
    let i := Instruction.new (encodeI imm rs1 funct3 rd opcode)
    i.opcode.setWidth 32 = opcode ∧ i.rd.setWidth 32 = rd ∧ i.funct3.setWidth 32 = funct3 ∧
      i.rs1.setWidth 32 = rs1 ∧ i.immI = imm.signExtend 64 := by
  obtain ⟨hrs1, -, hrd, hfunct3, hopcode⟩ := operands.fields
  have hencode := encodeI_eq imm (rs1.setWidth 5) (rd.setWidth 5) (funct3.setWidth 3)
    (opcode.setWidth 7)
  rw [hrs1, hrd, hfunct3, hopcode] at hencode
  dsimp only
  simp only [hencode, new_iType, iType_immI]
  exact ⟨hopcode, hrd, hfunct3, hrs1, fits.signExtend (by decide) (by decide)⟩

theorem new_encodeS (operands : Operands rs1 rs2 rd funct3 opcode) {imm : U32}
    (fits : Fits 12 imm) :
    let i := Instruction.new (encodeS imm rs1 rs2 funct3 opcode)
    i.opcode.setWidth 32 = opcode ∧ i.funct3.setWidth 32 = funct3 ∧ i.rs1.setWidth 32 = rs1 ∧
      i.rs2.setWidth 32 = rs2 ∧ i.immS = imm.signExtend 64 := by
  obtain ⟨hrs1, hrs2, -, hfunct3, hopcode⟩ := operands.fields
  have hencode := encodeS_eq imm (rs1.setWidth 5) (rs2.setWidth 5) (funct3.setWidth 3)
    (opcode.setWidth 7)
  rw [hrs1, hrs2, hfunct3, hopcode] at hencode
  dsimp only
  simp only [hencode, new_sType, sType_immS]
  exact ⟨hopcode, hfunct3, hrs1, hrs2, fits.signExtend (by decide) (by decide)⟩

theorem new_encodeB (operands : Operands rs1 rs2 rd funct3 opcode) {imm : U32} (fits : Fits 13 imm)
    (even : imm.toNat % 2 = 0) :
    let i := Instruction.new (encodeB imm rs1 rs2 funct3 opcode)
    i.opcode.setWidth 32 = opcode ∧ i.funct3.setWidth 32 = funct3 ∧ i.rs1.setWidth 32 = rs1 ∧
      i.rs2.setWidth 32 = rs2 ∧ i.immB = imm.signExtend 64 := by
  obtain ⟨hrs1, hrs2, -, hfunct3, hopcode⟩ := operands.fields
  have hencode := encodeB_eq imm (rs1.setWidth 5) (rs2.setWidth 5) (funct3.setWidth 3)
    (opcode.setWidth 7)
  rw [hrs1, hrs2, hfunct3, hopcode] at hencode
  have himm : imm.extractLsb' 1 12 ++ 0#1 = imm.setWidth 13 := extract_append_zero even
  dsimp only
  simp only [hencode, new_bType, bType_immB, himm]
  exact ⟨hopcode, hfunct3, hrs1, hrs2, fits.signExtend (by decide) (by decide)⟩

theorem new_encodeU (operands : Operands rs1 rs2 rd funct3 opcode) {imm : U32}
    (page : imm.toNat % 4096 = 0) :
    let i := Instruction.new (encodeU imm rd opcode)
    i.opcode.setWidth 32 = opcode ∧ i.rd.setWidth 32 = rd ∧ i.immU = imm.signExtend 64 := by
  obtain ⟨-, -, hrd, -, hopcode⟩ := operands.fields
  have hencode := encodeU_eq imm (rd.setWidth 5) (opcode.setWidth 7)
  rw [hrd, hopcode] at hencode
  have himm : imm.extractLsb' 12 20 ++ 0#12 = imm.setWidth 32 := extract_append_zero page
  dsimp only
  simp only [hencode, new_uType, uType_immU, himm, setWidth_eq]
  exact ⟨hopcode, hrd, True.intro⟩

theorem new_encodeJ (operands : Operands rs1 rs2 rd funct3 opcode) {imm : U32} (fits : Fits 21 imm)
    (even : imm.toNat % 2 = 0) :
    let i := Instruction.new (encodeJ imm rd opcode)
    i.opcode.setWidth 32 = opcode ∧ i.rd.setWidth 32 = rd ∧ i.immJ = imm.signExtend 64 := by
  obtain ⟨-, -, hrd, -, hopcode⟩ := operands.fields
  have hencode := encodeJ_eq imm (rd.setWidth 5) (opcode.setWidth 7)
  rw [hrd, hopcode] at hencode
  have himm : imm.extractLsb' 1 20 ++ 0#1 = imm.setWidth 21 := extract_append_zero even
  dsimp only
  simp only [hencode, new_jType, jType_immJ, himm]
  exact ⟨hopcode, hrd, fits.signExtend (by decide) (by decide)⟩

theorem encodeI_new (w : U32) :
    let i := Instruction.new w
    encodeI (i.immI.setWidth 32) (i.rs1.setWidth 32) (i.funct3.setWidth 32) (i.rd.setWidth 32)
      (i.opcode.setWidth 32) = w := by
  obtain ⟨rs1, rd, funct3, opcode, imm, rfl⟩ := exists_iType w
  dsimp only
  simp only [new_iType, iType_immI, encodeI_eq,
    setWidth_setWidth_of_le _ (show 12 ≤ 32 by decide),
    Bits.setWidth_signExtend_self imm (show 12 ≤ 64 by decide)]

theorem encodeS_new (w : U32) :
    let i := Instruction.new w
    encodeS (i.immS.setWidth 32) (i.rs1.setWidth 32) (i.rs2.setWidth 32) (i.funct3.setWidth 32)
      (i.opcode.setWidth 32) = w := by
  obtain ⟨rs2, rs1, funct3, opcode, imm, rfl⟩ := exists_sType w
  dsimp only
  simp only [new_sType, sType_immS, encodeS_eq,
    setWidth_setWidth_of_le _ (show 12 ≤ 32 by decide),
    Bits.setWidth_signExtend_self imm (show 12 ≤ 64 by decide)]

theorem encodeB_new (w : U32) :
    let i := Instruction.new w
    encodeB (i.immB.setWidth 32) (i.rs1.setWidth 32) (i.rs2.setWidth 32) (i.funct3.setWidth 32)
      (i.opcode.setWidth 32) = w := by
  obtain ⟨rs2, rs1, funct3, opcode, imm, rfl⟩ := exists_bType w
  dsimp only
  simp only [new_bType, bType_immB, encodeB_eq,
    extract_signExtend_append imm (show 12 + 1 ≤ 32 by decide)]

theorem encodeU_new (w : U32) :
    let i := Instruction.new w
    encodeU (i.immU.setWidth 32) (i.rd.setWidth 32) (i.opcode.setWidth 32) = w := by
  obtain ⟨rd, opcode, imm, rfl⟩ := exists_uType w
  dsimp only
  simp only [new_uType, uType_immU, encodeU_eq,
    extract_signExtend_append imm (show 20 + 12 ≤ 32 by decide)]

theorem encodeJ_new (w : U32) :
    let i := Instruction.new w
    encodeJ (i.immJ.setWidth 32) (i.rd.setWidth 32) (i.opcode.setWidth 32) = w := by
  obtain ⟨rd, opcode, imm, rfl⟩ := exists_jType w
  dsimp only
  simp only [new_jType, jType_immJ, encodeJ_eq,
    extract_signExtend_append imm (show 20 + 1 ≤ 32 by decide)]

/-- What is encoded is decoded again: in each format the operands and an immediate that the format
can represent. And what is decoded from a word is encoded to that word again, whichever format the
word is taken for. -/
theorem decode_encode (operands : Operands rs1 rs2 rd funct3 opcode) :
    (∀ imm, Fits 12 imm →
      let i := Instruction.new (encodeI imm rs1 funct3 rd opcode)
      i.opcode.setWidth 32 = opcode ∧ i.rd.setWidth 32 = rd ∧ i.funct3.setWidth 32 = funct3 ∧
        i.rs1.setWidth 32 = rs1 ∧ i.immI = imm.signExtend 64) ∧
    (∀ imm, Fits 12 imm →
      let i := Instruction.new (encodeS imm rs1 rs2 funct3 opcode)
      i.opcode.setWidth 32 = opcode ∧ i.funct3.setWidth 32 = funct3 ∧ i.rs1.setWidth 32 = rs1 ∧
        i.rs2.setWidth 32 = rs2 ∧ i.immS = imm.signExtend 64) ∧
    (∀ imm, Fits 13 imm → imm.toNat % 2 = 0 →
      let i := Instruction.new (encodeB imm rs1 rs2 funct3 opcode)
      i.opcode.setWidth 32 = opcode ∧ i.funct3.setWidth 32 = funct3 ∧ i.rs1.setWidth 32 = rs1 ∧
        i.rs2.setWidth 32 = rs2 ∧ i.immB = imm.signExtend 64) ∧
    (∀ imm : U32, imm.toNat % 4096 = 0 →
      let i := Instruction.new (encodeU imm rd opcode)
      i.opcode.setWidth 32 = opcode ∧ i.rd.setWidth 32 = rd ∧ i.immU = imm.signExtend 64) ∧
    (∀ imm, Fits 21 imm → imm.toNat % 2 = 0 →
      let i := Instruction.new (encodeJ imm rd opcode)
      i.opcode.setWidth 32 = opcode ∧ i.rd.setWidth 32 = rd ∧ i.immJ = imm.signExtend 64) ∧
    ∀ w : U32,
      let i := Instruction.new w
      encodeI (i.immI.setWidth 32) (i.rs1.setWidth 32) (i.funct3.setWidth 32) (i.rd.setWidth 32)
        (i.opcode.setWidth 32) = w ∧
      encodeS (i.immS.setWidth 32) (i.rs1.setWidth 32) (i.rs2.setWidth 32) (i.funct3.setWidth 32)
        (i.opcode.setWidth 32) = w ∧
      encodeB (i.immB.setWidth 32) (i.rs1.setWidth 32) (i.rs2.setWidth 32) (i.funct3.setWidth 32)
        (i.opcode.setWidth 32) = w ∧
      encodeU (i.immU.setWidth 32) (i.rd.setWidth 32) (i.opcode.setWidth 32) = w ∧
      encodeJ (i.immJ.setWidth 32) (i.rd.setWidth 32) (i.opcode.setWidth 32) = w :=
  ⟨fun _ fits => new_encodeI operands fits, fun _ fits => new_encodeS operands fits,
    fun _ fits even => new_encodeB operands fits even, fun _ page => new_encodeU operands page,
    fun _ fits even => new_encodeJ operands fits even,
    fun w => ⟨encodeI_new w, encodeS_new w, encodeB_new w, encodeU_new w, encodeJ_new w⟩⟩

/-- `beq x1, x2, -4096` and `jal x3, 0xffffe`. -/
theorem decode_encode_offsets :
    (Instruction.new (encodeB (-4096) 1 2 0 0x63)).immB = -4096 ∧
      (Instruction.new (encodeJ 0xffffe 3 0x6f)).immJ = 0xffffe := by
  have operands (opcode : U32) (h : opcode < 128) : Operands 1 2 3 0 opcode :=
    ⟨by decide, by decide, by decide, by decide, h⟩
  obtain ⟨-, -, branch, -⟩ := decode_encode (operands 0x63 (by decide))
  obtain ⟨-, -, -, -, jump, -⟩ := decode_encode (operands 0x6f (by decide))
  exact ⟨(branch (-4096) ⟨by decide, by decide⟩ (by decide)).2.2.2.2,
    (jump 0xffffe ⟨by decide, by decide⟩ (by decide)).2.2⟩

end Asm

end Riscvm.Rv64rs
