import Riscvm.Lockstep.MulDiv
import Riscvm.Rv64rs.Control

/-!
# Uncompressed words in the two emulators

The fields that the Python decoder computes from a word are those of the Rust decoder, and the
mnemonic that it finds is a function of the opcode, `funct3`, `funct7` and `rs2`.
-/

namespace Riscvm.Lockstep

open TwosComplement Rv64rs Python

section Fields

variable (w : U32)

theorem rd_eq : Rv64i.rd w.toNat = (Instruction.new w).rd.toNat := (toNat_field w 7 5).symm
theorem rs1_eq : Rv64i.rs1 w.toNat = (Instruction.new w).rs1.toNat := (toNat_field w 15 5).symm
theorem shamt_eq : Rv64i.shamt w.toNat = (Instruction.new w).shamt.toNat :=
  (toNat_field w 20 6).symm
theorem csr_eq : Rv64i.csr w.toNat = (Instruction.new w).csr.toNat := (toNat_field w 20 12).symm

/-- A signed field, as an integer. -/
theorem signed_eq {n : Nat} (v : BitVec n) (pos : 0 < n) (le : n ≤ 64) :
    Python.i n (v.toNat : Int) = (v.signExtend 64).toInt := by
  rw [i_eq_toInt _ pos, ofInt_toNat, BitVec.toInt_signExtend_of_le le]

theorem immI_eq : Rv64i.immI w.toNat = (Instruction.new w).immI.toInt := by
  have hfields : w.extractLsb' 25 7 ++ w.extractLsb' 20 5 = (w >>> 20).setWidth 12 := by
    apply BitVec.eq_of_getLsbD_eq
    intro j hj
    simp only [BitVec.getLsbD_append, BitVec.getLsbD_extractLsb', BitVec.getLsbD_setWidth,
      BitVec.getLsbD_ushiftRight]
    grind
  have hnat : Rv64i.funct7 w.toNat <<< 5 ||| Rv64i.rs2 w.toNat =
      ((w >>> 20).setWidth 12).toNat := by
    rw [← hfields, BitVec.toNat_append, ← sectionOf_toNat, ← sectionOf_toNat]
    rfl
  rw [Rv64i.immI, hnat, signed_eq _ (by decide) (by decide)]
  exact congrArg BitVec.toInt (sext_eq (by decide) (by decide)).symm

theorem immS_eq : Rv64i.immS w.toNat = (Instruction.new w).immS.toInt := by
  have hfields : w.extractLsb' 25 7 ++ w.extractLsb' 7 5 =
      (((w >>> 25) <<< 5) ||| ((w >>> 7) &&& 0x1f)).setWidth 12 := by
    apply BitVec.eq_of_getLsbD_eq
    intro j hj
    simp only [BitVec.getLsbD_or, BitVec.getLsbD_and, BitVec.getLsbD_shiftLeft,
      BitVec.getLsbD_ushiftRight, BitVec.getLsbD_setWidth, BitVec.getLsbD_append,
      BitVec.getLsbD_extractLsb']
    rcases j with _ | _ | _ | _ | _ | _ | _ | _ | _ | _ | _ | _ | j
    rotate_right
    · omega
    all_goals simp
  have hnat : Rv64i.funct7 w.toNat <<< 5 ||| Rv64i.rd w.toNat =
      ((((w >>> 25) <<< 5) ||| ((w >>> 7) &&& 0x1f)).setWidth 12).toNat := by
    rw [← hfields, BitVec.toNat_append, ← sectionOf_toNat, ← sectionOf_toNat]
    rfl
  rw [Rv64i.immS, hnat, signed_eq _ (by decide) (by decide)]
  exact congrArg BitVec.toInt (sext_eq (by decide) (by decide)).symm

theorem immB_eq : Rv64i.immB w.toNat = (Instruction.new w).immB.toInt := by
  have hfields : w.extractLsb' 31 1 ++ w.extractLsb' 7 1 ++ w.extractLsb' 25 6 ++
      w.extractLsb' 8 4 ++ 0#1 = ((((w >>> 31) &&& 1) <<< 12) ||| (((w >>> 7) &&& 1) <<< 11) |||
        (((w >>> 25) &&& 0x3f) <<< 5) ||| (((w >>> 8) &&& 0xf) <<< 1)).setWidth 13 := by
    apply BitVec.eq_of_getLsbD_eq
    intro j hj
    simp only [BitVec.getLsbD_or, BitVec.getLsbD_and, BitVec.getLsbD_shiftLeft,
      BitVec.getLsbD_ushiftRight, BitVec.getLsbD_setWidth, BitVec.getLsbD_append,
      BitVec.getLsbD_extractLsb']
    rcases j with _ | _ | _ | _ | _ | _ | _ | _ | _ | _ | _ | _ | _ | j
    rotate_right
    · omega
    all_goals simp
  have hnat : sectionOf w.toNat 31 1 <<< 12 ||| sectionOf w.toNat 7 1 <<< 11 |||
      sectionOf w.toNat 25 6 <<< 5 ||| sectionOf w.toNat 8 4 <<< 1 =
      (w.extractLsb' 31 1 ++ w.extractLsb' 7 1 ++ w.extractLsb' 25 6 ++
        w.extractLsb' 8 4 ++ 0#1).toNat := by
    simp only [sectionOf_toNat, BitVec.toNat_append, Nat.shiftLeft_or_distrib,
      ← Nat.shiftLeft_add, BitVec.toNat_ofNat, Nat.zero_mod, Nat.or_zero]
  rw [Rv64i.immB, hnat, signed_eq _ (by decide) (by decide), hfields]
  exact congrArg BitVec.toInt (sext_eq (by decide) (by decide)).symm

theorem immJ_eq : Rv64i.immJ w.toNat = (Instruction.new w).immJ.toInt := by
  have hfields : w.extractLsb' 31 1 ++ w.extractLsb' 12 8 ++ w.extractLsb' 20 1 ++
      w.extractLsb' 21 10 ++ 0#1 = ((((w >>> 31) &&& 1) <<< 20) |||
        (((w >>> 12) &&& 0xff) <<< 12) ||| (((w >>> 20) &&& 1) <<< 11) |||
          (((w >>> 21) &&& 0x3ff) <<< 1)).setWidth 21 := by
    apply BitVec.eq_of_getLsbD_eq
    intro j hj
    simp only [BitVec.getLsbD_or, BitVec.getLsbD_and, BitVec.getLsbD_shiftLeft,
      BitVec.getLsbD_ushiftRight, BitVec.getLsbD_setWidth, BitVec.getLsbD_append,
      BitVec.getLsbD_extractLsb']
    rcases j with
      _ | _ | _ | _ | _ | _ | _ | _ | _ | _ | _ | _ | _ | _ | _ | _ | _ | _ | _ | _ | _ | j
    rotate_right
    · omega
    all_goals simp
  have hnat : sectionOf w.toNat 31 1 <<< 20 ||| sectionOf w.toNat 12 8 <<< 12 |||
      sectionOf w.toNat 20 1 <<< 11 ||| sectionOf w.toNat 21 10 <<< 1 =
      (w.extractLsb' 31 1 ++ w.extractLsb' 12 8 ++ w.extractLsb' 20 1 ++
        w.extractLsb' 21 10 ++ 0#1).toNat := by
    simp only [sectionOf_toNat, BitVec.toNat_append, Nat.shiftLeft_or_distrib,
      ← Nat.shiftLeft_add, BitVec.toNat_ofNat, Nat.zero_mod, Nat.or_zero]
  rw [Rv64i.immJ, hnat, signed_eq _ (by decide) (by decide), hfields]
  exact congrArg BitVec.toInt (sext_eq (by decide) (by decide)).symm

theorem immU_eq : Rv64i.immU w.toNat = (Instruction.new w).immU.toInt := by
  have hfields : w.extractLsb' 12 20 ++ 0#12 = w &&& 0xfffff000 := by
    apply BitVec.eq_of_getLsbD_eq
    intro j hj
    simp only [BitVec.getLsbD_and, BitVec.getLsbD_append, BitVec.getLsbD_extractLsb']
    rcases j with _ | _ | _ | _ | _ | _ | _ | _ | _ | _ | _ | _ | j
    rotate_right
    · have hmask : ∀ k : Fin 20, (0xfffff000#32).getLsbD (k + 12) = true := by decide
      have hj20 : j < 20 := by omega
      have hbit := hmask ⟨j, hj20⟩
      grind
    all_goals simp
  have hnat : sectionOf w.toNat 12 20 <<< 12 = (w.extractLsb' 12 20 ++ 0#12).toNat := by
    simp only [sectionOf_toNat, BitVec.toNat_append, BitVec.toNat_ofNat, Nat.zero_mod, Nat.or_zero]
  rw [Rv64i.immU, hnat, signed_eq _ (by decide) (by decide), hfields]
  rfl

end Fields

section Tables

open Python.Rv64i

variable {w : U32}

attribute [local simp] mnemonicOf getMatchers lookupMnemonic MNEMONICS List.lookup_cons opcode_eq
  funct3_eq funct7_eq

/-- The keys of `funct7` in the tables of the computational instructions. -/
theorem funct7_cases (f : BitVec 7) : f = 0x00 ∨ f = 0x01 ∨ f = 0x20 ∨ f = 0x21 ∨
    (f ≠ 0x00#7 ∧ f ≠ 0x01#7 ∧ f ≠ 0x20#7 ∧ f ≠ 0x21#7) ∧ (f.toNat == 0) = false ∧
      (f.toNat == 1) = false ∧ (f.toNat == 0x20) = false ∧ (f.toNat == 0x21) = false := by
  revert f
  decide

theorem load_mnemonic (h : (Instruction.new w).opcode = 0x03) : mnemonicOf w.toNat =
    match (Instruction.new w).funct3 with
    | 0#3 => some .LB
    | 1#3 => some .LH
    | 2#3 => some .LW
    | 3#3 => some .LD
    | 4#3 => some .LBU
    | 5#3 => some .LHU
    | 6#3 => some .LWU
    | _ => some .UNDEFINED := by
  rcases Compressed.cases3 (Instruction.new w).funct3 with h3 | h3 | h3 | h3 | h3 | h3 | h3 | h3 <;>
    simp [h, h3]

theorem op_mnemonic (h : (Instruction.new w).opcode = 0x33)
    (h1 : (Instruction.new w).funct7 ≠ 0x01) : mnemonicOf w.toNat =
    match (Instruction.new w).funct3, (Instruction.new w).funct7 with
    | 0#3, 0x00#7 => some .ADD
    | 0#3, 0x20#7 => some .SUB
    | 1#3, 0x00#7 => some .SLL
    | 2#3, 0x00#7 => some .SLT
    | 3#3, 0x00#7 => some .SLTU
    | 4#3, 0x00#7 => some .XOR
    | 5#3, 0x00#7 => some .SRL
    | 5#3, 0x20#7 => some .SRA
    | 6#3, 0x00#7 => some .OR
    | 7#3, 0x00#7 => some .AND
    | _, _ => some .UNDEFINED := by
  rcases funct7_cases (Instruction.new w).funct7 with h7 | h7 | h7 | h7 | h7
  rotate_left
  · exact absurd h7 h1
  all_goals
    rcases Compressed.cases3 (Instruction.new w).funct3 with
      h3 | h3 | h3 | h3 | h3 | h3 | h3 | h3 <;>
    simp [h, h3, h7]

theorem store_mnemonic (h : (Instruction.new w).opcode = 0x23) : mnemonicOf w.toNat =
    match (Instruction.new w).funct3 with
    | 0#3 => some .SB
    | 1#3 => some .SH
    | 2#3 => some .SW
    | 3#3 => some .SD
    | _ => some .UNDEFINED := by
  rcases Compressed.cases3 (Instruction.new w).funct3 with h3 | h3 | h3 | h3 | h3 | h3 | h3 | h3 <;>
    simp [h, h3]

theorem branch_mnemonic (h : (Instruction.new w).opcode = 0x63) : mnemonicOf w.toNat =
    match (Instruction.new w).funct3 with
    | 0#3 => some .BEQ
    | 1#3 => some .BNE
    | 4#3 => some .BLT
    | 5#3 => some .BGE
    | 6#3 => some .BLTU
    | 7#3 => some .BGEU
    | _ => some .UNDEFINED := by
  rcases Compressed.cases3 (Instruction.new w).funct3 with h3 | h3 | h3 | h3 | h3 | h3 | h3 | h3 <;>
    simp [h, h3]

theorem jalr_mnemonic (h : (Instruction.new w).opcode = 0x67) : mnemonicOf w.toNat =
    match (Instruction.new w).funct3 with
    | 0#3 => some .JALR
    | _ => some .UNDEFINED := by
  rcases Compressed.cases3 (Instruction.new w).funct3 with h3 | h3 | h3 | h3 | h3 | h3 | h3 | h3 <;>
    simp [h, h3]

theorem miscMem_mnemonic (h : (Instruction.new w).opcode = 0x0f) : mnemonicOf w.toNat =
    match (Instruction.new w).funct3 with
    | 0#3 => some .FENCE
    | 1#3 => some .FENCE_I
    | _ => some .UNDEFINED := by
  rcases Compressed.cases3 (Instruction.new w).funct3 with h3 | h3 | h3 | h3 | h3 | h3 | h3 | h3 <;>
    simp [h, h3]

theorem lui_mnemonic (h : (Instruction.new w).opcode = 0x37) :
    mnemonicOf w.toNat = some .LUI := by
  simp [h]

theorem auipc_mnemonic (h : (Instruction.new w).opcode = 0x17) :
    mnemonicOf w.toNat = some .AUIPC := by
  simp [h]

theorem jal_mnemonic (h : (Instruction.new w).opcode = 0x6f) :
    mnemonicOf w.toNat = some .JAL := by
  simp [h]

theorem opImm_mnemonic (h : (Instruction.new w).opcode = 0x13) : mnemonicOf w.toNat =
    match (Instruction.new w).funct3, (Instruction.new w).funct7 with
    | 0#3, _ => some .ADDI
    | 1#3, 0x00#7 => some .SLLI
    | 1#3, 0x01#7 => some .SLLI
    | 2#3, _ => some .SLTI
    | 3#3, _ => some .SLTIU
    | 4#3, _ => some .XORI
    | 5#3, 0x00#7 => some .SRLI
    | 5#3, 0x01#7 => some .SRLI
    | 5#3, 0x20#7 => some .SRAI
    | 5#3, 0x21#7 => some .SRAI
    | 6#3, _ => some .ORI
    | 7#3, _ => some .ANDI
    | _, _ => some .UNDEFINED := by
  rcases funct7_cases (Instruction.new w).funct7 with h7 | h7 | h7 | h7 | h7
  all_goals
    rcases Compressed.cases3 (Instruction.new w).funct3 with
      h3 | h3 | h3 | h3 | h3 | h3 | h3 | h3 <;>
    simp [h, h3, h7]

theorem opImm32_mnemonic (h : (Instruction.new w).opcode = 0x1b) : mnemonicOf w.toNat =
    match (Instruction.new w).funct3, (Instruction.new w).funct7 with
    | 0#3, _ => some .ADDIW
    | 1#3, 0x00#7 => some .SLLIW
    | 5#3, 0x00#7 => some .SRLIW
    | 5#3, 0x20#7 => some .SRAIW
    | _, _ => some .UNDEFINED := by
  rcases funct7_cases (Instruction.new w).funct7 with h7 | h7 | h7 | h7 | h7
  all_goals
    rcases Compressed.cases3 (Instruction.new w).funct3 with
      h3 | h3 | h3 | h3 | h3 | h3 | h3 | h3 <;>
    simp [h, h3, h7]

theorem op32_mnemonic (h : (Instruction.new w).opcode = 0x3b)
    (h1 : (Instruction.new w).funct7 ≠ 0x01) : mnemonicOf w.toNat =
    match (Instruction.new w).funct3, (Instruction.new w).funct7 with
    | 0#3, 0x00#7 => some .ADDW
    | 0#3, 0x20#7 => some .SUBW
    | 1#3, 0x00#7 => some .SLLW
    | 5#3, 0x00#7 => some .SRLW
    | 5#3, 0x20#7 => some .SRAW
    | _, _ => some .UNDEFINED := by
  rcases funct7_cases (Instruction.new w).funct7 with h7 | h7 | h7 | h7 | h7
  rotate_left
  · exact absurd h7 h1
  all_goals
    rcases Compressed.cases3 (Instruction.new w).funct3 with
      h3 | h3 | h3 | h3 | h3 | h3 | h3 | h3 <;>
    simp [h, h3, h7]

theorem mnemonic_of_selects {mnemonic : Rv64i.Mnemonic} (defined : mnemonic ≠ .UNDEFINED)
    (h : selects (· == mnemonic) (Decoders.matched (Instruction.new w).opcode
      (Instruction.new w).funct3 (Instruction.new w).funct7 (Instruction.new w).rs2)
        Rv64i.MNEMONICS = true) : Rv64i.mnemonicOf w.toNat = some mnemonic := by
  have hundefined : (Rv64i.Mnemonic.UNDEFINED == mnemonic) = false :=
    beq_eq_false_iff_ne.mpr defined.symm
  have hplain : plain 3 Rv64i.MNEMONICS = true := by decide
  have hselects := @lookupMnemonic_selects _ (· == mnemonic) _ hundefined w.toNat
    (Rv64i.getMatchers w.toNat) _ _ hplain
  rw [Decoders.matchers_eq, h] at hselects
  rw [Option.any_eq_true] at hselects
  obtain ⟨found, hfound, heq⟩ := hselects
  rwa [← beq_iff_eq.mp heq]

theorem csr_mnemonic (h : (Instruction.new w).opcode = 0x73)
    (h0 : (Instruction.new w).funct3 ≠ 0) : Rv64i.mnemonicOf w.toNat =
    match (Instruction.new w).funct3 with
    | 1#3 => some .CSRRW
    | 2#3 => some .CSRRS
    | 3#3 => some .CSRRC
    | 5#3 => some .CSRRWI
    | 6#3 => some .CSRRSI
    | 7#3 => some .CSRRCI
    | _ => some .UNDEFINED := by
  rcases Compressed.cases3 (Instruction.new w).funct3 with h3 | h3 | h3 | h3 | h3 | h3 | h3 | h3
  · exact absurd h3 h0
  all_goals
    simp [h, h3]

theorem ecall_mnemonic (h : (Instruction.new w).IsEcall) :
    Rv64i.mnemonicOf w.toNat = some .ECALL := by
  obtain ⟨hop, h3, h7, h2⟩ := h
  refine mnemonic_of_selects (by decide) ?_
  rw [hop, h3, h7, h2]
  rfl

theorem sret_mnemonic (h : (Instruction.new w).IsSret) :
    Rv64i.mnemonicOf w.toNat = some .SRET := by
  obtain ⟨hop, h3, h7, h2⟩ := h
  refine mnemonic_of_selects (by decide) ?_
  rw [hop, h3, h7, h2]
  rfl

theorem mret_mnemonic (h : (Instruction.new w).IsMret) :
    Rv64i.mnemonicOf w.toNat = some .MRET := by
  obtain ⟨hop, h3, h7⟩ := h
  refine mnemonic_of_selects (by decide) ?_
  rw [hop, h3, h7]
  rfl

end Tables

end Riscvm.Lockstep
