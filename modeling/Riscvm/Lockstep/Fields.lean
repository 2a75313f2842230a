import Riscvm.Python.Rv64c
import Riscvm.Rv64rs.Expansion

/-!
# Compressed words in both emulators

The fields of `rv64c.py` are those of the RVC specification that the Rust decoder is compared
with, and its mnemonic tables follow the same opcode map.
-/

namespace Riscvm.Python.Rv64c

open TwosComplement Rv64rs

variable (w : U16)

theorem op_eq : op w.toNat = (Compressed.quadrant w).toNat := sectionOf_toNat w 0 2
theorem funct3_eq : funct3 w.toNat = (Compressed.funct3 w).toNat := sectionOf_toNat w 13 3
theorem rd_eq : rd w.toNat = (Compressed.rd w).toNat := sectionOf_toNat w 7 5
theorem rs1_eq : rs1 w.toNat = (Compressed.rd w).toNat := sectionOf_toNat w 7 5
theorem rs2_eq : rs2 w.toNat = (Compressed.rs2 w).toNat := sectionOf_toNat w 2 5
theorem funct2_eq : funct2 w.toNat = (w.extractLsb' 5 2).toNat := sectionOf_toNat w 5 2
theorem bit12_eq : bit12 w.toNat = (w.extractLsb' 12 1).toNat := sectionOf_toNat w 12 1

theorem funct6_eq : funct6 w.toNat =
    (Compressed.funct3 w ++ w.extractLsb' 12 1 ++ w.extractLsb' 10 2).toNat := by
  have hfields : w.extractLsb' 10 6 =
      Compressed.funct3 w ++ w.extractLsb' 12 1 ++ w.extractLsb' 10 2 := by
    apply BitVec.eq_of_getLsbD_eq
    intro j hj
    simp only [Compressed.funct3, BitVec.getLsbD_append, BitVec.getLsbD_extractLsb']
    grind
  rw [funct6, sectionOf_toNat, hfields]

theorem prime_toNat (r : BitVec 3) : (0b01#2 ++ r).toNat = r.toNat + 8 := by
  revert r
  decide

theorem rs1Prime_eq : rs1Prime w.toNat = (Compressed.rdP w).toNat := by
  rw [rs1Prime, sectionOf_toNat, Compressed.rdP, prime_toNat]

theorem rs2Prime_eq : rs2Prime w.toNat = (Compressed.rs2P w).toNat := by
  rw [rs2Prime, sectionOf_toNat, Compressed.rs2P, prime_toNat]

theorem uimm50_eq : uimm50 w.toNat = (Compressed.imm6 w).toNat := by
  rw [uimm50, sectionOf_toNat, sectionOf_toNat, Compressed.imm6, BitVec.toNat_append]

theorem imm50_eq : imm50 w.toNat = (Compressed.imm6 w).toInt := by
  rw [imm50, uimm50_eq, i_eq_toInt _ (by decide), ofInt_toNat]

theorem offset83Sdsp_eq : offset83Sdsp w.toNat = ((Compressed.uimm9Store w).toNat : Int) := by
  simp only [offset83Sdsp, sectionOf_toNat, Compressed.uimm9Store, BitVec.toNat_append,
    Nat.shiftLeft_or_distrib, ← Nat.shiftLeft_add, BitVec.toNat_ofNat, Nat.zero_mod, Nat.or_zero]
  rw [Nat.or_comm]

theorem offset83Ldsp_eq : offset83Ldsp w.toNat = ((Compressed.uimm9Load w).toNat : Int) := by
  simp only [offset83Ldsp, sectionOf_toNat, Compressed.uimm9Load, BitVec.toNat_append,
    Nat.shiftLeft_or_distrib, ← Nat.shiftLeft_add, BitVec.toNat_ofNat, Nat.zero_mod, Nat.or_zero]
  ac_rfl

theorem offset73_eq : offset73 w.toNat = ((Compressed.uimm8 w).toNat : Int) := by
  simp only [offset73, sectionOf_toNat, Compressed.uimm8, BitVec.toNat_append,
    Nat.shiftLeft_or_distrib, ← Nat.shiftLeft_add, BitVec.toNat_ofNat, Nat.zero_mod, Nat.or_zero]
  ac_rfl

theorem offset62_eq : offset62 w.toNat = ((Compressed.uimm7 w).toNat : Int) := by
  simp only [offset62, sectionOf_toNat, Compressed.uimm7, BitVec.toNat_append,
    Nat.shiftLeft_or_distrib, ← Nat.shiftLeft_add, BitVec.toNat_ofNat, Nat.zero_mod, Nat.or_zero]
  ac_rfl

theorem uimm92_eq : uimm92 w.toNat = ((Compressed.nzuimm10 w).toNat : Int) := by
  simp only [uimm92, sectionOf_toNat, Compressed.nzuimm10, BitVec.toNat_append,
    Nat.shiftLeft_or_distrib, ← Nat.shiftLeft_add, BitVec.toNat_ofNat, Nat.zero_mod, Nat.or_zero]
  ac_rfl

theorem imm94_eq : imm94 w.toNat = (Compressed.nzimm10 w).toInt := by
  have hfields : sectionOf w.toNat 12 1 <<< 9 ||| sectionOf w.toNat 6 1 <<< 4 |||
      sectionOf w.toNat 5 1 <<< 6 ||| sectionOf w.toNat 3 2 <<< 7 ||| sectionOf w.toNat 2 1 <<< 5 =
      (Compressed.nzimm10 w).toNat := by
    simp only [sectionOf_toNat, Compressed.nzimm10, BitVec.toNat_append,
      Nat.shiftLeft_or_distrib, ← Nat.shiftLeft_add, BitVec.toNat_ofNat, Nat.zero_mod,
      Nat.or_zero]
    ac_rfl
  rw [imm94, hfields, i_eq_toInt _ (by decide), ofInt_toNat]

theorem offset81_eq : offset81 w.toNat = (Compressed.branchOffset w ++ 0#1).toInt := by
  have hfields : sectionOf w.toNat 12 1 <<< 8 ||| sectionOf w.toNat 10 2 <<< 3 |||
      sectionOf w.toNat 5 2 <<< 6 ||| sectionOf w.toNat 3 2 <<< 1 ||| sectionOf w.toNat 2 1 <<< 5 =
      (Compressed.branchOffset w ++ 0#1).toNat := by
    simp only [sectionOf_toNat, Compressed.branchOffset, BitVec.toNat_append,
      Nat.shiftLeft_or_distrib, ← Nat.shiftLeft_add, BitVec.toNat_ofNat, Nat.zero_mod,
      Nat.or_zero]
    ac_rfl
  rw [offset81, hfields, i_eq_toInt _ (by decide), ofInt_toNat]

theorem offset111_eq : offset111 w.toNat = (Compressed.jumpOffset w ++ 0#1).toInt := by
  have hfields : sectionOf w.toNat 12 1 <<< 11 ||| sectionOf w.toNat 11 1 <<< 4 |||
      sectionOf w.toNat 9 2 <<< 8 ||| sectionOf w.toNat 8 1 <<< 10 |||
      sectionOf w.toNat 7 1 <<< 6 ||| sectionOf w.toNat 6 1 <<< 7 |||
      sectionOf w.toNat 3 3 <<< 1 ||| sectionOf w.toNat 2 1 <<< 5 =
      (Compressed.jumpOffset w ++ 0#1).toNat := by
    simp only [sectionOf_toNat, Compressed.jumpOffset, BitVec.toNat_append,
      Nat.shiftLeft_or_distrib, ← Nat.shiftLeft_add, BitVec.toNat_ofNat, Nat.zero_mod,
      Nat.or_zero]
    ac_rfl
  rw [offset111, hfields, i_eq_toInt _ (by decide), ofInt_toNat]

attribute [local simp] mnemonicOf getMatchers lookupMnemonic MNEMONICS List.lookup_cons op_eq
  funct3_eq

theorem mnemonicOf_q0 (hq : Compressed.quadrant w = 0) : mnemonicOf w.toNat =
    match Compressed.funct3 w with
    | 0b000#3 => some .ADDI4SPN
    | 0b010#3 => some .LW
    | 0b011#3 => some .LD
    | 0b110#3 => some .SW
    | 0b111#3 => some .SD
    | _ => some .UNDEFINED := by
  rcases Compressed.cases3 (Compressed.funct3 w) with h | h | h | h | h | h | h | h <;>
    simp [hq, h]

theorem mnemonicOf_q1 (hq : Compressed.quadrant w = 1) (halu : Compressed.funct3 w ≠ 4) :
    mnemonicOf w.toNat =
      match Compressed.funct3 w with
      | 0b000#3 => some .ADDI
      | 0b001#3 => some .ADDIW
      | 0b010#3 => some .LI
      | 0b011#3 => some (if Compressed.rd w = 2 then .ADDI16SP else .LUI)
      | 0b101#3 => some .J
      | 0b110#3 => some .BEQZ
      | _ => some .BNEZ := by
  have hrd : rd w.toNat = 2 ↔ Compressed.rd w = 2 := by
    rw [rd_eq]
    exact (BitVec.toNat_inj (y := 2#5))
  rcases Compressed.cases3 (Compressed.funct3 w) with h | h | h | h | h | h | h | h
  rotate_left 4
  · exact absurd h halu
  all_goals
    simp [hq, h, hrd]

theorem mnemonicOf_alu (hq : Compressed.quadrant w = 1) (halu : Compressed.funct3 w = 4) :
    mnemonicOf w.toNat =
      match w.extractLsb' 10 2 with
      | 0b00#2 => some .SRLI
      | 0b01#2 => some .SRAI
      | 0b10#2 => some .ANDI
      | _ =>
          match w.extractLsb' 12 1, w.extractLsb' 5 2 with
          | 0#1, 0b00#2 => some .SUB
          | 0#1, 0b01#2 => some .XOR
          | 0#1, 0b10#2 => some .OR
          | 0#1, 0b11#2 => some .AND
          | 1#1, 0b00#2 => some .SUBW
          | 1#1, 0b01#2 => some .ADDW
          | _, _ => some .UNDEFINED := by
  have hfunct6 := funct6_eq w
  rw [halu] at hfunct6
  rcases Compressed.cases1 (w.extractLsb' 12 1) with hb | hb <;>
    rcases Compressed.cases2 (w.extractLsb' 10 2) with h | h | h | h <;>
    rw [hb, h] at hfunct6
  all_goals
    rcases Compressed.cases2 (w.extractLsb' 5 2) with h2 | h2 | h2 | h2 <;>
    simp [funct2_eq, hfunct6, hq, h, hb, h2, halu]

theorem mnemonicOf_q2 (hq : Compressed.quadrant w = 2) : mnemonicOf w.toNat =
    match Compressed.funct3 w with
    | 0b000#3 => some .SLLI
    | 0b011#3 => some .LDSP
    | 0b100#3 =>
        if w.extractLsb' 12 1 = 0 then
          some (if Compressed.rs2 w ≠ 0 then .MV else .JR)
        else if Compressed.rs2 w ≠ 0 then some .ADD
        else if Compressed.rd w ≠ 0 then some .JALR else none
    | 0b111#3 => some .SDSP
    | _ => some .UNDEFINED := by
  have hrs2 : rs2 w.toNat = 0 ↔ Compressed.rs2 w = 0 := by
    rw [rs2_eq]
    exact (BitVec.toNat_inj (y := 0#5))
  have hrs1 : rs1 w.toNat = 0 ↔ Compressed.rd w = 0 := by
    rw [rs1_eq]
    exact (BitVec.toNat_inj (y := 0#5))
  rcases Compressed.cases3 (Compressed.funct3 w) with h | h | h | h | h | h | h | h
  rotate_left 4
  · rcases Compressed.cases1 (w.extractLsb' 12 1) with hb | hb <;>
      by_cases h2 : Compressed.rs2 w = 0 <;>
      simp [bit12_eq, hq, h, hb, hrs2, hrs1, h2]
  all_goals
    simp [hq, h]

end Riscvm.Python.Rv64c
