import Riscvm.Lockstep.Fields
import Riscvm.Lockstep.Harts

/-!
# Agreement on compressed instructions

Every branch of the Python `actor` is matched with the branch of `rvc::execute` for the same
word. They part in one: the sum of C.ADDIW is one of unbounded integers in Python and is
stored without another truncation to 32 bits.
-/

namespace Riscvm.Lockstep

open Exec TwosComplement Rv64rs Compressed Python.Rv64c

section Words

theorem setWidth_sub (x y : U64) : (x - y).setWidth 32 = x.setWidth 32 - y.setWidth 32 := by
  rw [BitVec.sub_eq_add_neg, BitVec.setWidth_add _ _ (by decide),
    BitVec.setWidth_neg_of_le (by decide), BitVec.sub_eq_add_neg]

variable {a b : Int} {x y : U64}

theorem word_add (ha : BitVec.ofInt 64 a = x) (hb : BitVec.ofInt 64 b = y) :
    BitVec.ofInt 64 (a + b) = x + y := by
  rw [BitVec.ofInt_add, ha, hb]

theorem word_sub (ha : BitVec.ofInt 64 a = x) (hb : BitVec.ofInt 64 b = y) :
    BitVec.ofInt 64 (a - b) = x - y := by
  rw [ofInt_sub, ha, hb]

/-- A field of at most 32 bits, as the interpreter widens it. -/
theorem word_nat {n : Nat} (v : BitVec n) (h : n ≤ 32) :
    BitVec.ofInt 64 (v.toNat : Int) = (v.setWidth 32).setWidth 64 := by
  rw [BitVec.ofInt_natCast, BitVec.ofNat_toNat, Bits.setWidth_setWidth_of_ge _ h]

/-- A 32-bit result, sign-extended. -/
theorem word_i32 (a : Int) :
    BitVec.ofInt 64 (Python.i 32 a) = ((BitVec.ofInt 64 a).setWidth 32).signExtend 64 := by
  rw [Python.i_eq_toInt _ (by decide), setWidth_ofInt _ (by decide)]
  rfl

/-- The word that LW loads. -/
theorem word_lw (v : Int) :
    BitVec.ofInt 64 (Python.i 32 v) = sext ((BitVec.ofInt 64 v).setWidth 32) 32 := by
  rw [word_i32, sext_eq (by decide) (by decide), BitVec.setWidth_eq]

theorem word_imm50 (w : U16) : BitVec.ofInt 64 (imm50 w.toNat) = (imm6 w).signExtend 64 := by
  rw [Python.Rv64c.imm50_eq]
  rfl

theorem nz_of_ne {σ : Type} {n : Nat} {v : BitVec n} (h : v ≠ 0) (hn : n ≤ 64) :
    (CInstruction.nz (v.signExtend 64) : Call σ U64) = pure (v.signExtend 64) :=
  if_neg fun h0 => h ((Bits.signExtend_eq_zero _ hn).mp h0)

theorem word_imm94 (w : U16) :
    BitVec.ofInt 64 (imm94 w.toNat) = (nzimm10 w).signExtend 64 := by
  rw [imm94_eq]
  rfl

theorem word_offset81 (w : U16) :
    BitVec.ofInt 64 (offset81 w.toNat) = (branchOffset w ++ 0#1).signExtend 64 := by
  rw [Python.Rv64c.offset81_eq]
  rfl

theorem word_offset111 (w : U16) :
    BitVec.ofInt 64 (offset111 w.toNat) = (jumpOffset w ++ 0#1).signExtend 64 := by
  rw [Python.Rv64c.offset111_eq]
  rfl

theorem shamt_of_nonzero {σ : Type} (w : U16) (h : (uimm50 w.toNat : Int) ≠ 0) :
    ((CInstruction.new w).shamt : Call σ U32) = pure ((imm6 w).setWidth 32) := by
  have hz : imm6 w ≠ 0 := by
    intro hz
    rw [Python.Rv64c.uimm50_eq, hz] at h
    exact h rfl
  rw [CInstruction.shamt, Compressed.uimm5_0_eq]
  exact if_neg fun h0 => hz ((Bits.setWidth_eq_zero _ (by decide)).mp h0)

theorem word_shiftRight (a : U64) (w : U16) :
    BitVec.ofInt 64 ((a.toNat : Int) >>> (uimm50 w.toNat : Int).toNat) =
      a >>> ((imm6 w).setWidth 32).toNat := by
  rw [Int.toNat_natCast, Python.Rv64c.uimm50_eq, toNat_shamt]
  change BitVec.ofInt 64 ((a.toNat >>> (imm6 w).toNat : Nat) : Int) = _
  rw [BitVec.ofInt_natCast, ← BitVec.toNat_ushiftRight, BitVec.ofNat_toNat, BitVec.setWidth_eq]

theorem word_sshiftRight (a : U64) (w : U16) :
    BitVec.ofInt 64 (Python.i 64 (a.toNat : Int) >>> (uimm50 w.toNat : Int).toNat) =
      a.sshiftRight ((imm6 w).setWidth 32).toNat := by
  rw [Int.toNat_natCast, Python.Rv64c.uimm50_eq, toNat_shamt, Python.i_eq_toInt _ (by decide),
    ofInt_toNat]
  rfl

theorem word_shiftLeft {a : Int} {x : U64} (ha : BitVec.ofInt 64 a = x) (w : U16) :
    BitVec.ofInt 64 (a * 2 ^ (uimm50 w.toNat : Int).toNat) =
      x <<< ((imm6 w).setWidth 32).toNat := by
  rw [Int.toNat_natCast, Python.Rv64c.uimm50_eq, toNat_shamt, ofInt_shiftLeft, ha]

end Words

/-- `x2`, as an index of either register file. -/
theorem sp_index : 2 = (2 : BitVec 5).toNat := rfl

/-- `x1`, as an index of either register file. -/
theorem ra_index : 1 = (1 : BitVec 5).toNat := rfl

/-- The work of `actor` and the pc it assigns at its end. -/
def nextPc (x : Nat) : Python.Call (Python.Hart Python.Bus) Int := do
  perform x (← getMnemonic x)

theorem actor_eq (x : Nat) :
    (actor x : Python.Call (Python.Hart Python.Bus) Unit) = nextPc x >>= Python.setPc := by
  rw [actor, nextPc, bind_assoc]

section Access

variable {hart : Python.Hart Python.Bus} {m : Machine}

theorem Same.word (same : Same hart m) {k : Nat} {i : BitVec 5} (hk : k = i.toNat) :
    BitVec.ofInt 64 (hart.cpu.reg k) = m.cpu.regs.read i := by
  rw [hk, same.reg_eq]

theorem Same.reg_toNat (same : Same hart m) {k : Nat} {i : BitVec 5} (hk : k = i.toNat) :
    hart.cpu.reg k = ((m.cpu.regs.read i).toNat : Int) := by
  rw [hk, same.registers]

theorem Same.next (same : Same hart m) {offset : Int} {offset' : U64}
    (h : BitVec.ofInt 64 offset = offset') :
    BitVec.ofInt 64 ((hart.cpu.pc.toNat : Int) + offset) = m.cpu.pc + offset' := by
  rw [BitVec.ofInt_add, ofInt_toNat, same.pc, h]

namespace Agrees

theorem of_mnemonic {x : Nat} {mnemonic : Mnemonic} {y : Call Machine U64}
    (h : mnemonicOf x = some mnemonic) (agrees : Agrees Same hart m (perform x mnemonic) y) :
    Agrees Same hart m (nextPc x) y := by
  unfold nextPc getMnemonic
  rw [h]
  exact agrees

theorem undefined {x : Nat} {y : Call Machine U64} (h : mnemonicOf x = some .UNDEFINED) :
    Agrees Same hart m (nextPc x) y := by
  refine of_mnemonic h (.fails ?_)
  rintro value hart' ⟨⟩

theorem attributeError {x : Nat} {y : Call Machine U64} (h : mnemonicOf x = none) :
    Agrees Same hart m (nextPc x) y := by
  refine .fails ?_
  unfold nextPc getMnemonic
  rw [h]
  rintro value hart' ⟨⟩

end Agrees

variable [Host] (w : U16)

/-- The word is C.ADDIW, and the sum of the low half of its register `a` and the immediate leaves
the signed 32-bit range. -/
def SumOverflows (a : U64) : Prop :=
  quadrant w = 1 ∧ Compressed.funct3 w = 1 ∧ Compressed.rd w ≠ 0 ∧
    ¬(-2 ^ 31 ≤ (a.setWidth 32).toInt + (imm6 w).toInt ∧
      (a.setWidth 32).toInt + (imm6 w).toInt < 2 ^ 31)

instance (a : U64) : Decidable (SumOverflows w a) := inferInstanceAs (Decidable (_ ∧ _))

omit [Host] in
theorem rd_ne_zero (h : Python.Rv64c.rd w.toNat ≠ 0) : Compressed.rd w ≠ 0 := by
  intro hrd
  rw [Python.Rv64c.rd_eq, hrd] at h
  exact h rfl

omit [Host] in
/-- In range, the sum is that of 32-bit words. -/
theorem word_addiw {a : Int} {x : U64} (ha : BitVec.ofInt 64 a = x) (imm : BitVec 6)
    (hlow : -2 ^ 31 ≤ (x.setWidth 32).toInt + imm.toInt)
    (hhigh : (x.setWidth 32).toInt + imm.toInt < 2 ^ 31) :
    BitVec.ofInt 64 (Python.i 32 a + imm.toInt) =
      (x.setWidth 32 + (imm.signExtend 64).setWidth 32).signExtend 64 := by
  have himm : ((imm.signExtend 64).setWidth 32).toInt = imm.toInt := by
    rw [BitVec.signExtend, setWidth_ofInt _ (by decide), ← BitVec.signExtend,
      BitVec.toInt_signExtend_of_le (by decide)]
  have hlow' : Python.i 32 a = (x.setWidth 32).toInt := by
    rw [Python.i_eq_toInt _ (by decide), ← ha, setWidth_ofInt _ (by decide)]
  rw [hlow', BitVec.signExtend, BitVec.toInt_add, himm, Int.bmod_eq_of_le hlow hhigh]

theorem executeQ0_agrees (same : Same hart m) (hq : quadrant w = 0) :
    Agrees Same hart m (nextPc w.toNat) (Rvc.executeQ0 (.new w) (m.cpu.pc + 2)) := by
  have hnext := same.next (show BitVec.ofInt 64 2 = 2 from rfl)
  have hm := mnemonicOf_q0 w hq
  have word4 : Rv64rs.Ram.Width 4 := by decide
  have word8 : Rv64rs.Ram.Width 8 := by decide
  have hoffset6_2 := (congrArg (BitVec.ofInt 64) (offset62_eq w)).trans (word_nat _ (by decide))
  have hoffset7_3 := (congrArg (BitVec.ofInt 64) (offset73_eq w)).trans (word_nat _ (by decide))
  have hrs1 := Python.Rv64c.rs1Prime_eq w
  have hrs2 := Python.Rv64c.rs2Prime_eq w
  unfold Rvc.executeQ0
  rw [Compressed.funct3_eq]
  simp only [Compressed.rs1Prime_eq, Compressed.rs2Prime_eq, offset6_2_eq, offset7_3_eq]
  rcases cases3 (Compressed.funct3 w) with h | h | h | h | h | h | h | h <;> rw [h] at hm ⊢
  · refine .of_mnemonic hm (.getCpu (.nonzero fun hv => ?_))
    have hz : nzuimm10 w ≠ 0 := by
      rintro hz
      rw [uimm92_eq, hz] at hv
      exact hv rfl
    simp only [CInstruction.nzuimm9_2, uimm9_2_eq, Bits.setWidth_eq_zero _ (show 10 ≤ 32 by decide),
      hz, if_false, pure_bind]
    refine .readReg (.assign same hrs2 (word_add (same.word sp_index) ?_) hnext)
    rw [uimm92_eq, word_nat _ (by decide)]
  · exact .undefined hm
  · exact .of_mnemonic hm (.getCpu (.readReg (.load same (word_add (same.word hrs1) hoffset6_2) rfl
      word4 fun v => .assign same hrs2 (word_lw v) hnext)))
  · exact .of_mnemonic hm (.getCpu (.readReg (.load same (word_add (same.word hrs1) hoffset7_3) rfl
      word8 fun v => .assign same hrs2 rfl hnext)))
  · exact .undefined hm
  · exact .undefined hm
  · exact .of_mnemonic hm (.getCpu (.readReg (.readReg (.store same
      (word_add (same.word hrs1) hoffset6_2) rfl word4 (same.reg_toNat hrs2) hnext))))
  · exact .of_mnemonic hm (.getCpu (.readReg (.readReg (.store same
      (word_add (same.word hrs1) hoffset7_3) rfl word8 (same.reg_toNat hrs2) hnext))))

omit [Host] in
theorem executeQ1Alu_agrees (same : Same hart m) (hq : quadrant w = 1)
    (h : Compressed.funct3 w = 4) :
    Agrees Same hart m (nextPc w.toNat) (Rvc.executeQ1Alu (.new w) (m.cpu.pc + 2)) := by
  have hnext := same.next (show BitVec.ofInt 64 2 = 2 from rfl)
  have hm := mnemonicOf_alu w hq h
  have hrs1 := Python.Rv64c.rs1Prime_eq w
  have hrs2 := Python.Rv64c.rs2Prime_eq w
  have ha := same.word hrs1
  have hb := same.word hrs2
  unfold Rvc.executeQ1Alu
  rw [funct6_low]
  simp only [funct6_bit2, Compressed.funct2_eq, Compressed.rs1Prime_eq, Compressed.rs2Prime_eq,
    imm5_0_eq]
  rcases cases2 (w.extractLsb' 10 2) with h | h | h | h <;> rw [h] at hm ⊢
  · refine .of_mnemonic hm (.getCpu (.nonzero fun hv => ?_))
    simp only [shamt_of_nonzero w hv, pure_bind]
    refine .readReg (.assign same hrs1 ?_ hnext)
    rw [same.reg_toNat hrs1]
    exact word_shiftRight _ w
  · refine .of_mnemonic hm (.getCpu (.nonzero fun hv => ?_))
    simp only [shamt_of_nonzero w hv, pure_bind]
    refine .readReg (.assign same hrs1 ?_ hnext)
    rw [same.reg_toNat hrs1]
    exact word_sshiftRight _ w
  · exact .of_mnemonic hm (.getCpu (.readReg (.assign same hrs1
      ((ofInt_land _ _).trans (congrArg₂ _ ha (word_imm50 w))) hnext)))
  · rcases cases1 (w.extractLsb' 12 1) with hb1 | hb1 <;> rw [hb1] at hm ⊢
    · rcases cases2 (w.extractLsb' 5 2) with h2 | h2 | h2 | h2 <;> rw [h2] at hm ⊢
      all_goals
        refine .of_mnemonic hm (.getCpu (.readReg (.readReg ?_)))
        rw [if_pos rfl]
      · exact .assign same hrs1 (word_sub ha hb) hnext
      · exact .assign same hrs1 ((ofInt_xor _ _).trans (congrArg₂ _ ha hb)) hnext
      · exact .assign same hrs1 ((ofInt_lor _ _).trans (congrArg₂ _ ha hb)) hnext
      · exact .assign same hrs1 ((ofInt_land _ _).trans (congrArg₂ _ ha hb)) hnext
    · rcases cases2 (w.extractLsb' 5 2) with h2 | h2 | h2 | h2 <;> rw [h2] at hm ⊢
      · refine .of_mnemonic hm (.getCpu (.readReg (.readReg ?_)))
        rw [if_neg (by decide)]
        refine .assign same hrs1 ?_ hnext
        rw [word_i32, word_sub ha hb, setWidth_sub]
      · refine .of_mnemonic hm (.getCpu (.readReg (.readReg ?_)))
        rw [if_neg (by decide)]
        refine .assign same hrs1 ?_ hnext
        rw [word_i32, word_add ha hb, BitVec.setWidth_add _ _ (by decide)]
      · exact .undefined hm
      · exact .undefined hm

omit [Host] in
theorem executeQ1_agrees (same : Same hart m) (hq : quadrant w = 1)
    (inRange : ¬SumOverflows w (m.cpu.regs.read (Compressed.rd w))) :
    Agrees Same hart m (nextPc w.toNat) (Rvc.executeQ1 (.new w) m.cpu.pc (m.cpu.pc + 2)) := by
  by_cases halu : Compressed.funct3 w = 4
  · unfold Rvc.executeQ1
    rw [Compressed.funct3_eq, halu]
    exact executeQ1Alu_agrees w same hq halu
  have hnext := same.next (show BitVec.ofInt 64 2 = 2 from rfl)
  have hm := mnemonicOf_q1 w hq halu
  have hrd := Python.Rv64c.rd_eq w
  have ha := same.word hrd
  have htaken := same.next (word_offset81 w)
  have hzero : hart.cpu.reg (rs1Prime w.toNat) = 0 ↔ m.cpu.regs.read (rdP w) = 0 := by
    rw [same.reg_toNat (Python.Rv64c.rs1Prime_eq w)]
    exact Int.natCast_eq_zero.trans (BitVec.toNat_inj (y := 0#64))
  unfold Rvc.executeQ1
  rw [Compressed.funct3_eq]
  simp only [Compressed.rd_eq, Compressed.rs1Prime_eq, imm5_0_eq, offset8_1_eq, offset11_1_eq]
  rcases cases3 (Compressed.funct3 w) with h | h | h | h | h | h | h | h <;> rw [h] at hm ⊢
  · exact .of_mnemonic hm (.getCpu (.nonzero fun _ => .readReg (.assign same hrd
      (word_add ha (word_imm50 w)) hnext)))
  · refine .of_mnemonic hm (.getCpu (.assert fun hne => ?_))
    have hrd0 := rd_ne_zero w hne
    simp only [hrd0, if_false]
    refine .readReg (.assign same hrd ?_ hnext)
    rw [Python.Rv64c.imm50_eq]
    have hin := not_not.mp fun hout => inRange ⟨hq, h, hrd0, hout⟩
    exact word_addiw ha _ hin.1 hin.2
  · refine .of_mnemonic hm (.getCpu (.assert fun hne => ?_))
    have hrd0 := rd_ne_zero w hne
    simp only [hrd0, if_false]
    exact .assign same hrd (word_imm50 w) hnext
  · by_cases h2 : Compressed.rd w = 2
    · simp only [h2, if_true] at hm ⊢
      refine .of_mnemonic hm (.getCpu (.assert fun _ => .nonzero fun hv => ?_))
      have hz : nzimm10 w ≠ 0 := by
        intro hz
        rw [imm94_eq, hz] at hv
        exact hv rfl
      simp only [nzimm9_4_eq, nz_of_ne hz (show 10 ≤ 64 by decide), pure_bind]
      exact .readReg (.assign same sp_index (word_add (same.word sp_index) (word_imm94 w)) hnext)
    · simp only [h2, if_false, or_false] at hm ⊢
      refine .of_mnemonic hm (.getCpu (.assert fun hne => .nonzero fun hv => ?_))
      have hz : imm6 w ≠ 0 := by
        intro hz
        rw [Python.Rv64c.imm50_eq, hz] at hv
        exact hv rfl
      simp only [rd_ne_zero w hne.1, if_false, CInstruction.nzimm5_0, imm5_0_eq,
        nz_of_ne hz (show 6 ≤ 64 by decide), pure_bind]
      refine .assign same hrd ?_ hnext
      rw [ofInt_shiftLeft, word_imm50]
  · exact absurd h halu
  · exact .of_mnemonic hm (.getCpu (.jump same (same.next (word_offset111 w))))
  · refine .of_mnemonic hm (.getCpu (.readReg (.jump same ?_)))
    by_cases ht : m.cpu.regs.read (rdP w) = 0
    · rw [if_pos (hzero.mpr ht), if_pos (by exact ht), htaken]
    · rw [if_neg (hzero.not.mpr ht), if_neg (by exact ht), hnext]
  · refine .of_mnemonic hm (.getCpu (.readReg (.jump same ?_)))
    by_cases ht : m.cpu.regs.read (rdP w) = 0
    · rw [if_neg (not_not_intro (hzero.mpr ht)), if_neg (not_not_intro (by exact ht)), hnext]
    · rw [if_pos (hzero.not.mpr ht), if_pos (by exact ht), htaken]

omit [Host] in
theorem executeQ2Move_agrees (same : Same hart m) (hq : quadrant w = 2)
    (h : Compressed.funct3 w = 4) :
    Agrees Same hart m (nextPc w.toNat) (Rvc.executeQ2Move (.new w) m.cpu.pc (m.cpu.pc + 2)) := by
  have hnext := same.next (show BitVec.ofInt 64 2 = 2 from rfl)
  have hm := mnemonicOf_q2 w hq
  have hrd := Python.Rv64c.rd_eq w
  have hrs1 := Python.Rv64c.rs1_eq w
  have ha := same.word hrd
  have hb := same.word (Python.Rv64c.rs2_eq w)
  rw [h] at hm
  unfold Rvc.executeQ2Move
  simp only [CInstruction.rs1, Compressed.rd_eq, Compressed.rs2_eq, Compressed.bit12_eq,
    Bits.setWidth_eq_zero _ (show 1 ≤ 32 by decide)]
  by_cases hbit : w.extractLsb' 12 1 = 0
  · by_cases hrs2 : Compressed.rs2 w = 0
    · simp only [hbit, hrs2, if_true, ne_eq, not_true, if_false] at hm ⊢
      refine .of_mnemonic hm (.getCpu (.assert fun hne => .assert fun _ => ?_))
      simp only [rd_ne_zero w hne, if_false]
      exact .readReg (f := pure) (.jump same (same.word hrs1))
    · simp only [hbit, hrs2, if_true, ne_eq, not_false_eq_true] at hm ⊢
      refine .of_mnemonic hm (.getCpu (.assert fun hne => .assert fun _ => ?_))
      simp only [rd_ne_zero w hne, if_false]
      exact .readReg (.assign same hrs1 hb hnext)
  · by_cases hrs2 : Compressed.rs2 w = 0
    · by_cases hrd0 : Compressed.rd w = 0
      · simp only [hbit, hrs2, hrd0, ne_eq, not_true, if_false] at hm
        exact .attributeError hm
      · simp only [hbit, hrs2, hrd0, ne_eq, not_true, not_false_eq_true, if_true, if_false] at hm ⊢
        refine .of_mnemonic hm (.getCpu (.assert fun _ => .assert fun _ => ?_))
        exact .readReg (.assign same ra_index hnext (same.word hrs1))
    · simp only [hbit, hrs2, ne_eq, not_false_eq_true, if_true, if_false] at hm ⊢
      refine .of_mnemonic hm (.getCpu (.assert fun hne => .assert fun _ => ?_))
      simp only [rd_ne_zero w hne, if_false]
      exact .readReg (.readReg (.assign same hrd (word_add ha hb) hnext))

theorem executeQ2_agrees (same : Same hart m) (hq : quadrant w = 2) :
    Agrees Same hart m (nextPc w.toNat) (Rvc.executeQ2 (.new w) m.cpu.pc (m.cpu.pc + 2)) := by
  have hnext := same.next (show BitVec.ofInt 64 2 = 2 from rfl)
  have hm := mnemonicOf_q2 w hq
  have hrd := Python.Rv64c.rd_eq w
  have ha := same.word hrd
  have word8 : Rv64rs.Ram.Width 8 := by decide
  have hload := (congrArg (BitVec.ofInt 64) (offset83Ldsp_eq w)).trans (word_nat _ (by decide))
  have hstore := (congrArg (BitVec.ofInt 64) (offset83Sdsp_eq w)).trans (word_nat _ (by decide))
  unfold Rvc.executeQ2
  rw [Compressed.funct3_eq]
  simp only [Compressed.rd_eq, Compressed.rs2_eq, offset8_3Ldsp_eq, offset8_3Sdsp_eq]
  rcases cases3 (Compressed.funct3 w) with h | h | h | h | h | h | h | h <;> rw [h] at hm ⊢
  · refine .of_mnemonic hm (.getCpu (.nonzero fun hv => ?_))
    simp only [shamt_of_nonzero w hv, pure_bind]
    exact .readReg (.assign same hrd (word_shiftLeft ha w) hnext)
  · exact .undefined hm
  · exact .undefined hm
  · refine .of_mnemonic hm (.getCpu (.assert fun hne => ?_))
    simp only [rd_ne_zero w hne, if_false]
    exact .readReg (.load same (word_add (same.word sp_index) hload) rfl word8 fun v =>
      .assign same hrd rfl hnext)
  · exact executeQ2Move_agrees w same hq h
  · exact .undefined hm
  · exact .undefined hm
  · have hvalue := same.reg_toNat (Python.Rv64c.rs2_eq w)
    exact .of_mnemonic hm (.getCpu (.readReg (.readReg (.store same
      (word_add (same.word sp_index) hstore) rfl word8 hvalue hnext))))

theorem execute_agrees (same : Same hart m) (hlow : quadrant w ≠ 0b11)
    (inRange : ¬SumOverflows w (m.cpu.regs.read (Compressed.rd w))) :
    Agrees Same hart m (nextPc w.toNat) (Rvc.execute (.new w)) := by
  have hexecute : Agrees Same hart m (nextPc w.toNat) (match (quadrant w).setWidth 32 with
      | 0b00#32 => Rvc.executeQ0 (.new w) (m.cpu.pc + 2)
      | 0b01#32 => Rvc.executeQ1 (.new w) m.cpu.pc (m.cpu.pc + 2)
      | 0b10#32 => Rvc.executeQ2 (.new w) m.cpu.pc (m.cpu.pc + 2)
      | _ => Rvc.illegalCInstruction (.new w)) := by
    rcases cases2 (quadrant w) with h | h | h | h <;> rw [h]
    · exact executeQ0_agrees w same h
    · exact executeQ1_agrees w same h inRange
    · exact executeQ2_agrees w same h
    · exact absurd h hlow
  rw [← Compressed.op_eq] at hexecute
  exact hexecute

/-- Where the Python actor returns, so does the interpreter, and at its next pc the harts have the
same registers, pc and memory again. -/
def AgreeOn (w : U16) (hart : Python.Hart Python.Bus) (m : Machine) : Prop :=
  ∀ hart', actor w.toNat hart = .ok () hart' →
    ∃ next m', Rvc.execute (.new w) m = .ok next m' ∧
      Same hart' { m' with cpu := { m'.cpu with pc := next } }

omit [Host] in
/-- Out of range, the sum is not that of 32-bit words. -/
theorem word_addiw_ne (x : U64) (imm : BitVec 6)
    (hout : ¬(-2 ^ 31 ≤ (x.setWidth 32).toInt + imm.toInt ∧
      (x.setWidth 32).toInt + imm.toInt < 2 ^ 31)) :
    BitVec.ofInt 64 ((x.setWidth 32).toInt + imm.toInt) ≠
      (x.setWidth 32 + (imm.signExtend 64).setWidth 32).signExtend 64 := by
  intro heq
  have hlow := BitVec.le_toInt (x.setWidth 32)
  have hhigh := BitVec.toInt_lt (x := x.setWidth 32)
  have hlow' := BitVec.le_toInt imm
  have hhigh' := BitVec.toInt_lt (x := imm)
  have hsum := congrArg BitVec.toInt heq
  rw [BitVec.toInt_ofInt, Int.bmod_eq_of_le (by omega) (by omega),
    BitVec.toInt_signExtend_of_le (by decide)] at hsum
  rw [hsum] at hout
  exact hout ⟨BitVec.le_toInt _, BitVec.toInt_lt⟩

/-- Both emulators run C.ADDIW; one keeps the sum of integers, the other that of words. -/
theorem not_agreeOn (same : Same hart m)
    (overflows : SumOverflows w (m.cpu.regs.read (Compressed.rd w))) : ¬AgreeOn w hart m := by
  obtain ⟨hq, h, hrd, hout⟩ := overflows
  intro agree
  have hne : Python.Rv64c.rd w.toNat ≠ 0 := fun h0 =>
    hrd (BitVec.eq_of_toNat_eq ((Python.Rv64c.rd_eq w).symm.trans h0))
  have hm := mnemonicOf_q1 w hq (by rw [h]; decide)
  rw [h] at hm
  have hpython : nextPc w.toNat hart = .ok ((hart.cpu.pc.toNat : Int) + 2)
      { hart with cpu := { hart.cpu with
          registers := Python.Cpu.setReg hart.cpu.registers (Python.Rv64c.rd w.toNat)
            (Python.i 32 (hart.cpu.reg (Python.Rv64c.rd w.toNat)) + imm50 w.toNat) } } := by
    rw [nextPc, getMnemonic, hm]
    exact assert_bind hne _
  have hrust : Rvc.execute (.new w) m = .ok (m.cpu.pc + 2)
      { m with cpu := { m.cpu with
          regs := m.cpu.regs.write (Compressed.rd w)
            (((m.cpu.regs.read (Compressed.rd w)).setWidth 32 +
              ((imm6 w).signExtend 64).setWidth 32).signExtend 64) } } := by
    unfold Rvc.execute
    rw [get_bind_apply, Compressed.op_eq, hq]
    change Rvc.executeQ1 _ _ _ m = _
    unfold Rvc.executeQ1
    rw [Compressed.funct3_eq, h]
    simp only [Compressed.rd_eq, hrd, if_false, imm5_0_eq]
    rfl
  have hactor := (congrFun (actor_eq w.toNat) hart).trans (bind_ok hpython _)
  obtain ⟨next, m', hexecute, same'⟩ := agree _ hactor
  cases hrust.symm.trans hexecute
  -- the two values of `rd` are the two sums
  have hregister := same'.registers (Compressed.rd w)
  have hread := (Python.Cpu.reg_setReg hart.cpu (Python.Rv64c.rd w.toNat) (Compressed.rd w).toNat
    (Python.i 32 (hart.cpu.reg (Python.Rv64c.rd w.toNat)) + imm50 w.toNat)).trans
    (if_pos ⟨(Python.Rv64c.rd_eq w).symm, hne⟩)
  have hread' := (Registers.read_write m.cpu.regs (Compressed.rd w) (Compressed.rd w)
    (((m.cpu.regs.read (Compressed.rd w)).setWidth 32 +
      ((imm6 w).signExtend 64).setWidth 32).signExtend 64)).trans (if_pos ⟨rfl, hrd⟩)
  have hsums := hread.symm.trans
    (hregister.trans (congrArg (fun x : U64 => (x.toNat : Int)) hread'))
  have hlow : Python.i 32 (hart.cpu.reg (Python.Rv64c.rd w.toNat)) =
      ((m.cpu.regs.read (Compressed.rd w)).setWidth 32).toInt := by
    rw [Python.i_eq_toInt _ (by decide), ← same.word (Python.Rv64c.rd_eq w),
      setWidth_ofInt _ (by decide)]
  rw [hlow, Python.Rv64c.imm50_eq] at hsums
  exact word_addiw_ne _ _ hout (BitVec.eq_of_toNat_eq (Int.ofNat.inj hsums))

/-- The emulators agree on a compressed word exactly where it is not a C.ADDIW whose sum leaves
the signed 32-bit range. -/
theorem agreeOn_iff (same : Same hart m) (hlow : quadrant w ≠ 0b11) :
    AgreeOn w hart m ↔ ¬SumOverflows w (m.cpu.regs.read (Compressed.rd w)) := by
  refine ⟨fun agree overflows => not_agreeOn w same overflows agree, fun inRange => ?_⟩
  intro hart' h
  rw [actor_eq, bind_eq_ok] at h
  obtain ⟨next, hart₁, hnext, hset⟩ := h
  cases hset
  obtain ⟨m', hexecute, same'⟩ := execute_agrees w same hlow inRange next hart₁ hnext
  exact ⟨_, m', hexecute, same'.registers, rfl, same'.ram, same'.bare, same'.bare'⟩

end Access

section Example

attribute [local instance] Host.dev

/-- A hart with `value` in `a0` and a small RAM. -/
def hartWith (value : U64) : Machine where
  cpu := { Cpu.new 0 with regs := Registers.new.write 10 value }
  bus := { Bus.new .detached with ram := .new 16, ramRange := ⟨0x80000000, 16⟩ }

theorem same_hartWith (value : U64) : Same (toPython (hartWith value)) (hartWith value) :=
  same_toPython (show (Cpu.new 0).csrs.get Csr.SATP >>> 60 = Mmu.MODE_BARE by decide) rfl
    (show 0x80000000 + 16 < 2 ^ 64 by decide)

/-- `c.addiw a0, 1` where the sum is in range. -/
theorem agreeOn_addiw : AgreeOn 0x2505 (toPython (hartWith 1)) (hartWith 1) :=
  (agreeOn_iff 0x2505 (same_hartWith 1) (by decide)).mpr (by decide)

/-- `c.addiw a0, 1` on the largest 32-bit number. -/
theorem addiw_disagrees :
    Same (toPython (hartWith 0x7fffffff)) (hartWith 0x7fffffff) ∧ quadrant 0x2505 ≠ 0b11 ∧
      ¬AgreeOn 0x2505 (toPython (hartWith 0x7fffffff)) (hartWith 0x7fffffff) :=
  ⟨same_hartWith _, by decide, not_agreeOn 0x2505 (same_hartWith _) (by decide)⟩

end Example

end Riscvm.Lockstep
