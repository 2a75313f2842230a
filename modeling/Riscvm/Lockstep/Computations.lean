import Riscvm.Lockstep.TimedFetch

/-!
# Agreement on computations, branches and jumps

The actor of Python and the executor of Rust compute the same value from alike harts, for every
mnemonic that reads and writes registers only.
-/

namespace Riscvm.Lockstep

open Exec TwosComplement Rv64rs Python.Rv64i

section Rules

variable {w : U32} {hart : Python.Hart Python.TimerBoard} {m : Machine} {mnemonic : Mnemonic}

theorem Running.reg (run : Running w hart m) {k : Nat} {i : BitVec 5} (hk : k = i.toNat) :
    hart.cpu.reg k = ((m.cpu.regs.read i).toNat : Int) := by
  rw [hk, run.cpu.registers]

theorem Running.pc_add (run : Running w hart m) {offset : Int} {offset' : U64}
    (h : BitVec.ofInt 64 offset = offset') :
    BitVec.ofInt 64 ((hart.cpu.pc.toNat : Int) + offset) = m.cpu.pc + offset' := by
  rw [BitVec.ofInt_add, ofInt_toNat, run.cpu.pc, h]

theorem Running.next (run : Running w hart m) :
    BitVec.ofInt 64 ((hart.cpu.pc.toNat : Int) + 4) = m.cpu.pc + 4 := run.pc_add rfl

theorem Running.assign (run : Running w hart m) {value : Int} {out : U64}
    (hvalue : BitVec.ofInt 64 value = out) :
    ∃ hart', Python.rd value hart = .ok () hart' ∧
      Running w hart' { m with cpu := { m.cpu with
        regs := m.cpu.regs.write (Instruction.new w).rd out } } := by
  have hrd : (Python.Instruction.rv64i w).rd = (Instruction.new w).rd.toNat := rd_eq w
  refine ⟨_, rd_apply run.instruction value, ⟨⟨fun j => ?_, run.cpu.pc, run.cpu.mode,
    run.cpu.privilege, run.cpu.csrs, run.cpu.hartid, run.cpu.handles⟩, run.mtime, run.mtimecmp,
    run.ram⟩, run.instruction, run.low, run.bare⟩
  have hreg := assign_registers run.cpu.registers (Instruction.new w).rd hvalue j
  rw [← hrd] at hreg
  exact hreg

/-- The value of a computation is assigned to `rd`. -/
theorem Running.result (run : Running w hart m) {value next : Int} {out next' : U64}
    (hvalue : BitVec.ofInt 64 value = out) (hnext : BitVec.ofInt 64 next = next') :
    Agrees Alike hart m (do Python.rd value; return next)
      (do Machine.writeReg (Instruction.new w).rd out; return next') := by
  obtain ⟨hart₁, hrd, run₁⟩ := run.assign hvalue
  intro v hart' h
  rw [bind_ok hrd] at h
  cases h
  exact ⟨_, by rw [hnext]; rfl, run₁.toAlike⟩

end Rules

section Computations

variable {instr : Instruction}

theorem opImm_funct3 {funct3 : BitVec 3} (a : U64) :
    instr.funct3 = funct3 → Execute.opImm instr a =
      match funct3 with
      | 0x0#3 => a + instr.immI
      | 0x2#3 => Execute.ofBool (a.slt instr.immI)
      | 0x3#3 => Execute.ofBool (a.ult instr.immI)
      | 0x4#3 => a ^^^ instr.immI
      | 0x6#3 => a ||| instr.immI
      | 0x7#3 => a &&& instr.immI
      | 0x1#3 => a <<< instr.shamt.toNat
      | _ =>
          if instr.funct7 &&& 0x20 ≠ 0 then a.sshiftRight instr.shamt.toNat
          else a >>> instr.shamt.toNat := by
  rintro rfl
  rfl

theorem opImm32_funct3 {funct3 : BitVec 3} (a : U32) :
    instr.funct3 = funct3 → Execute.opImm32 instr a =
      match funct3 with
      | 0x0#3 => some (a + instr.immI.setWidth 32)
      | 0x1#3 => some (a <<< (instr.shamt.setWidth 5).toNat)
      | 0x5#3 =>
          some (if instr.funct7 &&& 0x20 ≠ 0 then a.sshiftRight (instr.shamt.setWidth 5).toNat
            else a >>> (instr.shamt.setWidth 5).toNat)
      | _ => none := by
  rintro rfl
  rfl

variable [Host] {w : U32} {hart : Python.Hart Python.TimerBoard} {m : Machine} {mnemonic : Mnemonic}

/-- The actor and the executor agree on the instruction that has been fetched. -/
def Obeys (w : U32) (hart : Python.Hart Python.TimerBoard) (m : Machine) (mnemonic : Mnemonic) :
    Prop :=
  Agrees Alike hart m (perform w.toNat mnemonic)
    (Execute.executeFrom (m.cpu.pc + 4) (Instruction.new w))

omit [Host] in
theorem undefined_fails {y : Call Machine U64} :
    Agrees Alike hart m (perform w.toNat .UNDEFINED) y :=
  .fails fun _ _ h => nomatch h

/-- A branch of the actor that computes `f` of its operands. -/
theorem Running.computes (run : Running w hart m) (f : Int → Int → Int) {out : U64}
    (hpython : perform w.toNat mnemonic hart = (do
      Python.rd (f (hart.cpu.reg (rs1 w.toNat)) (hart.cpu.reg (rs2 w.toNat)))
      return (hart.cpu.pc.toNat : Int) + 4 : Python.Call _ Int) hart)
    (hrust : Execute.executeFrom (m.cpu.pc + 4) (Instruction.new w) m = (do
      Machine.writeReg (Instruction.new w).rd out
      return m.cpu.pc + 4 : Call Machine U64) m)
    (hvalue : BitVec.ofInt 64 (f (m.cpu.regs.read (Instruction.new w).rs1).toNat
      (m.cpu.regs.read (Instruction.new w).rs2).toNat) = out) : Obeys w hart m mnemonic := by
  rw [run.reg (rs1_eq w), run.reg (rs2_eq w)] at hpython
  exact .congr hpython hrust (run.result hvalue run.next)

theorem Running.op (run : Running w hart m) (hop : (Instruction.new w).opcode = 0x33)
    (h1 : (Instruction.new w).funct7 ≠ 1) (hm : mnemonicOf w.toNat = some mnemonic) :
    Obeys w hart m mnemonic := by
  have hrust {out : U64} (h : Execute.op (Instruction.new w).funct3 (Instruction.new w).funct7
      (m.cpu.regs.read (Instruction.new w).rs1) (m.cpu.regs.read (Instruction.new w).rs2) =
        some out) := Execute.executeFrom_op (m.cpu.pc + 4) m hop h
  rw [op_mnemonic hop h1] at hm
  generalize (Instruction.new w).funct3 = f3 at hm hrust
  generalize (Instruction.new w).funct7 = f7 at hm hrust
  split at hm <;> cases hm
  · refine run.computes (· + ·) rfl (hrust rfl) ?_
    rw [BitVec.ofInt_add, ofInt_toNat, ofInt_toNat]
  · refine run.computes (· - ·) rfl (hrust rfl) ?_
    rw [ofInt_sub, ofInt_toNat, ofInt_toNat]
  · refine run.computes (fun a b => Python.u 64 a * 2 ^ (b % 64).toNat) rfl (hrust rfl) ?_
    rw [u64_toNat, ofInt_shiftLeft, ofInt_toNat, shamt6]
    rfl
  · refine run.computes (fun a b => ofBool (Python.i 64 a < Python.i 64 b)) rfl (hrust rfl) ?_
    rw [i64_toNat, i64_toNat, ofInt_ofBool]
    rfl
  · refine run.computes (fun a b => ofBool (Python.u 64 a < Python.u 64 b)) rfl (hrust rfl) ?_
    rw [u64_toNat, u64_toNat, ofInt_ofBool, natCast_lt]
  · refine run.computes Int.xor rfl (hrust rfl) ?_
    rw [ofInt_xor, ofInt_toNat, ofInt_toNat]
  · refine run.computes (fun a b => Python.u 64 a >>> (b % 64).toNat) rfl (hrust rfl) ?_
    rw [u64_toNat, ofInt_shiftRight, shamt6]
    rfl
  · refine run.computes (fun a b => Python.i 64 a >>> (b % 64).toNat) rfl (hrust rfl) ?_
    rw [i64_toNat, ofInt_sshiftRight, shamt6]
    rfl
  · refine run.computes Int.lor rfl (hrust rfl) ?_
    rw [ofInt_lor, ofInt_toNat, ofInt_toNat]
  · refine run.computes Int.land rfl (hrust rfl) ?_
    rw [ofInt_land, ofInt_toNat, ofInt_toNat]
  · exact undefined_fails

theorem Running.op32 (run : Running w hart m) (hop : (Instruction.new w).opcode = 0x3b)
    (h1 : (Instruction.new w).funct7 ≠ 1) (hm : mnemonicOf w.toNat = some mnemonic) :
    Obeys w hart m mnemonic := by
  have hrust {out : U32} (h : Execute.op32 (Instruction.new w).funct3 (Instruction.new w).funct7
      ((m.cpu.regs.read (Instruction.new w).rs1).setWidth 32)
      ((m.cpu.regs.read (Instruction.new w).rs2).setWidth 32) = some out) :=
    Execute.executeFrom_op32 (m.cpu.pc + 4) m hop h
  rw [op32_mnemonic hop h1] at hm
  generalize (Instruction.new w).funct3 = f3 at hm hrust
  generalize (Instruction.new w).funct7 = f7 at hm hrust
  split at hm <;> cases hm
  · refine run.computes (fun a b => Python.i 32 (a + b)) rfl (hrust rfl) ?_
    rw [ofInt_i32, BitVec.ofInt_add, ofInt32_toNat, ofInt32_toNat]
  · refine run.computes (fun a b => Python.i 32 (a - b)) rfl (hrust rfl) ?_
    rw [ofInt_i32, ofInt_sub, ofInt32_toNat, ofInt32_toNat]
  · refine run.computes (fun a b => Python.i 32 (Python.u 32 a * 2 ^ (b % 32).toNat)) rfl
      (hrust rfl) ?_
    rw [ofInt_i32, u32_toNat, ofInt_shiftLeft, ofInt_toNat, shamt5]
    rfl
  · refine run.computes (fun a b => Python.i 32 (Python.u 32 a >>> (b % 32).toNat)) rfl
      (hrust rfl) ?_
    rw [ofInt_i32, u32_toNat, ofInt_shiftRight, shamt5]
    rfl
  · refine run.computes (fun a b => Python.i 32 (Python.i 32 a >>> (b % 32).toNat)) rfl
      (hrust rfl) ?_
    rw [ofInt_i32, i32_toNat, ofInt_sshiftRight, shamt5]
    rfl
  · exact undefined_fails

theorem Running.opImm (run : Running w hart m) (hop : (Instruction.new w).opcode = 0x13)
    (hm : mnemonicOf w.toNat = some mnemonic) : Obeys w hart m mnemonic := by
  have hrust := Execute.executeFrom_opImm (m.cpu.pc + 4) m hop
  have himm : BitVec.ofInt 64 (immI w.toNat) = (Instruction.new w).immI := by
    rw [immI_eq, BitVec.ofInt_toInt]
  rw [opImm_mnemonic hop] at hm
  generalize hf3 : (Instruction.new w).funct3 = f3 at hm
  generalize hf7 : (Instruction.new w).funct7 = f7 at hm
  have hopImm := opImm_funct3 (m.cpu.regs.read (Instruction.new w).rs1) hf3
  split at hm <;> cases hm
  · refine run.computes (fun a _ => a + immI w.toNat) rfl hrust ?_
    rw [BitVec.ofInt_add, ofInt_toNat, himm]
    exact hopImm.symm
  · refine run.computes (fun a _ => a * 2 ^ shamt w.toNat) rfl hrust ?_
    rw [ofInt_shiftLeft, ofInt_toNat, shamt_eq]
    exact hopImm.symm
  · refine run.computes (fun a _ => a * 2 ^ shamt w.toNat) rfl hrust ?_
    rw [ofInt_shiftLeft, ofInt_toNat, shamt_eq]
    exact hopImm.symm
  · refine run.computes (fun a _ => ofBool (Python.i 64 a < immI w.toNat)) rfl hrust ?_
    rw [i64_toNat, immI_eq, ofInt_ofBool]
    exact hopImm.symm
  · refine run.computes (fun a _ => ofBool (Python.u 64 a < Python.u 64 (immI w.toNat))) rfl hrust
      ?_
    rw [u64_toNat, u_eq_toNat, himm, ofInt_ofBool, natCast_lt]
    exact hopImm.symm
  · refine run.computes (fun a _ => Int.xor (Python.u 64 a) (Python.u 64 (immI w.toNat))) rfl hrust
      ?_
    rw [u64_toNat, u_eq_toNat, himm, ofInt_xor, ofInt_toNat, ofInt_toNat]
    exact hopImm.symm
  · refine run.computes (fun a _ => Python.u 64 a >>> shamt w.toNat) rfl hrust ?_
    rw [Execute.opImm_srl hf3 (by rw [hf7]; decide), u64_toNat, ofInt_shiftRight, shamt_eq]
  · refine run.computes (fun a _ => Python.u 64 a >>> shamt w.toNat) rfl hrust ?_
    rw [Execute.opImm_srl hf3 (by rw [hf7]; decide), u64_toNat, ofInt_shiftRight, shamt_eq]
  · refine run.computes (fun a _ => Python.i 64 a >>> shamt w.toNat) rfl hrust ?_
    rw [Execute.opImm_sra hf3 (by rw [hf7]; decide), i64_toNat, ofInt_sshiftRight, shamt_eq]
  · refine run.computes (fun a _ => Python.i 64 a >>> shamt w.toNat) rfl hrust ?_
    rw [Execute.opImm_sra hf3 (by rw [hf7]; decide), i64_toNat, ofInt_sshiftRight, shamt_eq]
  · refine run.computes (fun a _ => Int.lor a (immI w.toNat)) rfl hrust ?_
    rw [ofInt_lor, ofInt_toNat, himm]
    exact hopImm.symm
  · refine run.computes (fun a _ => Int.land a (immI w.toNat)) rfl hrust ?_
    rw [ofInt_land, ofInt_toNat, himm]
    exact hopImm.symm
  · exact undefined_fails

theorem Running.opImm32 (run : Running w hart m) (hop : (Instruction.new w).opcode = 0x1b)
    (hm : mnemonicOf w.toNat = some mnemonic) : Obeys w hart m mnemonic := by
  have hrust {v : U32} (h : Execute.opImm32 (Instruction.new w)
      ((m.cpu.regs.read (Instruction.new w).rs1).setWidth 32) = some v) :=
    Execute.executeFrom_opImm32 (m.cpu.pc + 4) m hop h
  have himm : BitVec.ofInt 32 (immI w.toNat) = (Instruction.new w).immI.setWidth 32 := by
    rw [immI_eq, ← setWidth_ofInt (w := 64) _ (by decide), BitVec.ofInt_toInt]
  have hshamt : shamt w.toNat % 32 = ((Instruction.new w).shamt.setWidth 5).toNat := by
    rw [shamt_eq, shamt5_imm]
  rw [opImm32_mnemonic hop] at hm
  generalize hf3 : (Instruction.new w).funct3 = f3 at hm
  generalize hf7 : (Instruction.new w).funct7 = f7 at hm
  have hopImm32 := opImm32_funct3 ((m.cpu.regs.read (Instruction.new w).rs1).setWidth 32) hf3
  split at hm <;> cases hm
  · refine run.computes (fun a _ => Python.i 32 (a + immI w.toNat)) rfl (hrust hopImm32) ?_
    rw [ofInt_i32, BitVec.ofInt_add, ofInt32_toNat, himm]
  · refine run.computes (fun a _ => Python.i 32 (a * 2 ^ (shamt w.toNat % 32))) rfl
      (hrust hopImm32) ?_
    rw [ofInt_i32, ofInt_shiftLeft, ofInt32_toNat, hshamt]
  · have h30 := hrust (hopImm32.trans (congrArg some (if_neg (by rw [hf7]; decide))))
    refine run.computes (fun a _ => Python.i 32 (Python.u 32 a >>> (shamt w.toNat % 32))) rfl h30 ?_
    rw [ofInt_i32, u32_toNat, ofInt_shiftRight, hshamt]
  · have h30 := hrust (hopImm32.trans (congrArg some (if_pos (by rw [hf7]; decide))))
    refine run.computes (fun a _ => Python.i 32 (Python.i 32 a >>> (shamt w.toNat % 32))) rfl h30 ?_
    rw [ofInt_i32, i32_toNat, ofInt_sshiftRight, hshamt]
  · exact undefined_fails

theorem Running.lui (run : Running w hart m) (hop : (Instruction.new w).opcode = 0x37)
    (hm : mnemonicOf w.toNat = some mnemonic) : Obeys w hart m mnemonic := by
  obtain rfl := Option.some.inj ((lui_mnemonic hop).symm.trans hm)
  refine run.computes (fun _ _ => immU w.toNat) rfl (Execute.executeFrom_lui _ m hop) ?_
  rw [immU_eq, BitVec.ofInt_toInt]

theorem Running.auipc (run : Running w hart m) (hop : (Instruction.new w).opcode = 0x17)
    (hm : mnemonicOf w.toNat = some mnemonic) : Obeys w hart m mnemonic := by
  obtain rfl := Option.some.inj ((auipc_mnemonic hop).symm.trans hm)
  have hrust : Execute.executeFrom (m.cpu.pc + 4) (Instruction.new w) m = (do
      Machine.writeReg (Instruction.new w).rd (m.cpu.pc + (Instruction.new w).immU)
      return m.cpu.pc + 4) m := by
    unfold Execute.executeFrom
    simp only [hop]
    rfl
  refine run.computes (fun _ _ => hart.cpu.pc.toNat + immU w.toNat) rfl hrust ?_
  exact run.pc_add (by rw [immU_eq, BitVec.ofInt_toInt])

theorem Running.jal (run : Running w hart m) (hop : (Instruction.new w).opcode = 0x6f)
    (hm : mnemonicOf w.toNat = some mnemonic) : Obeys w hart m mnemonic := by
  obtain rfl := Option.some.inj ((jal_mnemonic hop).symm.trans hm)
  have htarget := run.pc_add (show BitVec.ofInt 64 (immJ w.toNat) = (Instruction.new w).immJ by
    rw [immJ_eq, BitVec.ofInt_toInt])
  exact .congr rfl (Execute.executeFrom_jal _ m hop) (run.result run.next htarget)

theorem Running.jalr (run : Running w hart m) (hop : (Instruction.new w).opcode = 0x67)
    (hm : mnemonicOf w.toNat = some mnemonic) : Obeys w hart m mnemonic := by
  rw [jalr_mnemonic hop] at hm
  generalize (Instruction.new w).funct3 = f3 at hm
  split at hm <;> cases hm
  · refine .congr rfl (Execute.executeFrom_jalr _ m hop) (run.result run.next ?_)
    rw [ofInt_even, BitVec.ofInt_add, run.reg (rs1_eq w), ofInt_toNat, immI_eq,
      BitVec.ofInt_toInt]
  · exact undefined_fails

/-- A branch of the actor that tests `f` of its operands. -/
theorem Running.branches (run : Running w hart m) (f : Int → Int → Bool) {taken : Bool}
    (hpython : perform w.toNat mnemonic hart =
      (return if f (hart.cpu.reg (rs1 w.toNat)) (hart.cpu.reg (rs2 w.toNat)) then
        (hart.cpu.pc.toNat : Int) + immB w.toNat else (hart.cpu.pc.toNat : Int) + 4 :
          Python.Call _ Int) hart)
    (hop : (Instruction.new w).opcode = 0x63)
    (hrust : Execute.branchTaken (Instruction.new w).funct3
      (m.cpu.regs.read (Instruction.new w).rs1) (m.cpu.regs.read (Instruction.new w).rs2) =
        some taken)
    (htaken : f (m.cpu.regs.read (Instruction.new w).rs1).toNat
      (m.cpu.regs.read (Instruction.new w).rs2).toNat = taken) : Obeys w hart m mnemonic := by
  have htarget := run.pc_add (show BitVec.ofInt 64 (immB w.toNat) = (Instruction.new w).immB by
    rw [immB_eq, BitVec.ofInt_toInt])
  rw [run.reg (rs1_eq w), run.reg (rs2_eq w), htaken] at hpython
  have hbranch : Execute.executeFrom (m.cpu.pc + 4) (Instruction.new w) m =
      (pure (if taken then m.cpu.pc + (Instruction.new w).immB else m.cpu.pc + 4) :
        Call Machine U64) m := Execute.executeFrom_branch _ m hop hrust
  refine .congr hpython hbranch (.jump run.toAlike ?_)
  rw [apply_ite (BitVec.ofInt 64), htarget, run.next]

theorem Running.branch (run : Running w hart m) (hop : (Instruction.new w).opcode = 0x63)
    (hm : mnemonicOf w.toNat = some mnemonic) : Obeys w hart m mnemonic := by
  rw [branch_mnemonic hop] at hm
  generalize hf3 : (Instruction.new w).funct3 = f3 at hm
  split at hm <;> cases hm
  · refine run.branches (fun a b => a = b) rfl hop (by rw [hf3]; rfl) ?_
    exact Bool.eq_iff_iff.mpr (by
      rw [decide_eq_true_iff, beq_iff_eq, Int.ofNat_inj, BitVec.toNat_inj])
  · refine run.branches (fun a b => a ≠ b) rfl hop (by rw [hf3]; rfl) ?_
    exact Bool.eq_iff_iff.mpr (by
      rw [decide_eq_true_iff, bne_iff_ne, ne_eq, Int.ofNat_inj, BitVec.toNat_inj])
  · refine run.branches (fun a b => Python.i 64 a < Python.i 64 b) rfl hop (by rw [hf3]; rfl) ?_
    rw [i64_toNat, i64_toNat]
    rfl
  · refine run.branches (fun a b => Python.i 64 a ≥ Python.i 64 b) rfl hop (by rw [hf3]; rfl) ?_
    rw [i64_toNat, i64_toNat]
    exact (decide_eq_decide.mpr Int.not_lt.symm).trans decide_not
  · refine run.branches (fun a b => Python.u 64 a < Python.u 64 b) rfl hop (by rw [hf3]; rfl) ?_
    rw [u64_toNat, u64_toNat, natCast_lt]
  · refine run.branches (fun a b => Python.u 64 a ≥ Python.u 64 b) rfl hop (by rw [hf3]; rfl) ?_
    rw [u64_toNat, u64_toNat, ← natCast_lt]
    exact (decide_eq_decide.mpr Int.not_lt.symm).trans decide_not
  · exact undefined_fails

end Computations

end Riscvm.Lockstep
