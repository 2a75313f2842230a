import Riscvm.Lockstep.Accesses
import Riscvm.Rv64rs.CsrViews

/-!
# Agreement on privileged instructions

The CSR instructions, the calls and the returns: each leaves the same CSRs, mode and pc.
-/

namespace Riscvm.Lockstep

open Exec TwosComplement Rv64rs Python.Rv64i

section Csrs

variable {cpu : Python.Cpu} {cpu' : Cpu}

theorem toNat_eq_iff (csr : BitVec 12) {k : Nat} (hk : k < 4096) :
    csr.toNat = k ↔ csr.setWidth 32 = BitVec.ofNat 32 k := by
  rw [CsrView.setWidth_eq_iff hk]
  constructor
  · rintro rfl
    rw [BitVec.ofNat_toNat, BitVec.setWidth_eq]
  · rintro rfl
    exact Nat.mod_eq_of_lt hk

/-- The same CSR is a view, of the same register. -/
theorem aliased_eq (csr : BitVec 12) :
    Python.aliased csr.toNat = (Trap.aliasedTarget (csr.setWidth 32)).map fun target =>
      ((target.1.setWidth 12 : BitVec 12).toNat, (target.2.toNat : Int)) := by
  have hsstatus : csr.toNat = Python.CSR.SSTATUS ↔ csr.setWidth 32 = Csr.SSTATUS :=
    toNat_eq_iff csr (by decide)
  have hsie : csr.toNat = Python.CSR.SIE ↔ csr.setWidth 32 = Csr.SIE :=
    toNat_eq_iff csr (by decide)
  have hsip : csr.toNat = Python.CSR.SIP ↔ csr.setWidth 32 = Csr.SIP :=
    toNat_eq_iff csr (by decide)
  unfold Python.aliased Trap.aliasedTarget
  by_cases h1 : csr.toNat = Python.CSR.SSTATUS
  · rw [if_pos h1, if_pos (hsstatus.mp h1)]
    rfl
  · rw [if_neg h1, if_neg (fun h => h1 (hsstatus.mpr h))]
    by_cases h2 : csr.toNat = Python.CSR.SIE
    · rw [if_pos h2, if_pos (hsie.mp h2)]
      rfl
    · rw [if_neg h2, if_neg (fun h => h2 (hsie.mpr h))]
      by_cases h3 : csr.toNat = Python.CSR.SIP
      · rw [if_pos h3, if_pos (hsip.mp h3)]
        rfl
      · rw [if_neg h3, if_neg (fun h => h3 (hsip.mpr h))]
        rfl

theorem SameCpu.csrRead (same : SameCpu cpu cpu') (csr : BitVec 12) :
    Python.csrRead cpu csr.toNat = ((Trap.csrRead cpu' (csr.setWidth 32)).toNat : Int) := by
  unfold Python.csrRead Trap.csrRead
  rw [aliased_eq]
  cases Trap.aliasedTarget (csr.setWidth 32) with
  | none => exact same.csrs.get (by simp)
  | some target =>
      change Int.land (cpu.csrs _) _ = _
      rw [same.csrs.get (r := target.1) rfl]
      rfl

theorem SameCpu.csrWrite (same : SameCpu cpu cpu') (csr : BitVec 12) {value : Int} {word : U64}
    (hvalue : value = (word.toNat : Int)) :
    SameCpu (Python.csrWrite csr.toNat value cpu)
      (Trap.csrWrite cpu' (csr.setWidth 32) word) := by
  subst hvalue
  have hmhartid : csr.toNat = Python.CSR.MHARTID ↔ csr.setWidth 32 = Csr.MHARTID :=
    toNat_eq_iff csr (by decide)
  unfold Python.csrWrite Trap.csrWrite
  by_cases h : csr.toNat = Python.CSR.MHARTID
  · rw [if_pos h, if_pos (hmhartid.mp h)]
    exact same
  · rw [if_neg h, if_neg (fun h' => h (hmhartid.mpr h')), aliased_eq]
    cases Trap.aliasedTarget (csr.setWidth 32) with
    | none =>
        exact ⟨same.registers, same.pc, same.mode, same.privilege,
          same.csrs.insert (by simp) rfl, same.hartid, same.handles⟩
    | some target =>
        have hvalue : Int.lor
            (Int.ldiff (cpu.csrs (target.1.setWidth 12 : BitVec 12).toNat) target.2.toNat)
              (Int.land word.toNat target.2.toNat) =
            (((cpu'.csrs.get target.1 &&& ~~~target.2) ||| (word &&& target.2)).toNat : Int) := by
          rw [same.csrs.get (r := target.1) rfl, ldiff_word]
          rfl
        exact ⟨same.registers, same.pc, same.mode, same.privilege,
          same.csrs.insert rfl hvalue, same.hartid, same.handles⟩

/-- `mstatus` after a return. -/
theorem restored_word (status enable saved privilege : U64) :
    restored status.toNat enable.toNat saved.toNat privilege.toNat =
      ((((status &&& ~~~enable) ||| (if status &&& saved ≠ 0 then enable else 0) ||| saved) &&&
        ~~~privilege : U64).toNat : Int) := by
  unfold restored
  rw [hasBits_word, flag_word, ldiff_word, lor_word]
  dsimp only
  rw [lor_word, ldiff_word]

/-- The mode that a return restores. -/
theorem mode_word (status field : U64) (k : Nat) (legal : field.toNat >>> k ≤ 3) :
    (Int.land status.toNat field.toNat >>> (k : Int)).toNat =
        (((status &&& field) >>> k).setWidth 8).toNat ∧
      (Int.land status.toNat field.toNat >>> (k : Int)).toNat ≤ 3 := by
  have hshift : (Int.land status.toNat field.toNat >>> (k : Int)).toNat =
      ((status &&& field) >>> k).toNat := by
    rw [land_word, Int.shiftRight_natCast]
    exact (BitVec.toNat_ushiftRight _ _).symm
  have hle : ((status &&& field) >>> k).toNat ≤ 3 := by
    rw [BitVec.toNat_ushiftRight, BitVec.toNat_and, Nat.shiftRight_eq_div_pow]
    rw [Nat.shiftRight_eq_div_pow] at legal
    exact (Nat.div_le_div_right Nat.and_le_right).trans legal
  rw [hshift]
  refine ⟨?_, hle⟩
  rw [BitVec.toNat_setWidth, Nat.mod_eq_of_lt (by omega)]

theorem SameCpu.returned (same : SameCpu cpu cpu') {value : Int}
    {word : U64} (hvalue : value = (word.toNat : Int)) {mode : Nat} {mode' : U8}
    (hmode : mode = mode'.toNat ∧ mode ≤ 3) :
    SameCpu { cpu.setCsr Python.CSR.MSTATUS value with mode }
      { cpu' with csrs := cpu'.csrs.insert Csr.MSTATUS word, mode := mode' } :=
  ⟨same.registers, same.pc, hmode.1, hmode.2, same.csrs.insert (r := Csr.MSTATUS) rfl hvalue,
    same.hartid, same.handles⟩

end Csrs

section Instructions

variable [Host] {w : U32} {hart : Python.Hart Python.TimerBoard} {m : Machine} {mnemonic : Mnemonic}

/-- A branch of the actor that updates a CSR by `f`. -/
theorem Running.updates (run : Running w hart m) (form : CsrForm) (immediate : Bool)
    (f : Int → Int)
    (hpython : perform w.toNat mnemonic hart = (do
      Python.rd (Python.csrRead hart.cpu (csr w.toNat))
      Python.modifyCpu
        (Python.csrWrite (csr w.toNat) (f (Python.csrRead hart.cpu (csr w.toNat))))
      return (hart.cpu.pc.toNat : Int) + 4 : Python.Call _ Int) hart)
    (hop : (Instruction.new w).opcode = 0x73)
    (h3 : (Instruction.new w).funct3 = form.funct3 immediate)
    (hupdate : ∀ old : U64, f (old.toNat : Int) =
      ((form.update old (CsrForm.source (.new w) immediate m.cpu)).toNat : Int)) :
    Obeys w hart m mnemonic := by
  have hrust := Execute.executeFrom_csrForm hop h3 (m.cpu.pc + 4) m
  rw [bind_ok (Execute.csrAccess_apply _ _ m)] at hrust
  rw [csr_eq, run.cpu.csrRead, hupdate] at hpython
  obtain ⟨hart₁, hrd, run₁⟩ := run.assign (ofInt_toNat
    (Trap.csrRead m.cpu ((Instruction.new w).csr.setWidth 32)))
  rw [bind_ok hrd] at hpython
  intro next hart' h
  rw [hpython] at h
  cases h
  rw [run.next]
  exact ⟨_, hrust, run₁.cpu.csrWrite _ rfl, run₁.mtime, run₁.mtimecmp, run₁.ram⟩

theorem Running.csrForms (run : Running w hart m) (hop : (Instruction.new w).opcode = 0x73)
    (h0 : (Instruction.new w).funct3 ≠ 0) (hm : mnemonicOf w.toNat = some mnemonic) :
    Obeys w hart m mnemonic := by
  have hreg := run.reg (rs1_eq w)
  have himm : ((rs1 w.toNat : Nat) : Int) =
      (((Instruction.new w).rs1.setWidth 64 : U64).toNat : Int) := by
    rw [rs1_eq, BitVec.toNat_setWidth_of_le (by decide)]
  rw [csr_mnemonic hop h0] at hm
  generalize hf3 : (Instruction.new w).funct3 = f3 at hm
  split at hm <;> cases hm
  · exact run.updates .write false (fun _ => hart.cpu.reg (rs1 w.toNat)) rfl hop hf3 fun _ => hreg
  · refine run.updates .set false (fun old => Int.lor old (hart.cpu.reg (rs1 w.toNat))) rfl hop hf3
      fun old => ?_
    rw [hreg]
    rfl
  · refine run.updates .clear false
      (fun old => Int.ldiff old (hart.cpu.reg (rs1 w.toNat))) rfl hop hf3
      fun old => ?_
    rw [hreg, ldiff_word]
    rfl
  · exact run.updates .write true (fun _ => rs1 w.toNat) rfl hop hf3
      fun _ => himm
  · refine run.updates .set true (fun old => Int.lor old (rs1 w.toNat)) rfl hop hf3 fun old => ?_
    rw [himm]
    rfl
  · refine run.updates .clear true (fun old => Int.ldiff old (rs1 w.toNat)) rfl hop hf3
      fun old => ?_
    rw [himm, ldiff_word]
    rfl
  · exact undefined_fails

theorem Running.ecall (run : Running w hart m) (h : (Instruction.new w).IsEcall)
    (hm : mnemonicOf w.toNat = some mnemonic) : Obeys w hart m mnemonic := by
  obtain rfl := Option.some.inj ((ecall_mnemonic h).symm.trans hm)
  have hmode := run.cpu.privilege
  have hcause : 8 + hart.cpu.mode = (8 + m.cpu.mode.setWidth 64 : U64).toNat := by
    have h8 : (8 : U64).toNat = 8 := rfl
    rw [BitVec.toNat_add, h8, BitVec.toNat_setWidth_of_le (by decide), ← run.cpu.mode]
    omega
  obtain ⟨pc, taken, htrap, hpc, same⟩ := run.cpu.raiseTrap hcause (by omega) false
    (show (0 : Int) = ((0 : U64).toNat : Int) from rfl)
  have hrust := (Execute.executeFrom_ecall h (m.cpu.pc + 4) m).trans (Machine.onCpu_ok htrap)
  have hpython : perform w.toNat .ECALL hart =
      .ok (Python.raiseTrap hart.cpu (8 + hart.cpu.mode) false 0).1
        { hart with cpu := (Python.raiseTrap hart.cpu (8 + hart.cpu.mode) false 0).2 } := rfl
  intro next hart' hok
  obtain ⟨rfl, rfl⟩ := EStateM.Result.ok.inj (hpython.symm.trans hok)
  rw [hpc, ofInt_toNat]
  exact ⟨_, hrust, same, run.mtime, run.mtimecmp, run.ram⟩

theorem Running.mret (run : Running w hart m) (h : (Instruction.new w).IsMret)
    (hm : mnemonicOf w.toNat = some mnemonic) : Obeys w hart m mnemonic := by
  obtain rfl := Option.some.inj ((mret_mnemonic h).symm.trans hm)
  have hstatus := run.cpu.csrs.get (k := Python.CSR.MSTATUS) (r := Csr.MSTATUS) rfl
  have hepc := run.cpu.csrs.get (k := Python.CSR.MEPC) (r := Csr.MEPC) rfl
  have hpython : perform w.toNat .MRET hart = .ok (hart.cpu.csrs Python.CSR.MEPC) { hart with
      cpu := { hart.cpu.setCsr Python.CSR.MSTATUS (restored (hart.cpu.csrs Python.CSR.MSTATUS)
          Python.MSTATUS_MIE Python.MSTATUS_MPIE Python.MSTATUS_MPP) with
        mode := (Int.land (hart.cpu.csrs Python.CSR.MSTATUS) Python.MSTATUS_MPP >>>
          (11 : Int)).toNat } } := rfl
  rw [hstatus, hepc] at hpython
  intro next hart' hok
  obtain ⟨rfl, rfl⟩ := EStateM.Result.ok.inj (hpython.symm.trans hok)
  rw [ofInt_toNat]
  have hleave := restored_word (m.cpu.csrs.get Csr.MSTATUS) Trap.MSTATUS_MIE Trap.MSTATUS_MPIE
    Trap.MSTATUS_MPP
  have hmode := mode_word (m.cpu.csrs.get Csr.MSTATUS) Trap.MSTATUS_MPP 11 (by decide)
  exact ⟨_, Execute.executeFrom_mret h (m.cpu.pc + 4) m, run.cpu.returned hleave hmode, run.mtime,
    run.mtimecmp, run.ram⟩

theorem Running.sret (run : Running w hart m) (h : (Instruction.new w).IsSret)
    (hm : mnemonicOf w.toNat = some mnemonic) : Obeys w hart m mnemonic := by
  obtain rfl := Option.some.inj ((sret_mnemonic h).symm.trans hm)
  have hstatus := run.cpu.csrs.get (k := Python.CSR.MSTATUS) (r := Csr.MSTATUS) rfl
  have hepc := run.cpu.csrs.get (k := Python.CSR.SEPC) (r := Csr.SEPC) rfl
  have hpython : perform w.toNat .SRET hart = .ok (hart.cpu.csrs Python.CSR.SEPC) { hart with
      cpu := { hart.cpu.setCsr Python.CSR.MSTATUS (restored (hart.cpu.csrs Python.CSR.MSTATUS)
          Python.MSTATUS_SIE Python.MSTATUS_SPIE Python.MSTATUS_SPP) with
        mode := (Int.land (hart.cpu.csrs Python.CSR.MSTATUS) Python.MSTATUS_SPP >>>
          (8 : Int)).toNat } } := rfl
  rw [hstatus, hepc] at hpython
  intro next hart' hok
  obtain ⟨rfl, rfl⟩ := EStateM.Result.ok.inj (hpython.symm.trans hok)
  rw [ofInt_toNat]
  have hleave := restored_word (m.cpu.csrs.get Csr.MSTATUS) Trap.MSTATUS_SIE Trap.MSTATUS_SPIE
    Trap.MSTATUS_SPP
  have hmode := mode_word (m.cpu.csrs.get Csr.MSTATUS) Trap.MSTATUS_SPP 8 (by decide)
  exact ⟨_, Execute.executeFrom_sret h (m.cpu.pc + 4) m, run.cpu.returned hleave hmode, run.mtime,
    run.mtimecmp, run.ram⟩

end Instructions

end Riscvm.Lockstep
