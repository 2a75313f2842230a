import Riscvm.Lockstep.Decoding
import Riscvm.Lockstep.Harts
import Riscvm.Python.Clint
import Riscvm.Rv64rs.Interrupts

/-!
# Two emulators with a timer

`Alike` relates a Python CPU with a CLINT to a Rust hart with the same registers, pc, mode, CSRs,
timer and RAM. CSRs are integers in Python and words in Rust; each operation of a trap on the
integers is the operation on the words.
-/

namespace Riscvm.Lockstep

open Bits Exec TwosComplement Rv64rs

section Words

variable {n : Nat} (x y : BitVec n)

theorem land_word : Int.land x.toNat y.toNat = ((x &&& y).toNat : Int) := rfl

theorem lor_word : Int.lor x.toNat y.toNat = ((x ||| y).toNat : Int) := rfl

theorem ldiff_toNat : Nat.ldiff x.toNat y.toNat = (x &&& ~~~y).toNat := by
  refine Nat.eq_of_testBit_eq fun i => ?_
  rw [Nat.testBit_ldiff, BitVec.testBit_toNat, BitVec.testBit_toNat, BitVec.testBit_toNat,
    BitVec.getLsbD_and, BitVec.getLsbD_not]
  by_cases hi : i < n
  · rw [decide_eq_true hi, Bool.true_and]
  · rw [BitVec.getLsbD_of_ge x i (by omega), Bool.false_and, Bool.false_and]

theorem ldiff_word : Int.ldiff x.toNat y.toNat = ((x &&& ~~~y).toNat : Int) :=
  congrArg Int.ofNat (ldiff_toNat x y)

/-- `value & ~mask`, with the complement taken first. -/
theorem land_lnot_word (mask : BitVec n) :
    Int.land x.toNat (Int.lnot mask.toNat) = ((x &&& ~~~mask).toNat : Int) :=
  congrArg Int.ofNat (ldiff_toNat x mask)

theorem hasBits_word (mask : BitVec n) :
    Python.hasBits x.toNat mask.toNat = decide (x &&& mask ≠ 0) := by
  rw [Python.hasBits, land_word, Bool.eq_iff_iff, bne_iff_ne, decide_eq_true_iff, ne_eq, ne_eq,
    natCast_eq_zero]

/-- A flag, set where `p` holds. -/
theorem flag_word (p : Prop) [Decidable p] :
    (if decide p then (x.toNat : Int) else 0) = ((if p then x else 0 : BitVec n).toNat : Int) := by
  by_cases h : p
  · rw [decide_eq_true h, if_pos rfl, if_pos h]
  · rw [decide_eq_false h, if_neg Bool.false_ne_true, if_neg h]
    rfl

end Words

/-- The same CSRs. -/
def SameCsrs (csrs : Nat → Int) (csrs' : Csrs) : Prop :=
  ∀ a : BitVec 12, csrs a.toNat = ((csrs'.slots a).toNat : Int)

section Csrs

variable {csrs : Nat → Int} {csrs' : Csrs} {k : Nat} {r : U32}

theorem SameCsrs.get (same : SameCsrs csrs csrs') (hk : k = (r.setWidth 12).toNat) :
    csrs k = ((csrs'.get r).toNat : Int) := by
  subst hk
  exact same _

theorem SameCsrs.insert (same : SameCsrs csrs csrs') (hk : k = (r.setWidth 12).toNat)
    {value : Int} {word : U64} (hvalue : value = (word.toNat : Int)) :
    SameCsrs (fun a => if a = k then value else csrs a) (csrs'.insert r word) := by
  intro a
  subst hk hvalue
  by_cases h : a = r.setWidth 12
  · exact (if_pos (congrArg BitVec.toNat h)).trans
      (congrArg (fun v : U64 => (v.toNat : Int)) (if_pos h).symm)
  · have hne : a.toNat ≠ (r.setWidth 12).toNat := fun heq => h (BitVec.eq_of_toNat_eq heq)
    exact (if_neg hne).trans ((same a).trans
      (congrArg (fun v : U64 => (v.toNat : Int)) (if_neg h).symm))

end Csrs

/-- The same hart: registers, pc, mode and CSRs. On the Rust side it holds a handle to the CLINT
only. -/
structure SameCpu (cpu : Python.Cpu) (cpu' : Cpu) : Prop where
  registers : ∀ i : BitVec 5, cpu.reg i.toNat = ((cpu'.regs.read i).toNat : Int)
  pc : cpu.pc = cpu'.pc
  mode : cpu.mode = cpu'.mode.toNat
  privilege : cpu.mode ≤ 3
  csrs : SameCsrs cpu.csrs cpu'.csrs
  hartid : cpu.hartid = cpu'.hartid.toNat
  handles : cpu'.clint = true ∧ cpu'.uart = false ∧ cpu'.plic = false

/-- The same hart, timer and RAM. -/
structure Alike (hart : Python.Hart Python.TimerBoard) (m : Machine) : Prop where
  cpu : SameCpu hart.cpu m.cpu
  mtime : hart.board.clint.mtime = (m.bus.dev.clint.mtime.toNat : Int)
  mtimecmp : hart.board.clint.mtimecmp = m.bus.dev.clint.mtimecmp.map fun t => (t.toNat : Int)
  ram : SameRam hart.board.bus m.bus

section Traps

variable {cpu : Python.Cpu} {cpu' : Cpu}

theorem SameCpu.mode_eq (same : SameCpu cpu cpu') (mode : U8) :
    cpu.mode = mode.toNat ↔ cpu'.mode = mode := by
  rw [same.mode]
  exact ⟨BitVec.eq_of_toNat_eq, congrArg BitVec.toNat⟩

/-- The delegation decision. -/
theorem SameCpu.delegated (same : SameCpu cpu cpu') {cause : Nat} {cause' : U64}
    (hcause : cause = cause'.toNat) (isInterrupt : Bool) :
    Python.delegated cpu cause isInterrupt = decide (Trap.Delegated cpu' cause' isInterrupt) := by
  subst hcause
  have hmode : (cpu.mode != 3) = decide (cpu'.mode ≠ PRIV_M) := by
    rw [Bool.eq_iff_iff, bne_iff_ne, decide_eq_true_iff]
    exact not_congr (same.mode_eq PRIV_M)
  have hmask : Trap.MIDELEG_DELEGATABLE_MASK = ~~~(0x888#64) := by decide
  have hdeleg : (if isInterrupt then
        Int.land (cpu.csrs Python.CSR.MIDELEG) Python.MIDELEG_DELEGATABLE_MASK
      else cpu.csrs Python.CSR.MEDELEG) = ((Trap.delegation cpu' isInterrupt).toNat : Int) := by
    cases isInterrupt with
    | false => exact same.csrs.get (r := Csr.MEDELEG) rfl
    | true =>
        have hmideleg := same.csrs.get (k := Python.CSR.MIDELEG) (r := Csr.MIDELEG) rfl
        rw [if_pos rfl, hmideleg, Trap.delegation, if_pos rfl, hmask]
        exact land_lnot_word _ 0x888#64
  unfold Python.delegated
  rw [hdeleg, hmode, Bool.eq_iff_iff, Bool.and_eq_true, decide_eq_true_iff, decide_eq_true_iff]
  rfl

theorem SameCpu.enterS (same : SameCpu cpu cpu') (x : U64) :
    Int.lor (Int.ldiff (Int.ldiff (Int.lor (Int.ldiff (x.toNat : Int) Python.MSTATUS_SPIE)
      (if Python.hasBits (x.toNat : Int) Python.MSTATUS_SIE then Python.MSTATUS_SPIE else 0))
        Python.MSTATUS_SIE) Python.MSTATUS_SPP) (if cpu.mode = 1 then Python.MSTATUS_SPP else 0) =
      ((Trap.enterS x cpu'.mode).toNat : Int) := by
  have hspie : Python.MSTATUS_SPIE = (Trap.MSTATUS_SPIE.toNat : Int) := by decide
  have hsie : Python.MSTATUS_SIE = (Trap.MSTATUS_SIE.toNat : Int) := by decide
  have hspp : Python.MSTATUS_SPP = (Trap.MSTATUS_SPP.toNat : Int) := by decide
  have hmode : (if cpu.mode = 1 then (Trap.MSTATUS_SPP.toNat : Int) else 0) =
      ((if cpu'.mode = PRIV_S then Trap.MSTATUS_SPP else 0 : U64).toNat : Int) := by
    rw [← flag_word]
    exact if_congr ((same.mode_eq PRIV_S).trans decide_eq_true_iff.symm) rfl rfl
  rw [hspie, hsie, hspp, hmode, hasBits_word, flag_word, ldiff_word, lor_word, ldiff_word,
    ldiff_word, lor_word]
  rfl

theorem SameCpu.enterM (same : SameCpu cpu cpu') (x : U64) :
    Int.lor (Int.ldiff (Int.ldiff (Int.lor (Int.ldiff (x.toNat : Int) Python.MSTATUS_MPIE)
      (if Python.hasBits (x.toNat : Int) Python.MSTATUS_MIE then Python.MSTATUS_MPIE else 0))
        Python.MSTATUS_MIE) Python.MSTATUS_MPP) ((cpu.mode : Int) * 2 ^ 11) =
      ((Trap.enterM x cpu'.mode).toNat : Int) := by
  have hmpie : Python.MSTATUS_MPIE = (Trap.MSTATUS_MPIE.toNat : Int) := by decide
  have hmie : Python.MSTATUS_MIE = (Trap.MSTATUS_MIE.toNat : Int) := by decide
  have hmpp : Python.MSTATUS_MPP = (Trap.MSTATUS_MPP.toNat : Int) := by decide
  have hmode : (cpu.mode : Int) * (2 : Int) ^ 11 =
      (((cpu'.mode.setWidth 64 : U64) <<< 11).toNat : Int) := by
    have hsmall := cpu'.mode.isLt
    rw [same.mode, BitVec.toNat_shiftLeft, BitVec.toNat_setWidth, Nat.shiftLeft_eq]
    omega
  rw [hmpie, hmie, hmpp, hmode, hasBits_word, flag_word, ldiff_word, lor_word, ldiff_word,
    ldiff_word, lor_word]
  rfl

/-- The value of the cause register. -/
theorem cause_word {cause : U64} (small : cause.toNat < 64) (isInterrupt : Bool) :
    (if isInterrupt then (cause.toNat : Int) + 2 ^ 63 else (cause.toNat : Int)) =
      ((Trap.causeValue cause isInterrupt).toNat : Int) := by
  cases isInterrupt with
  | false => rfl
  | true =>
      have hbit : (bit 63 : U64).toNat = 2 ^ 63 := by decide
      rw [if_pos rfl, Trap.causeValue, if_pos rfl, BitVec.or_comm,
        toNat_or_of_low (n := 63) (by rw [hbit, Nat.mod_self]) (by omega), hbit]
      omega

/-- Both sides take a trap alike. -/
theorem SameCpu.raiseTrap [Host] (same : SameCpu cpu cpu') {cause : Nat} {cause' : U64}
    (hcause : cause = cause'.toNat) (small : cause < 64) (isInterrupt : Bool) {tval : Int}
    {tval' : U64} (htval : tval = (tval'.toNat : Int)) :
    ∃ pc taken, Trap.raiseTrap cause' isInterrupt tval' cpu' = .ok pc taken ∧
      (Python.raiseTrap cpu cause isInterrupt tval).1 = (pc.toNat : Int) ∧
      SameCpu (Python.raiseTrap cpu cause isInterrupt tval).2 taken := by
  have hstatus := same.csrs.get (k := Python.CSR.MSTATUS) (r := Csr.MSTATUS) rfl
  have hpc : (cpu.pc.toNat : Int) = cpu'.pc.toNat := by rw [same.pc]
  subst hcause
  have hvalue := cause_word small isInterrupt
  have happly := Trap.raiseTrap_apply cpu' small isInterrupt tval'
  unfold Python.raiseTrap
  rw [same.delegated rfl, hstatus]
  by_cases hd : Trap.Delegated cpu' cause' isInterrupt
  · rw [if_pos hd] at happly
    rw [decide_eq_true hd, if_pos rfl]
    have hcsrs : SameCsrs _ (Trap.takenS cpu' (Trap.causeValue cause' isInterrupt) tval').csrs :=
      (((same.csrs.insert (k := Python.CSR.SEPC) (r := Csr.SEPC) rfl hpc).insert
        (k := Python.CSR.SCAUSE) (r := Csr.SCAUSE) rfl hvalue).insert
          (k := Python.CSR.STVAL) (r := Csr.STVAL) rfl htval).insert
            (k := Python.CSR.MSTATUS) (r := Csr.MSTATUS) rfl
              (same.enterS (cpu'.csrs.get Csr.MSTATUS))
    refine ⟨_, _, happly, ?_, ?_⟩
    · have hvector := hcsrs.get (k := Python.CSR.STVEC) (r := Csr.STVEC) rfl
      rw [Trap.takenS_get] at hvector
      exact (congrArg (Int.ldiff · 3) hvector).trans (ldiff_word _ 3#64)
    · exact ⟨same.registers, same.pc, rfl, show 1 ≤ 3 by decide, hcsrs, same.hartid, same.handles⟩
  · rw [if_neg hd] at happly
    rw [decide_eq_false hd, if_neg Bool.false_ne_true]
    have hcsrs : SameCsrs _ (Trap.takenM cpu' (Trap.causeValue cause' isInterrupt) tval').csrs :=
      (((same.csrs.insert (k := Python.CSR.MEPC) (r := Csr.MEPC) rfl hpc).insert
        (k := Python.CSR.MCAUSE) (r := Csr.MCAUSE) rfl hvalue).insert
          (k := Python.CSR.MTVAL) (r := Csr.MTVAL) rfl htval).insert
            (k := Python.CSR.MSTATUS) (r := Csr.MSTATUS) rfl
              (same.enterM (cpu'.csrs.get Csr.MSTATUS))
    refine ⟨_, _, happly, ?_, ?_⟩
    · have hvector := hcsrs.get (k := Python.CSR.MTVEC) (r := Csr.MTVEC) rfl
      rw [Trap.takenM_get] at hvector
      exact (congrArg (Int.ldiff · 3) hvector).trans (ldiff_word _ 3#64)
    · exact ⟨same.registers, same.pc, rfl, Nat.le_refl 3, hcsrs, same.hartid, same.handles⟩

end Traps

section Counterpart

variable {m : Machine}

/-- The Python hart with the registers, pc, mode, CSRs, timer and RAM of `m`. -/
def toTimed (m : Machine) : Python.Hart Python.TimerBoard where
  cpu := { Python.Cpu.new m.cpu.hartid.toNat with
    registers := fun i => m.cpu.regs.read (BitVec.ofNat 5 i)
    pc := m.cpu.pc
    csrs := fun addr => ((m.cpu.csrs.slots (BitVec.ofNat 12 addr)).toNat : Int)
    mode := m.cpu.mode.toNat }
  board :=
    { bus := (toPython m).board
      clint := ⟨m.bus.dev.clint.mtime.toNat,
        m.bus.dev.clint.mtimecmp.map fun limit => (limit.toNat : Int)⟩ }

/-- Every hart that holds a handle to the CLINT only has a counterpart in Python. -/
theorem alike_toTimed (privilege : m.cpu.mode.toNat ≤ 3)
    (handles : m.cpu.clint = true ∧ m.cpu.uart = false ∧ m.cpu.plic = false)
    (length : m.bus.ram.data.length = m.bus.ramRange.size.toNat)
    (bounded : m.bus.ramRange.start.toNat + m.bus.ramRange.size.toNat < 2 ^ 64) :
    Alike (toTimed m) m := by
  refine ⟨⟨toPython_reg m, rfl, rfl, privilege, fun a => ?_, rfl, handles⟩, rfl, rfl,
    ⟨rfl, length, bounded⟩⟩
  change ((m.cpu.csrs.slots (BitVec.ofNat 12 a.toNat)).toNat : Int) = _
  rw [BitVec.ofNat_toNat, BitVec.setWidth_eq]

end Counterpart

end Riscvm.Lockstep
