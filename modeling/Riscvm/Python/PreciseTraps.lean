import Riscvm.Python.Escapes

/-!
# Precise traps

An instruction that raises a trap has done nothing yet. What `execute` makes of the trap is the
entry of `raise_trap`: the record at the target level, the stack of `mstatus` and the vector.
-/

namespace Riscvm.Python

open Exec

theorem hasBits_flag (x : Int) (k : Nat) : hasBits x ((2 ^ k : Nat) : Int) = Int.testBit x k := by
  rw [hasBits, land_flag]
  cases Int.testBit x k with
  | false => rfl
  | true => simp

/-- A flag that is taken out and put in again if `p` holds. -/
theorem testBit_putFlag (x : Int) (k : Nat) (p : Prop) [Decidable p] (i : Nat) :
    Int.testBit (Int.lor (Int.ldiff x ((2 ^ k : Nat) : Int))
      (if p then ((2 ^ k : Nat) : Int) else 0)) i =
      if i = k then decide p else Int.testBit x i := by
  have hvalue : Int.testBit (if p then ((2 ^ k : Nat) : Int) else 0) i =
      (decide p && decide (k = i)) := by
    by_cases hp : p
    · rw [if_pos hp, decide_eq_true hp, Bool.true_and, testBit_flag]
    · rw [if_neg hp, decide_eq_false hp, Bool.false_and]
      exact Nat.zero_testBit i
  rw [Int.testBit_lor, Int.testBit_ldiff, testBit_flag, hvalue]
  by_cases hi : i = k
  · rw [if_pos hi, decide_eq_true hi.symm, Bool.not_true, Bool.and_false, Bool.and_true,
      Bool.false_or]
  · rw [if_neg hi, decide_eq_false (Ne.symm hi), Bool.not_false, Bool.and_true, Bool.and_false,
      Bool.or_false]

theorem testBit_clearFlag (x : Int) (k i : Nat) :
    Int.testBit (Int.ldiff x ((2 ^ k : Nat) : Int)) i =
      if i = k then false else Int.testBit x i := by
  rw [Int.testBit_ldiff, testBit_flag]
  by_cases hi : i = k
  · rw [if_pos hi, decide_eq_true hi.symm, Bool.not_true, Bool.and_false]
  · rw [if_neg hi, decide_eq_false (Ne.symm hi), Bool.not_false, Bool.and_true]

/-- The field of the previous mode takes a level of two bits. -/
theorem testBit_putMode (x : Int) {mode : Nat} (h : mode < 4) (i : Nat) :
    Int.testBit (Int.lor (Int.ldiff x MSTATUS_MPP) ((mode : Int) * 2 ^ 11)) i =
      if i = 11 ∨ i = 12 then mode.testBit (i - 11) else Int.testBit x i := by
  have hfield : Int.testBit MSTATUS_MPP i = decide (i = 11 ∨ i = 12) := by
    change Nat.testBit (2 ^ 11 ||| 2 ^ 12) i = _
    rw [Nat.testBit_or, Nat.testBit_two_pow, Nat.testBit_two_pow, Bool.decide_or]
    simp only [eq_comm]
  have hmode : Int.testBit ((mode : Int) * 2 ^ 11) i =
      (decide (11 ≤ i) && mode.testBit (i - 11)) := by
    change Nat.testBit (mode * 2 ^ 11) i = _
    rw [Nat.testBit_mul_two_pow]
  rw [Int.testBit_lor, Int.testBit_ldiff, hfield, hmode]
  by_cases hi : i = 11 ∨ i = 12
  · have hle : 11 ≤ i := by omega
    rw [if_pos hi, decide_eq_true hi, decide_eq_true hle, Bool.not_true, Bool.and_false,
      Bool.false_or, Bool.true_and]
  · have hnone : (decide (11 ≤ i) && mode.testBit (i - 11)) = false := by
      by_cases hle : 11 ≤ i
      · have hexponent : 2 ≤ i - 11 := by omega
        have hpow : mode < 2 ^ (i - 11) :=
          Nat.lt_of_lt_of_le h (Nat.pow_le_pow_right (n := 2) (by decide) hexponent)
        rw [Nat.testBit_lt_two_pow hpow, Bool.and_false]
      · rw [decide_eq_false hle, Bool.false_and]
    rw [if_neg hi, decide_eq_false hi, hnone, Bool.not_false, Bool.and_true, Bool.or_false]

/-- The registers that an entry to a level writes and reads, and the level. -/
structure TrapRegisters where
  epc : Nat
  cause : Nat
  tval : Nat
  tvec : Nat
  mode : Nat

namespace TrapRegisters

def S : TrapRegisters := ⟨CSR.SEPC, CSR.SCAUSE, CSR.STVAL, CSR.STVEC, 1⟩

def M : TrapRegisters := ⟨CSR.MEPC, CSR.MCAUSE, CSR.MTVAL, CSR.MTVEC, 3⟩

end TrapRegisters

/-- `mstatus` after an entry to S-mode: SPIE is SIE, SIE is off and SPP says whether the hart was
in S-mode. -/
def stackedS (cpu : Cpu) (i : Nat) : Bool :=
  if i = 8 then cpu.mode = 1
  else if i = 1 then false
  else if i = 5 then (cpu.csrs CSR.MSTATUS).testBit 1
  else (cpu.csrs CSR.MSTATUS).testBit i

/-- `mstatus` after an entry to M-mode: MPIE is MIE, MIE is off and MPP is the mode. -/
def stackedM (cpu : Cpu) (i : Nat) : Bool :=
  if i = 11 ∨ i = 12 then cpu.mode.testBit (i - 11)
  else if i = 3 then false
  else if i = 7 then (cpu.csrs CSR.MSTATUS).testBit 3
  else (cpu.csrs CSR.MSTATUS).testBit i

/-- The trap has been taken by way of `regs`: the bits of `mstatus` are `stacked`, and no other
CSR has changed. -/
structure TakenAt (regs : TrapRegisters) (stacked : Nat → Bool) (t : ArchitecturalTrap)
    (cpu cpu' : Cpu) : Prop where
  epc : cpu'.csrs regs.epc = cpu.pc.toNat
  cause : cpu'.csrs regs.cause = t.cause
  tval : cpu'.csrs regs.tval = t.tval
  mstatus : ∀ i, (cpu'.csrs CSR.MSTATUS).testBit i = stacked i
  others : ∀ a, a ≠ regs.epc → a ≠ regs.cause → a ≠ regs.tval → a ≠ CSR.MSTATUS →
    cpu'.csrs a = cpu.csrs a
  mode : cpu'.mode = regs.mode
  pc : cpu'.pc = BitVec.ofInt 64 (Int.ldiff (cpu.csrs regs.tvec) 3)

/-- The hart after the entry. -/
def entered (cpu : Cpu) (t : ArchitecturalTrap) : Cpu :=
  let (pc, cpu') := raiseTrap cpu t.cause.toNat false t.tval
  { cpu' with pc := BitVec.ofInt 64 pc }

theorem setCsr_ne (cpu : Cpu) {addr a : Nat} (value : Int) (h : a ≠ addr) :
    (cpu.setCsr addr value).csrs a = cpu.csrs a := if_neg h

section Entered

variable {cpu : Cpu} {t : ArchitecturalTrap}

/-- An entry leaves all of the hart but its CSRs, its mode and its pc. -/
theorem entered_kept (cpu : Cpu) (t : ArchitecturalTrap) :
    entered cpu t = { cpu with
      csrs := (entered cpu t).csrs
      mode := (entered cpu t).mode
      pc := (entered cpu t).pc } := by
  unfold entered raiseTrap
  dsimp only
  split <;> rfl

theorem entered_delegated (h : delegated cpu t.cause.toNat false = true)
    (hcause : (t.cause.toNat : Int) = t.cause) :
    TakenAt .S (stackedS cpu) t cpu (entered cpu t) := by
  unfold entered raiseTrap
  dsimp only
  rw [if_pos h, if_neg Bool.false_ne_true, hcause]
  refine ⟨rfl, rfl, rfl, fun i => ?_, fun a hepc hcause htval hstatus => ?_, rfl, rfl⟩
  · change Int.testBit (Int.lor (Int.ldiff (Int.ldiff (Int.lor (Int.ldiff (cpu.csrs CSR.MSTATUS)
      ((2 ^ 5 : Nat) : Int)) (if hasBits (cpu.csrs CSR.MSTATUS) ((2 ^ 1 : Nat) : Int) = true then
        ((2 ^ 5 : Nat) : Int) else 0)) ((2 ^ 1 : Nat) : Int)) ((2 ^ 8 : Nat) : Int))
      (if cpu.mode = 1 then ((2 ^ 8 : Nat) : Int) else 0)) i = _
    rw [testBit_putFlag, testBit_clearFlag, testBit_putFlag, hasBits_flag, Bool.decide_eq_true]
    rfl
  · exact (setCsr_ne _ _ hstatus).trans ((setCsr_ne _ _ htval).trans
      ((setCsr_ne _ _ hcause).trans (setCsr_ne _ _ hepc)))

theorem entered_machine (h : delegated cpu t.cause.toNat false = false) (level : cpu.mode < 4)
    (hcause : (t.cause.toNat : Int) = t.cause) :
    TakenAt .M (stackedM cpu) t cpu (entered cpu t) := by
  unfold entered raiseTrap
  dsimp only
  rw [h, if_neg Bool.false_ne_true, if_neg Bool.false_ne_true, hcause]
  refine ⟨rfl, rfl, rfl, fun i => ?_, fun a hepc hcause htval hstatus => ?_, rfl, rfl⟩
  · change Int.testBit (Int.lor (Int.ldiff (Int.ldiff (Int.lor (Int.ldiff (cpu.csrs CSR.MSTATUS)
      ((2 ^ 7 : Nat) : Int)) (if hasBits (cpu.csrs CSR.MSTATUS) ((2 ^ 3 : Nat) : Int) = true then
        ((2 ^ 7 : Nat) : Int) else 0)) ((2 ^ 3 : Nat) : Int)) MSTATUS_MPP)
      ((cpu.mode : Int) * 2 ^ 11)) i = _
    rw [testBit_putMode _ level, testBit_clearFlag, testBit_putFlag, hasBits_flag,
      Bool.decide_eq_true]
    rfl
  · exact (setCsr_ne _ _ hstatus).trans ((setCsr_ne _ _ htval).trans
      ((setCsr_ne _ _ hcause).trans (setCsr_ne _ _ hepc)))

end Entered

section Precise

variable {σ : Type} [Board σ] {hart hart' : Hart σ} {instruction : Instruction}
  {t : ArchitecturalTrap}

theorem Rv64i.perform_untouched {x : Nat} {mnemonic : Mnemonic}
    (run : perform x mnemonic hart = .error (.trap t) hart') : hart' = hart := by
  have htrap := trap_perform run
  rw [perform_traps htrap] at run
  cases run
  rfl

theorem Rv64c.perform_untouched {x : Nat} {mnemonic : Mnemonic}
    (run : perform x mnemonic hart = .error (.trap t) hart') : hart' = hart := by
  have htrap := trap_perform run
  have hstate {h : Hart σ} (hrun : perform x mnemonic hart = .error (.trap t) h) : hart' = h := by
    rw [hrun] at run
    cases run
    rfl
  have hread := fun operand => @read_traps σ Int _ hart operand t
  have hwrite := fun operand => @write_traps σ Int _ hart operand t
  have hword : (4 : Int) ≠ 0 ∧ (8 : Int) ≠ 0 := by decide
  refine hstate ?_
  rw [perform, getCpu_bind_apply] at run ⊢
  cases mnemonic with
  | SDSP | SD => exact hwrite _ htrap hword.2 rfl _ _
  | SW => exact hwrite _ htrap hword.1 rfl _ _
  | LD => exact hread _ htrap hword.2 rfl _
  | LW => exact hread _ htrap hword.1 rfl _
  | LDSP =>
      -- the assertion comes before the read
      by_cases hrd : rd x ≠ 0
      · have hassert : (assert (rd x ≠ 0) : Call (Hart σ) Unit) hart = .ok () hart :=
          assert_eq_ok.mpr ⟨hrd, rfl⟩
        exact (bind_ok hassert _).trans (hread _ htrap hword.2 rfl _)
      · rw [assert, if_neg hrd] at run
        cases run
  | _ => cases htrap

theorem act_untouched (run : act instruction hart = .error (.trap t) hart') : hart' = hart := by
  unfold act at run
  by_cases hi : instruction.value % 4 = 3
  · rw [if_pos hi] at run
    obtain ⟨m, hart₁, hm, h⟩ := trap_bind (.bind (due_assert _) fun _ => due_getattr _) run
    obtain ⟨-, rfl⟩ := Rv64i.getMnemonic_eq_ok hm
    exact Rv64i.perform_untouched h
  · rw [if_neg hi] at run
    obtain ⟨m, hart₁, hm, h⟩ := trap_bind (due_getattr _) run
    obtain ⟨-, rfl⟩ := getattr_eq_ok hm
    exact Rv64c.perform_untouched h

omit [Board σ] in
theorem cause_of_access {operand : Option Access} (h : (operand.bind (·.trap)) = some t) :
    (t.cause.toNat : Int) = t.cause := by
  obtain ⟨access, -, htrap⟩ := Option.bind_eq_some_iff.mp h
  unfold Access.trap at htrap
  split at htrap
  · cases htrap
    exact congrArg Int.ofNat (Int.toNat_natCast _)
  · cases htrap

omit [Board σ] in
/-- A cause is the number of an exception. -/
theorem cause_of_trapOf {cpu : Cpu} (h : instruction.trapOf cpu = some t) :
    (t.cause.toNat : Int) = t.cause := by
  unfold Instruction.trapOf at h
  by_cases hi : instruction.value % 4 = 3
  · rw [if_pos hi] at h
    obtain ⟨mnemonic, -, htrap⟩ := Option.bind_eq_some_iff.mp h
    unfold Rv64i.trapOf at htrap
    split at htrap
    · cases htrap
      rfl
    · split at htrap
      · cases htrap
        rfl
      · exact cause_of_access htrap
  · rw [if_neg hi] at h
    obtain ⟨mnemonic, -, htrap⟩ := Option.bind_eq_some_iff.mp h
    exact cause_of_access htrap

/-- A trap that `execute` catches leaves registers and memory alone, and the hart enters the level
that `medeleg` chooses. -/
theorem precise_trap (hi : hart.cpu.instruction = some instruction) (level : hart.cpu.mode < 4)
    (run : act instruction hart = .error (.trap t) hart')
    (caught : ¬(t.illegal = true ∧ hart.cpu.strictIllegal = true)) :
    ∃ cpu, execute hart = .ok () ⟨cpu, hart.board⟩ ∧
      cpu = { hart.cpu with csrs := cpu.csrs, mode := cpu.mode, pc := cpu.pc } ∧
      if delegated hart.cpu t.cause.toNat false then TakenAt .S (stackedS hart.cpu) t hart.cpu cpu
      else TakenAt .M (stackedM hart.cpu) t hart.cpu cpu := by
  have hcause := cause_of_trapOf (trap_act run)
  cases act_untouched run
  refine ⟨entered hart.cpu t, ?_, entered_kept hart.cpu t, ?_⟩
  · rw [execute_of_trap hi run, handle, getCpu_bind_apply, if_neg caught]
    rfl
  · cases hd : delegated hart.cpu t.cause.toNat false with
    | true => exact entered_delegated hd hcause
    | false => exact entered_machine hd level hcause

end Precise

section Example

/-- `lw x1, 2(x0)` at the start of 64 bytes of RAM. -/
def lwMisaligned : Instruction := .rv64i 0x00202083

theorem precise_trap_lw :
    ∃ cpu, execute (loaded lwMisaligned) = .ok () ⟨cpu, (loaded lwMisaligned).board⟩ ∧
      TakenAt .M (stackedM (loaded lwMisaligned).cpu) ⟨4, 2, false⟩
        (loaded lwMisaligned).cpu cpu := by
  have run : act lwMisaligned (loaded lwMisaligned) =
      .error (.trap ⟨4, 2, false⟩) (loaded lwMisaligned) := rfl
  obtain ⟨cpu, hexecute, -, htaken⟩ := precise_trap rfl (by decide) run (by decide)
  exact ⟨cpu, hexecute, htaken⟩

end Example

end Riscvm.Python
