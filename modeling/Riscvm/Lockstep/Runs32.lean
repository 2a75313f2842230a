import Riscvm.Lockstep.Privileged

/-!
# Lock step on uncompressed code

From alike harts, a run of the Python CPU that fetches uncompressed instructions with translation
off and executes them without raising is a run of the Rust hart, and the harts are alike again
after every step of it.
-/

namespace Riscvm.Lockstep

open Exec TwosComplement Rv64rs Python.Rv64i

section Steps

variable [Host] {w : U32} {hart hart' : Python.Hart Python.TimerBoard} {m : Machine}
  {mnemonic : Mnemonic}

/-- An instruction that changes the pc only. -/
theorem Running.skips (run : Running w hart m)
    (hpython : perform w.toNat mnemonic hart =
      .ok ((hart.cpu.pc.toNat : Int) + 4) hart) {m' : Machine}
    (hrust : Execute.executeFrom (m.cpu.pc + 4) (Instruction.new w) m = .ok (m.cpu.pc + 4) m')
    (same : Alike hart m') : Obeys w hart m mnemonic := by
  intro next hart' hok
  obtain ⟨rfl, rfl⟩ := EStateM.Result.ok.inj (hpython.symm.trans hok)
  rw [run.next]
  exact ⟨m', hrust, same⟩

theorem Running.miscMem (run : Running w hart m) (hop : (Instruction.new w).opcode = 0x0f)
    (hm : mnemonicOf w.toNat = some mnemonic) : Obeys w hart m mnemonic := by
  have hrust : Execute.executeFrom (m.cpu.pc + 4) (Instruction.new w) m =
      .ok (m.cpu.pc + 4) m := by
    unfold Execute.executeFrom
    simp only [hop]
    rfl
  rw [miscMem_mnemonic hop] at hm
  generalize (Instruction.new w).funct3 = f3 at hm
  split at hm <;> cases hm
  · exact run.skips rfl hrust run.toAlike
  · exact run.skips rfl hrust run.toAlike
  · exact undefined_fails

/-- WFI and SFENCE.VMA. -/
theorem Running.waits (run : Running w hart m) (hop : (Instruction.new w).opcode = 0x73)
    (h3 : (Instruction.new w).funct3 = 0#3) (h : (Instruction.new w).funct7 = 0x08#7 ∧
      (Instruction.new w).rs2 = 0x05#5 ∨ (Instruction.new w).funct7 = 0x09#7)
    (hm : mnemonicOf w.toNat = some mnemonic) : Obeys w hart m mnemonic := by
  obtain ⟨h7, h2⟩ | h7 := h
  · have hwfi : mnemonicOf w.toNat = some .WFI := by
      refine mnemonic_of_selects (by decide) ?_
      rw [hop, h3, h7, h2]
      rfl
    obtain rfl := Option.some.inj (hwfi.symm.trans hm)
    refine run.skips rfl ?_ run.toAlike
    rw [Execute.executeFrom_system hop]
    unfold Execute.executeSystem
    simp only [h3, h7, h2]
    rfl
  · have hfence : mnemonicOf w.toNat = some .SFENCE_VMA := by
      refine mnemonic_of_selects (by decide) ?_
      rw [hop, h3, h7]
      rfl
    obtain rfl := Option.some.inj (hfence.symm.trans hm)
    -- the TLB is not part of what is alike
    have same : Alike hart { m with cpu := { m.cpu with tlb := m.cpu.tlb.flush } } :=
      ⟨⟨run.cpu.registers, run.cpu.pc, run.cpu.mode, run.cpu.privilege, run.cpu.csrs,
        run.cpu.hartid, run.cpu.handles⟩, run.mtime, run.mtimecmp, run.ram⟩
    refine run.skips rfl ?_ same
    rw [Execute.executeFrom_system hop]
    unfold Execute.executeSystem
    simp only [h3, h7]
    rfl

theorem Running.system (run : Running w hart m) (hop : (Instruction.new w).opcode = 0x73)
    (hm : mnemonicOf w.toNat = some mnemonic) : Obeys w hart m mnemonic := by
  by_cases h3 : (Instruction.new w).funct3 = 0
  · by_cases hbreak : (Instruction.new w).funct7 = 0 ∧ (Instruction.new w).rs2 = 1
    · have hebreak : mnemonicOf w.toNat = some .EBREAK := by
        refine mnemonic_of_selects (by decide) ?_
        rw [hop, h3, hbreak.1, hbreak.2]
        rfl
      obtain rfl := Option.some.inj (hebreak.symm.trans hm)
      exact .fails fun _ _ h => nomatch h
    · cases hcase : hasCase mnemonic with
      | false => exact fails_of_not_hasCase hcase
      | true =>
          have haccepts := (Decoders.implements_iff w).mp ⟨mnemonic, hm, hcase⟩
          have hagree := Decoders.fields_agree 0x73 0 (Instruction.new w).funct7
            (Instruction.new w).rs2
          have hdisputed : Decoders.disputed 0x73 0 (Instruction.new w).funct7
              (Instruction.new w).rs2 = false := decide_eq_false fun h => hbreak h.2
          rw [hop, h3] at haccepts
          rw [haccepts, hdisputed] at hagree
          have hfields := (of_decide_eq_true (beq_iff_eq.mp hagree)).2 rfl
          obtain ⟨h7, h2⟩ | ⟨h7, h2 | h2⟩ | h7 | h7 := hfields
          · exact run.ecall ⟨hop, h3, h7, h2⟩ hm
          · exact run.sret ⟨hop, h3, h7, h2⟩ hm
          · exact run.waits hop h3 (.inl ⟨h7, h2⟩) hm
          · exact run.waits hop h3 (.inr h7) hm
          · exact run.mret ⟨hop, h3, h7⟩ hm
  · exact run.csrForms hop h3 hm

/-- Every mnemonic outside the M extension. -/
theorem Running.obeys (run : Running w hart m)
    (hm : mnemonicOf w.toNat = some mnemonic)
    (h1 : (Instruction.new w).opcode = 0x33 ∨ (Instruction.new w).opcode = 0x3b →
      (Instruction.new w).funct7 ≠ 1) : Obeys w hart m mnemonic := by
  by_cases hknown : (Instruction.new w).opcode ∈
      0x73#7 :: Decoders.deep ++ Decoders.shallow
  · simp only [Decoders.deep, Decoders.shallow, List.cons_append, List.nil_append, List.mem_cons,
      List.not_mem_nil, or_false] at hknown
    obtain h | h | h | h | h | h | h | h | h | h | h | h | h | h := hknown
    · exact run.system h hm
    · exact run.opImm h hm
    · exact run.opImm32 h hm
    · exact run.amo h hm
    · exact run.op h (h1 (.inl h)) hm
    · exact run.op32 h (h1 (.inr h)) hm
    · exact run.load h hm
    · exact run.miscMem h hm
    · exact run.auipc h hm
    · exact run.store h hm
    · exact run.lui h hm
    · exact run.branch h hm
    · exact run.jalr h hm
    · exact run.jal h hm
  · cases hcase : hasCase mnemonic with
    | false => exact fails_of_not_hasCase hcase
    | true =>
        have haccepts := (Decoders.implements_iff w).mp ⟨mnemonic, hm, hcase⟩
        rw [(Decoders.unknown_opcode hknown _ _ _).2.1] at haccepts
        cases haccepts

/-- An instruction of the M extension. -/
theorem Running.computed (run : Running w hart m) {opcode : BitVec 7} {funct3 : BitVec 3} {v : U64}
    (computes : Computes opcode funct3 (m.cpu.regs.read (Instruction.new w).rs1)
      (m.cpu.regs.read (Instruction.new w).rs2) v) (hop : (Instruction.new w).opcode = opcode)
    (h3 : (Instruction.new w).funct3 = funct3) (h7 : (Instruction.new w).funct7 = 1)
    (h : Python.act (.rv64i w) hart = .ok () hart') :
    ∃ m', Machine.execute (.new w) m = .ok () m' ∧ Alike hart' m' := by
  obtain ⟨tracer, hpython⟩ := computes.python w hart hop h3 h7 run.instruction
    (run.cpu.registers _) (run.cpu.registers _)
  have hexecute := Python.execute_of_act run.instruction h
  obtain ⟨-, rfl⟩ := EStateM.Result.ok.inj (hpython.symm.trans hexecute)
  refine ⟨_, computes.rust w m hop h3 h7 rfl rfl, ⟨fun j => ?_, ?_, run.cpu.mode,
    run.cpu.privilege, run.cpu.csrs, run.cpu.hartid, run.cpu.handles⟩, run.mtime, run.mtimecmp,
    run.ram⟩
  · exact assign_registers run.cpu.registers _ (ofInt_toNat v) j
  · exact congrArg (· + 4) run.cpu.pc

theorem Running.op_m (run : Running w hart m) (hop : (Instruction.new w).opcode = 0x33)
    (h7 : (Instruction.new w).funct7 = 1) (h : Python.act (.rv64i w) hart = .ok () hart') :
    ∃ m', Machine.execute (.new w) m = .ok () m' ∧ Alike hart' m' := by
  obtain h3 | h3 | h3 | h3 | h3 | h3 | h3 | h3 := Compressed.cases3 (Instruction.new w).funct3
  · exact run.computed (mul_computes _ _) hop h3 h7 h
  · exact run.computed (mulh_computes _ _) hop h3 h7 h
  · exact run.computed (mulhsu_computes _ _) hop h3 h7 h
  · exact run.computed (mulhu_computes _ _) hop h3 h7 h
  · exact run.computed (div_computes _ _) hop h3 h7 h
  · exact run.computed (divu_computes _ _) hop h3 h7 h
  · exact run.computed (rem_computes _ _) hop h3 h7 h
  · exact run.computed (remu_computes _ _) hop h3 h7 h

omit [Host] in
/-- An actor that returns has found a mnemonic and performed it. -/
theorem act_eq_ok (low : w.toNat % 4 = 3) (h : Python.act (.rv64i w) hart = .ok () hart') :
    ∃ mnemonic next hart₁, mnemonicOf w.toNat = some mnemonic ∧
      perform w.toNat mnemonic hart = .ok next hart₁ ∧
      hart' = { hart₁ with cpu := { hart₁.cpu with pc := BitVec.ofInt 64 next } } := by
  rw [Python.act, if_pos (show (Python.Instruction.rv64i w).value % 4 = 3 from low)] at h
  obtain ⟨mnemonic, hart₁, hget, hrest⟩ := bind_eq_ok.mp h
  obtain ⟨hm, rfl⟩ := Python.Rv64i.getMnemonic_eq_ok hget
  obtain ⟨next, hart₂, hperform, hset⟩ := bind_eq_ok.mp hrest
  cases hset
  exact ⟨mnemonic, next, hart₂, hm, hperform, rfl⟩

theorem Running.op32_m (run : Running w hart m) (hop : (Instruction.new w).opcode = 0x3b)
    (h7 : (Instruction.new w).funct7 = 1) (h : Python.act (.rv64i w) hart = .ok () hart') :
    ∃ m', Machine.execute (.new w) m = .ok () m' ∧ Alike hart' m' := by
  have hundefined (h3 : op32Mnemonic (Instruction.new w).funct3 = .UNDEFINED) :
      ∃ m', Machine.execute (.new w) m = .ok () m' ∧ Alike hart' m' := by
    obtain ⟨mnemonic, next, hart₁, hm, hperform, -⟩ := act_eq_ok run.low h
    rw [mnemonicOf_op32 hop h7, h3] at hm
    cases hm
    cases hperform
  obtain h3 | h3 | h3 | h3 | h3 | h3 | h3 | h3 := Compressed.cases3 (Instruction.new w).funct3
  · exact run.computed (mulw_computes _ _) hop h3 h7 h
  · exact hundefined (by rw [h3]; rfl)
  · exact hundefined (by rw [h3]; rfl)
  · exact hundefined (by rw [h3]; rfl)
  · exact run.computed (divw_computes _ _) hop h3 h7 h
  · exact run.computed (divuw_computes _ _) hop h3 h7 h
  · exact run.computed (remw_computes _ _) hop h3 h7 h
  · exact run.computed (remuw_computes _ _) hop h3 h7 h

/-- An instruction outside the M extension. -/
theorem Running.obeyed (run : Running w hart m)
    (h1 : (Instruction.new w).opcode = 0x33 ∨ (Instruction.new w).opcode = 0x3b →
      (Instruction.new w).funct7 ≠ 1) (h : Python.act (.rv64i w) hart = .ok () hart') :
    ∃ m', Machine.execute (.new w) m = .ok () m' ∧ Alike hart' m' := by
  obtain ⟨mnemonic, next, hart₁, hm, hperform, rfl⟩ := act_eq_ok run.low h
  obtain ⟨m₁, hrust, same⟩ := run.obeys hm h1 next hart₁ hperform
  refine ⟨{ m₁ with cpu := { m₁.cpu with pc := BitVec.ofInt 64 next } }, ?_,
    ⟨same.cpu.registers, rfl, same.cpu.mode, same.cpu.privilege, same.cpu.csrs, same.cpu.hartid,
      same.cpu.handles⟩, same.mtime, same.mtimecmp, same.ram⟩
  rw [Machine.execute_apply]
  exact bind_ok hrust _

/-- Where the actor returns, so does the executor, and the harts are alike again. -/
theorem Running.execute (run : Running w hart m)
    (h : Python.act (.rv64i w) hart = .ok () hart') :
    ∃ m', Machine.execute (.new w) m = .ok () m' ∧ Alike hart' m' := by
  by_cases h7 : (Instruction.new w).funct7 = 1
  · by_cases hop : (Instruction.new w).opcode = 0x33
    · exact run.op_m hop h7 h
    by_cases hop' : (Instruction.new w).opcode = 0x3b
    · exact run.op32_m hop' h7 h
    exact run.obeyed (fun hm => (hm.elim hop hop').elim) h
  · exact run.obeyed (fun _ => h7) h

end Steps

section Runs

/-- A step in which the Python CPU, with translation off, fetches an uncompressed instruction and
its actor returns: no exception is raised, not even one that `execute` would deliver. -/
def PlainStep (hart hart' : Python.Hart Python.TimerBoard) : Prop :=
  Python.Bare hart.cpu ∧ ∃ fetched w, Python.fetch hart = .ok () fetched ∧
    fetched.cpu.instruction = some (.rv64i w) ∧ Python.act (.rv64i w) fetched = .ok () hart'

/-- So many plain steps. -/
inductive PlainRun : Nat → Python.Hart Python.TimerBoard → Python.Hart Python.TimerBoard → Prop
  | refl (hart : Python.Hart Python.TimerBoard) : PlainRun 0 hart hart
  | step {k : Nat} {hart hart₁ hart' : Python.Hart Python.TimerBoard}
      (first : PlainStep hart hart₁) (rest : PlainRun k hart₁ hart') : PlainRun (k + 1) hart hart'

variable [Host]

/-- So many steps of the Rust hart. -/
def steps : (k : Nat) → Call Machine Unit
  | 0 => return ()
  | k + 1 => do
      Machine.step
      steps k

variable {hart hart' : Python.Hart Python.TimerBoard} {m : Machine}

omit [Host] in
/-- A plain step is one `fetch` and one `execute`. -/
theorem PlainStep.executes (h : PlainStep hart hart') :
    ∃ fetched, Python.fetch hart = .ok () fetched ∧ Python.execute fetched = .ok () hart' := by
  obtain ⟨-, fetched, w, hfetch, hw, hact⟩ := h
  exact ⟨fetched, hfetch, Python.execute_of_act hw hact⟩

theorem Alike.step (same : Alike hart m) (h : PlainStep hart hart') :
    ∃ m', Machine.step m = .ok () m' ∧ Alike hart' m' := by
  obtain ⟨bare, fetched, w, hfetch, hw, hact⟩ := h
  obtain ⟨m₁, hfetch', run⟩ := same.fetch bare hfetch hw
  obtain ⟨m', hexecute, same'⟩ := run.execute hact
  exact ⟨m', (bind_ok hfetch' _).trans hexecute, same'⟩

/-- The two emulators run uncompressed code in lock step. -/
theorem lockstep (same : Alike hart m) {k : Nat} (run : PlainRun k hart hart') :
    ∃ m', steps k m = .ok () m' ∧ Alike hart' m' := by
  induction run generalizing m with
  | refl hart => exact ⟨m, rfl, same⟩
  | step first rest ih =>
      obtain ⟨m₁, hstep, same₁⟩ := same.step first
      obtain ⟨m', hsteps, same'⟩ := ih same₁
      exact ⟨m', (bind_ok hstep _).trans hsteps, same'⟩

end Runs

section Example

attribute [local instance] Host.dev

/-- `addi a0, a0, 1` and `ecall` in a small RAM. -/
def calling : Machine where
  cpu := { Cpu.new 0 with pc := 0x80000000, clint := true }
  bus := { Bus.new { Devices.detached with clint := .new 0x10000 1 } with
    ram := .withContent 16 [0x13, 0x05, 0x15, 0x00, 0x73, 0x00, 0x00, 0x00]
    ramRange := ⟨0x80000000, 16⟩ }

/-- The Python hart after `addi`. -/
def added : Python.Hart Python.TimerBoard :=
  finish (Python.act (.rv64i 0x00150513) (finish (Python.fetch (toTimed calling))))

/-- The Python hart after `ecall`. -/
def called : Python.Hart Python.TimerBoard :=
  finish (Python.act (.rv64i 0x00000073) (finish (Python.fetch added)))

theorem plainRun_calling : PlainRun 2 (toTimed calling) called := by
  have first : PlainStep (toTimed calling) added := by
    refine ⟨?_, finish (Python.fetch (toTimed calling)), 0x00150513, ?_, ?_, ?_⟩
    all_goals with_unfolding_all rfl
  have second : PlainStep added called := by
    refine ⟨?_, finish (Python.fetch added), 0x00000073, ?_, ?_, ?_⟩
    all_goals with_unfolding_all rfl
  exact .step first (.step second (.refl called))

/-- The call is delivered on both sides, with the sum in `a0`. -/
theorem lockstep_calling : called.cpu.csrs Python.CSR.MCAUSE = 11 ∧ called.cpu.reg 10 = 1 ∧
    ∃ m', steps 2 calling = .ok () m' ∧ Alike called m' :=
  ⟨by with_unfolding_all rfl, by with_unfolding_all rfl,
    lockstep (alike_toTimed (by decide) ⟨rfl, rfl, rfl⟩ rfl (by decide)) plainRun_calling⟩

end Example

end Riscvm.Lockstep
