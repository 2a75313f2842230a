import Riscvm.Rv64rs.Step

/-!
# What an instruction does to the control state

The control state of a hart is its pc, its CSRs and its mode. Only the SYSTEM opcode
touches CSRs or the mode, and only in four ways: a CSR access, a trap by ECALL, and the
two returns. The next pc of every other instruction is sequential, a relative offset, or
read from a register.
-/

namespace Riscvm.Rv64rs

open Exec Machine

/-- Everything but the general registers, the TLB and the poll countdown is the same. -/
structure SameControl (cpu cpu' : Cpu) : Prop where
  pc : cpu'.pc = cpu.pc
  csrs : cpu'.csrs = cpu.csrs
  mode : cpu'.mode = cpu.mode
  hartid : cpu'.hartid = cpu.hartid

theorem SameControl.refl (cpu : Cpu) : SameControl cpu cpu := ⟨rfl, rfl, rfl, rfl⟩

theorem SameControl.trans {a b c : Cpu} (h : SameControl a b) (h' : SameControl b c) :
    SameControl a c :=
  ⟨h'.pc.trans h.pc, h'.csrs.trans h.csrs, h'.mode.trans h.mode, h'.hartid.trans h.hartid⟩

namespace Instruction

/-- CSRRW, CSRRS, CSRRC and their immediate forms. -/
def IsCsr (instr : Instruction) : Prop :=
  instr.opcode = 0x73 ∧ instr.funct3 ≠ 0 ∧ instr.funct3 ≠ 4

def IsEcall (instr : Instruction) : Prop :=
  instr.opcode = 0x73 ∧ instr.funct3 = 0 ∧ instr.funct7 = 0 ∧ instr.rs2 = 0

def IsSret (instr : Instruction) : Prop :=
  instr.opcode = 0x73 ∧ instr.funct3 = 0 ∧ instr.funct7 = 0b0001000 ∧ instr.rs2 = 0b00010

/-- The decoder does not look at the `rs2` field of MRET. -/
def IsMret (instr : Instruction) : Prop :=
  instr.opcode = 0x73 ∧ instr.funct3 = 0 ∧ instr.funct7 = 0b0011000

instance (instr : Instruction) : Decidable instr.IsCsr := inferInstanceAs (Decidable (_ ∧ _))

instance (instr : Instruction) : Decidable instr.IsEcall := inferInstanceAs (Decidable (_ ∧ _))

instance (instr : Instruction) : Decidable instr.IsSret := inferInstanceAs (Decidable (_ ∧ _))

instance (instr : Instruction) : Decidable instr.IsMret := inferInstanceAs (Decidable (_ ∧ _))

end Instruction

/-- C.JR and C.JALR. -/
def CInstruction.IsJump (instr : CInstruction) : Prop :=
  instr.op = 0b10 ∧ instr.funct3 = 0b100 ∧ instr.rs2 = 0 ∧ instr.rs1 ≠ 0

instance (instr : CInstruction) : Decidable instr.IsJump := inferInstanceAs (Decidable (_ ∧ _))

namespace Machine

/-- Every run of `x` leaves the control state as it was. -/
def KeepsControl {α : Type} (x : Call Machine α) : Prop :=
  Keeps (fun m m' => SameControl m.cpu m'.cpu) x

namespace KeepsControl

variable {α β : Type} {x : Call Machine α} {f : α → Call Machine β}

theorem pure (a : α) : KeepsControl (pure a : Call Machine α) := fun m => .refl m.cpu

theorem throw (e : Fault) : KeepsControl (throw e : Call Machine α) := fun m => .refl m.cpu

theorem error (e : EmuError) : KeepsControl (error e : Call Machine α) := throw _

theorem bind (first : KeepsControl x) (rest : ∀ a, KeepsControl (f a)) :
    KeepsControl (x >>= f) :=
  Keeps.bind SameControl.trans first rest

theorem get_bind {f : Machine → Call Machine β} (rest : ∀ m, KeepsControl (f m)) :
    KeepsControl (get >>= f) := fun m => rest m m

theorem ite {p : Prop} [Decidable p] {x y : Call Machine α} (hx : KeepsControl x)
    (hy : KeepsControl y) : KeepsControl (if p then x else y) := by
  by_cases h : p
  · rwa [if_pos h]
  · rwa [if_neg h]

theorem ok {m m' : Machine} {a : α} (h : KeepsControl x) (hx : x m = .ok a m') :
    SameControl m.cpu m'.cpu := by
  have := h m
  rwa [hx] at this

theorem fault {m m' : Machine} {e : Fault} (h : KeepsControl x) (hx : x m = .error e m') :
    SameControl m.cpu m'.cpu := by
  have := h m
  rwa [hx] at this

theorem onBus (x : Call Bus α) : KeepsControl (onBus x) := by
  intro m
  unfold Machine.onBus zoom
  cases x m.bus <;> exact .refl m.cpu

theorem readReg (i : BitVec 5) : KeepsControl (readReg i) := fun m => .refl m.cpu

theorem writeReg (i : BitVec 5) (v : U64) : KeepsControl (writeReg i v) :=
  fun _ => ⟨rfl, rfl, rfl, rfl⟩

theorem modifyCpu {g : Cpu → Cpu} (h : ∀ cpu, SameControl cpu (g cpu)) :
    KeepsControl (modifyCpu g) := fun m => h m.cpu

theorem illegalInstruction (instr : Instruction) :
    KeepsControl (Execute.illegalInstruction instr : Call Machine α) :=
  .get_bind fun _ => .error _

theorem illegalCInstruction (instr : CInstruction) :
    KeepsControl (Rvc.illegalCInstruction instr : Call Machine α) :=
  .get_bind fun _ => .error _

variable [Host]

theorem translate (va : U64) (access : Access) : KeepsControl (Mmu.translate va access) := by
  refine .get_bind fun m => .ite (.pure _) (.ite (.error _) (.get_bind fun m => ?_))
  cases m.cpu.tlb.lookup (va >>> 12) with
  | some page => exact .ite (.error _) (.pure _)
  | none =>
      refine .bind (.onBus _) fun page => .bind (.modifyCpu fun _ => ?_) fun _ => .pure _
      exact ⟨rfl, rfl, rfl, rfl⟩

theorem read (address : U64) (size : U8) : KeepsControl (Machine.read address size) :=
  .bind (.translate _ _) fun _ => .onBus _

theorem write (address : U64) (size : U8) (value : U64) :
    KeepsControl (Machine.write address size value) :=
  .bind (.translate _ _) fun _ => .onBus _

theorem load (instr : Instruction) (addr : U64) : KeepsControl (Execute.load instr addr) := by
  unfold Execute.load
  split
  all_goals first
    | exact .bind (.read _ _) fun _ => .pure _
    | exact .read _ _
    | exact .illegalInstruction _

theorem store (instr : Instruction) (addr value : U64) :
    KeepsControl (Execute.store instr addr value) := by
  unfold Execute.store
  split
  all_goals first
    | exact .write _ _ _
    | exact .illegalInstruction _

end KeepsControl

end Machine

section Returns

variable {β : Type} {Q : Machine → β → Machine → Prop}

theorem Machine.returns_readReg_bind {i : BitVec 5} {f : U64 → Call Machine β}
    (rest : ∀ v, Returns Q (f v)) : Returns Q (readReg i >>= f) :=
  fun m => rest (m.cpu.regs.read i) m

theorem Execute.returns_illegal (instr : Instruction) :
    Returns Q (illegalInstruction instr : Call Machine β) := by
  rintro m a t ⟨⟩

theorem Rvc.returns_illegal (instr : CInstruction) :
    Returns Q (illegalCInstruction instr : Call Machine β) := by
  rintro m a t ⟨⟩

end Returns

namespace Execute

variable [Host] {instr : Instruction} {next : U64}

/-- Outside SYSTEM the control state is kept. -/
theorem keepsControl_executeFrom (h : instr.opcode ≠ 0x73) :
    KeepsControl (executeFrom next instr) := by
  have hnext {x : Call Machine Unit} (hx : KeepsControl x) (a : U64) :
      KeepsControl (do x; return a) := .bind hx fun _ => .pure _
  unfold executeFrom
  refine .get_bind fun m => .bind (.readReg _) fun rs1 => .bind (.readReg _) fun rs2 => ?_
  split
  · exact .bind (.load _ _) fun _ => hnext (.writeReg _ _) _
  · exact hnext (.store _ _ _) _
  · exact hnext (.writeReg _ _) _
  · exact hnext (.writeReg _ _) _
  · exact hnext (.writeReg _ _) _
  · exact hnext (.writeReg _ _) _
  · split
    · exact .pure _
    · exact .illegalInstruction _
  · exact hnext (.writeReg _ _) _
  · split
    · exact hnext (.writeReg _ _) _
    · exact .illegalInstruction _
  · split
    · exact hnext (.writeReg _ _) _
    · exact .illegalInstruction _
  · split
    · exact hnext (.writeReg _ _) _
    · exact .illegalInstruction _
  · exact .pure _
  · next hsystem => exact absurd hsystem h
  · refine .ite ?_ (.illegalInstruction _)
    exact .bind (.read _ _) fun _ => .bind (.write _ _ _) fun _ => hnext (.writeReg _ _) _
  · exact .illegalInstruction _

/-- Where execution outside SYSTEM can continue. -/
inductive Continues (instr : Instruction) (next pc : U64) : U64 → Prop
  | sequential : Continues instr next pc next
  | jump : Continues instr next pc (pc + instr.immJ)
  | branch : Continues instr next pc (pc + instr.immB)
  | register (target : U64) : Continues instr next pc (target &&& ~~~1)

theorem continues_executeFrom (h : instr.opcode ≠ 0x73) :
    Returns (fun m pc _ => Continues instr next m.cpu.pc pc) (executeFrom next instr) := by
  have hlast {x : Call Machine Unit} {m : Machine} {a : U64}
      (hc : Continues instr next m.cpu.pc a) :
      Returns (fun _ pc _ => Continues instr next m.cpu.pc pc) (do x; return a) :=
    .bind_value fun _ => .pure fun _ => hc
  unfold executeFrom
  refine .get_bind fun m => .bind_value fun rs1 => .bind_value fun rs2 => ?_
  split
  · exact .bind_value fun _ => hlast .sequential
  · exact hlast .sequential
  · exact hlast .sequential
  · exact hlast .sequential
  · exact hlast .jump
  · exact hlast (.register _)
  · split
    · next taken _ =>
        refine .pure fun _ => ?_
        cases taken
        · exact .sequential
        · exact .branch
    · exact returns_illegal _
  · exact hlast .sequential
  · split
    · exact hlast .sequential
    · exact returns_illegal _
  · split
    · exact hlast .sequential
    · exact returns_illegal _
  · split
    · exact hlast .sequential
    · exact returns_illegal _
  · exact .pure fun _ => .sequential
  · next hsystem => exact absurd hsystem h
  · refine .ite (fun _ => ?_) fun _ => returns_illegal _
    exact .bind_value fun _ => .bind_value fun _ => hlast .sequential
  · exact returns_illegal _

/-- The four ways in which SYSTEM succeeds. -/
inductive System (instr : Instruction) (next : U64) (m t : Machine) : U64 → Prop
  | quiet (same : SameControl m.cpu t.cpu) : System instr next m t next
  | csr (access : instr.IsCsr) (old value : U64)
      (cpu : t.cpu = Trap.csrWrite { m.cpu with regs := m.cpu.regs.write instr.rd old }
        (instr.csr.setWidth 32) value) : System instr next m t next
  | ecall {pc : U64} (isEcall : instr.IsEcall)
      (trap : onCpu (Trap.raiseTrap (8 + m.cpu.mode.setWidth 64) false 0) m = .ok pc t) :
      System instr next m t pc
  | sret (isSret : instr.IsSret)
      (cpu : t.cpu = { m.cpu with
        csrs := m.cpu.csrs.insert Csr.MSTATUS (leaveS (m.cpu.csrs.get Csr.MSTATUS))
        mode := ((m.cpu.csrs.get Csr.MSTATUS &&& Trap.MSTATUS_SPP) >>> 8).setWidth 8 }) :
      System instr next m t (m.cpu.csrs.get Csr.SEPC)
  | mret (isMret : instr.IsMret)
      (cpu : t.cpu = { m.cpu with
        csrs := m.cpu.csrs.insert Csr.MSTATUS (leaveM (m.cpu.csrs.get Csr.MSTATUS))
        mode := ((m.cpu.csrs.get Csr.MSTATUS &&& Trap.MSTATUS_MPP) >>> 11).setWidth 8 }) :
      System instr next m t (m.cpu.csrs.get Csr.MEPC)

theorem executeFrom_system (h : instr.opcode = 0x73) (m : Machine) :
    executeFrom next instr m = executeSystem instr next m := by
  unfold executeFrom
  simp only [h]
  rfl

omit [Host] in
theorem csrAccess_apply (instr : Instruction) (update : U64 → U64) (m : Machine) :
    csrAccess instr update m =
      let old := Trap.csrRead m.cpu (instr.csr.setWidth 32)
      let cpu := { m.cpu with regs := m.cpu.regs.write instr.rd old }
      .ok () { m with cpu := Trap.csrWrite cpu (instr.csr.setWidth 32) (update old) } := rfl

theorem system_executeSystem (h : instr.opcode = 0x73) :
    Returns (fun m pc t => System instr next m t pc) (executeSystem instr next) := by
  have haccess {update : U64 → U64} (h0 : instr.funct3 ≠ 0) (h4 : instr.funct3 ≠ 4) :
      Returns (fun m pc t => System instr next m t pc)
        (do csrAccess instr update; return next) := by
    intro m pc t hx
    rw [bind_ok (csrAccess_apply instr update m)] at hx
    cases hx
    exact .csr ⟨h, h0, h4⟩ _ _ rfl
  unfold executeSystem
  refine returns_readReg_bind fun rs1Value => ?_
  split
  · next h3 => exact haccess (by rw [h3]; decide) (by rw [h3]; decide)
  · next h3 => exact haccess (by rw [h3]; decide) (by rw [h3]; decide)
  · next h3 => exact haccess (by rw [h3]; decide) (by rw [h3]; decide)
  · next h3 => exact haccess (by rw [h3]; decide) (by rw [h3]; decide)
  · next h3 => exact haccess (by rw [h3]; decide) (by rw [h3]; decide)
  · next h3 => exact haccess (by rw [h3]; decide) (by rw [h3]; decide)
  · next h3 =>
      split
      · next h7 h2 => exact fun m pc t hx => .ecall ⟨h, h3, h7, h2⟩ hx
      · next h7 h2 =>
          rintro m pc t ⟨⟩
          exact .sret ⟨h, h3, h7, h2⟩ rfl
      · exact .pure fun m => .quiet (.refl _)
      · rintro m pc t ⟨⟩
        exact .quiet ⟨rfl, rfl, rfl, rfl⟩
      · next h7 =>
          rintro m pc t ⟨⟩
          exact .mret ⟨h, h3, h7⟩ rfl
      · exact returns_illegal _
  · exact returns_illegal _

theorem executeFrom_mret (h : instr.IsMret) (next : U64) (m : Machine) :
    executeFrom next instr m = .ok (m.cpu.csrs.get Csr.MEPC) { m with cpu := { m.cpu with
      csrs := m.cpu.csrs.insert Csr.MSTATUS (leaveM (m.cpu.csrs.get Csr.MSTATUS))
      mode := ((m.cpu.csrs.get Csr.MSTATUS &&& Trap.MSTATUS_MPP) >>> 11).setWidth 8 } } := by
  obtain ⟨hop, h3, h7⟩ := h
  rw [executeFrom_system hop]
  unfold executeSystem
  simp only [h3, h7]
  rfl

theorem executeFrom_sret (h : instr.IsSret) (next : U64) (m : Machine) :
    executeFrom next instr m = .ok (m.cpu.csrs.get Csr.SEPC) { m with cpu := { m.cpu with
      csrs := m.cpu.csrs.insert Csr.MSTATUS (leaveS (m.cpu.csrs.get Csr.MSTATUS))
      mode := ((m.cpu.csrs.get Csr.MSTATUS &&& Trap.MSTATUS_SPP) >>> 8).setWidth 8 } } := by
  obtain ⟨hop, h3, h7, h2⟩ := h
  rw [executeFrom_system hop]
  unfold executeSystem
  simp only [h3, h7, h2]
  rfl

theorem executeFrom_ecall (h : instr.IsEcall) (next : U64) (m : Machine) :
    executeFrom next instr m =
      onCpu (Trap.raiseTrap (8 + m.cpu.mode.setWidth 64) false 0) m := by
  obtain ⟨hop, h3, h7, h2⟩ := h
  rw [executeFrom_system hop]
  unfold executeSystem
  simp only [h3, h7, h2]
  rfl

/-- A trap that is raised is one of the two entries. -/
theorem raiseTrap_ok {cause tval pc : U64} {isInterrupt : Bool} {cpu cpu' : Cpu}
    (h : Trap.raiseTrap cause isInterrupt tval cpu = .ok pc cpu') :
    pc = cpu.csrs.get Csr.STVEC &&& ~~~0b11 ∧
        cpu' = Trap.takenS cpu (Trap.causeValue cause isInterrupt) tval ∨
      pc = cpu.csrs.get Csr.MTVEC &&& ~~~0b11 ∧
        cpu' = Trap.takenM cpu (Trap.causeValue cause isInterrupt) tval := by
  unfold Trap.raiseTrap at h
  rw [get_bind_apply, run_ite] at h
  split at h
  · obtain ⟨bits, cpu₁, hshift, hrest⟩ := bind_eq_ok.mp h
    obtain rfl := (readOnly_shr _ _).state_eq hshift
    rw [pure_bind_apply] at hrest
    cases hd : decide (bits &&& 1 ≠ 0) <;> rw [hd] at hrest <;> cases hrest
    · exact .inr ⟨rfl, rfl⟩
    · exact .inl ⟨rfl, rfl⟩
  · cases h
    exact .inr ⟨rfl, rfl⟩

theorem onCpu_raiseTrap_ok {cause tval pc : U64} {isInterrupt : Bool} {m t : Machine}
    (h : onCpu (Trap.raiseTrap cause isInterrupt tval) m = .ok pc t) :
    ∃ cpu, t = { m with cpu } ∧
      Trap.raiseTrap cause isInterrupt tval m.cpu = .ok pc cpu := by
  unfold onCpu zoom at h
  split at h
  · next hr =>
      cases h
      exact ⟨_, rfl, hr⟩
  · cases h

/-- A trap that cannot be raised leaves the hart alone. -/
theorem raiseTrap_fault {cause tval : U64} {isInterrupt : Bool} {cpu cpu' : Cpu} {e : Fault}
    (h : Trap.raiseTrap cause isInterrupt tval cpu = .error e cpu') : cpu' = cpu := by
  unfold Trap.raiseTrap at h
  rw [get_bind_apply, run_ite] at h
  split at h
  · -- only the shift can fail, before anything has changed
    rw [bind_apply] at h
    split at h
    · next bits t _ =>
        rw [pure_bind_apply] at h
        cases hd : decide (bits &&& 1 ≠ 0) <;> rw [hd] at h <;> cases h
    · next e' t ht =>
        have hkeeps := readOnly_shr (Trap.delegation cpu isInterrupt) cause.toNat cpu
        rw [ht] at hkeeps
        cases h
        exact hkeeps
  · cases h

theorem onCpu_raiseTrap_fault {cause tval : U64} {isInterrupt : Bool} {m t : Machine} {e : Fault}
    (h : onCpu (Trap.raiseTrap cause isInterrupt tval) m = .error e t) : t = m := by
  unfold onCpu zoom at h
  split at h
  · cases h
  · next hx =>
      cases h
      rw [raiseTrap_fault hx]

/-- An instruction that fails leaves the control state alone. -/
theorem faults_executeSystem :
    Faults (fun (m t : Machine) => SameControl m.cpu t.cpu) (executeSystem instr next) := by
  have hillegal : Faults (fun (m t : Machine) => SameControl m.cpu t.cpu)
      (illegalInstruction instr : Call Machine U64) :=
    (KeepsControl.illegalInstruction instr).faults
  have hreg {f : U64 → Call Machine U64}
      (rest : ∀ v, Faults (fun (m t : Machine) => SameControl m.cpu t.cpu) (f v)) :
      Faults (fun (m t : Machine) => SameControl m.cpu t.cpu) (readReg instr.rs1 >>= f) :=
    fun m => rest (m.cpu.regs.read instr.rs1) m
  unfold executeSystem
  refine hreg fun rs1Value => ?_
  split
  · rintro m e t ⟨⟩
  · rintro m e t ⟨⟩
  · rintro m e t ⟨⟩
  · rintro m e t ⟨⟩
  · rintro m e t ⟨⟩
  · rintro m e t ⟨⟩
  · split
    · intro m e t h
      rw [get_bind_apply] at h
      rw [onCpu_raiseTrap_fault h]
      exact .refl _
    · rintro m e t ⟨⟩
    · rintro m e t ⟨⟩
    · rintro m e t ⟨⟩
    · rintro m e t ⟨⟩
    · exact hillegal
  · exact hillegal

theorem faults_executeFrom :
    Faults (fun (m t : Machine) => SameControl m.cpu t.cpu) (executeFrom next instr) := by
  by_cases hs : instr.opcode = 0x73
  · intro m e t h
    rw [executeFrom_system hs] at h
    exact faults_executeSystem m e t h
  · exact (keepsControl_executeFrom hs).faults

end Execute

namespace Machine

variable [Host]

theorem execute_apply (instr : Instruction) (m : Machine) :
    execute instr m = (Execute.executeFrom (m.cpu.pc + 4) instr >>= fun pc =>
      modifyCpu fun cpu => { cpu with pc }) m := by
  rw [execute, bind_apply, Execute.execute, get_bind_apply, bind_apply]

end Machine

namespace Rvc

variable {instr : CInstruction}

theorem keepsControl_nz (v : U64) :
    KeepsControl (CInstruction.nz v : Call Machine U64) := .ite (.error _) (.pure _)

theorem keepsControl_shamt : KeepsControl (instr.shamt : Call Machine U32) :=
  .ite (.error _) (.pure _)

theorem keepsControl_nzuimm9_2 : KeepsControl (instr.nzuimm9_2 : Call Machine U32) :=
  .ite (.error _) (.pure _)

variable [Host]

/-- No compressed instruction touches CSRs or the mode. -/
theorem keepsControl_execute : KeepsControl (execute instr) := by
  have hnext {x : Call Machine Unit} (hx : KeepsControl x) (a : U64) :
      KeepsControl (do x; return a) := .bind hx fun _ => .pure _
  have hwrite (i : BitVec 5) (v a : U64) : KeepsControl (do writeReg i v; return a) :=
    hnext (.writeReg _ _) _
  unfold execute
  refine .get_bind fun m => ?_
  dsimp only
  split
  · unfold executeQ0
    split
    · exact .bind keepsControl_nzuimm9_2 fun _ => .bind (.readReg _) fun _ => hwrite _ _ _
    · exact .bind (.readReg _) fun _ => .bind (.read _ _) fun _ => hwrite _ _ _
    · exact .bind (.readReg _) fun _ => .bind (.read _ _) fun _ => hwrite _ _ _
    · exact .bind (.readReg _) fun _ => .bind (.readReg _) fun _ => hnext (.write _ _ _) _
    · exact .bind (.readReg _) fun _ => .bind (.readReg _) fun _ => hnext (.write _ _ _) _
    · exact .illegalCInstruction _
  · unfold executeQ1
    split
    · exact .bind (.readReg _) fun _ => hwrite _ _ _
    · exact .ite (.illegalCInstruction _) (.bind (.readReg _) fun _ => hwrite _ _ _)
    · exact .ite (.illegalCInstruction _) (hwrite _ _ _)
    · refine .ite (.bind (keepsControl_nz _) fun _ => .bind (.readReg _) fun _ => hwrite _ _ _) ?_
      exact .ite (.illegalCInstruction _) (.bind (keepsControl_nz _) fun _ => hwrite _ _ _)
    · unfold executeQ1Alu
      split
      · exact .bind keepsControl_shamt fun _ => .bind (.readReg _) fun _ => hwrite _ _ _
      · exact .bind keepsControl_shamt fun _ => .bind (.readReg _) fun _ => hwrite _ _ _
      · exact .bind (.readReg _) fun _ => hwrite _ _ _
      · refine .bind (.readReg _) fun a => .bind (.readReg _) fun b => .ite ?_ ?_
        · dsimp only
          split <;> exact hwrite _ _ _
        · dsimp only
          split
          · exact hwrite _ _ _
          · exact hwrite _ _ _
          · exact .illegalCInstruction _
    · exact .pure _
    · exact .bind (.readReg _) fun _ => .pure _
    · exact .bind (.readReg _) fun _ => .pure _
  · unfold executeQ2
    split
    · exact .bind keepsControl_shamt fun _ => .bind (.readReg _) fun _ => hwrite _ _ _
    · refine .ite (.illegalCInstruction _) ?_
      exact .bind (.readReg _) fun _ => .bind (.read _ _) fun _ => hwrite _ _ _
    · unfold executeQ2Move
      refine .ite (.ite ?_ ?_) (.ite ?_ (.ite ?_ (.illegalCInstruction _)))
      · exact .ite (.illegalCInstruction _) (.bind (.readReg _) fun _ => hwrite _ _ _)
      · exact .ite (.illegalCInstruction _) (.readReg _)
      · refine .ite (.illegalCInstruction _) ?_
        exact .bind (.readReg _) fun _ => .bind (.readReg _) fun _ => hwrite _ _ _
      · exact .bind (.readReg _) fun _ => hwrite _ _ _
    · exact .bind (.readReg _) fun _ => .bind (.readReg _) fun _ => hnext (.write _ _ _) _
    · exact .illegalCInstruction _
  · exact .illegalCInstruction _

/-- Where execution of a compressed instruction can continue. -/
inductive Continues (instr : CInstruction) (cpu : Cpu) : U64 → Prop
  | sequential : Continues instr cpu (cpu.pc + 2)
  | jump : Continues instr cpu (cpu.pc + instr.offset11_1)
  | branch : Continues instr cpu (cpu.pc + instr.offset8_1)
  | register (isJump : instr.IsJump) : Continues instr cpu (cpu.regs.read instr.rs1)

omit [Host] in
/-- A group of instructions that continue sequentially. -/
theorem sequential {x : Call Machine Unit} {next : U64} :
    Returns (fun _ pc _ => pc = next) (do x; return next) :=
  .bind_value fun _ => .pure fun _ => rfl

theorem returns_executeQ0 (next : U64) :
    Returns (fun _ pc _ => pc = next) (executeQ0 instr next) := by
  unfold executeQ0
  split
  · exact .bind_value fun _ => .bind_value fun _ => sequential
  · exact .bind_value fun _ => .bind_value fun _ => sequential
  · exact .bind_value fun _ => .bind_value fun _ => sequential
  · exact .bind_value fun _ => .bind_value fun _ => sequential
  · exact .bind_value fun _ => .bind_value fun _ => sequential
  · exact returns_illegal _

omit [Host] in
theorem returns_executeQ1 (pc next : U64) :
    Returns (fun _ pc' _ => pc' = next ∨ pc' = pc + instr.offset11_1 ∨ pc' = pc + instr.offset8_1)
      (executeQ1 instr pc next) := by
  have hseq {x : Call Machine Unit} : Returns
      (fun _ pc' _ => pc' = next ∨ pc' = pc + instr.offset11_1 ∨ pc' = pc + instr.offset8_1)
      (do x; return next) := sequential.mono fun _ _ _ => .inl
  have hbranch {p : Prop} [Decidable p] : Returns (fun (_ : Machine) pc' _ =>
      pc' = next ∨ pc' = pc + instr.offset11_1 ∨ pc' = pc + instr.offset8_1)
      (pure (if p then pc + instr.offset8_1 else next) : Call Machine U64) := by
    refine .pure fun _ => ?_
    split
    · exact .inr (.inr rfl)
    · exact .inl rfl
  unfold executeQ1
  split
  · exact .bind_value fun _ => hseq
  · exact .ite (fun _ => returns_illegal _) fun _ => .bind_value fun _ => hseq
  · exact .ite (fun _ => returns_illegal _) fun _ => hseq
  · refine .ite (fun _ => .bind_value fun _ => .bind_value fun _ => hseq) fun _ => ?_
    exact .ite (fun _ => returns_illegal _) fun _ => .bind_value fun _ => hseq
  · unfold executeQ1Alu
    split
    · exact .bind_value fun _ => .bind_value fun _ => hseq
    · exact .bind_value fun _ => .bind_value fun _ => hseq
    · exact .bind_value fun _ => hseq
    · refine .bind_value fun a => .bind_value fun b => .ite (fun _ => ?_) fun _ => ?_
      · dsimp only
        split <;> exact hseq
      · dsimp only
        split
        · exact hseq
        · exact hseq
        · exact returns_illegal _
  · exact .pure fun _ => .inr (.inl rfl)
  · exact .bind_value fun _ => hbranch
  · exact .bind_value fun _ => hbranch

theorem returns_executeQ2 (hop : instr.op = 0b10) (pc next : U64) :
    Returns (fun m pc' _ => pc' = next ∨ instr.IsJump ∧ pc' = m.cpu.regs.read instr.rs1)
      (executeQ2 instr pc next) := by
  have hseq {x : Call Machine U64} (h : Returns (fun _ pc' _ => pc' = next) x) :
      Returns (fun m pc' _ => pc' = next ∨ instr.IsJump ∧ pc' = m.cpu.regs.read instr.rs1) x :=
    h.mono fun _ _ _ => .inl
  unfold executeQ2
  split
  · exact hseq (.bind_value fun _ => .bind_value fun _ => sequential)
  · refine .ite (fun _ => returns_illegal _) fun _ => hseq ?_
    exact .bind_value fun _ => .bind_value fun _ => sequential
  · next h3 =>
      unfold executeQ2Move
      refine .ite (fun _ => .ite (fun _ => ?_) fun h2 => ?_)
        fun _ => .ite (fun _ => ?_) fun h2 => .ite (fun h1 => ?_) fun _ => returns_illegal _
      · exact .ite (fun _ => returns_illegal _) fun _ => hseq (.bind_value fun _ => sequential)
      · refine .ite (fun _ => returns_illegal _) fun h1 => ?_
        rintro m pc' t ⟨⟩
        exact .inr ⟨⟨hop, h3, Decidable.not_not.mp h2, h1⟩, rfl⟩
      · refine .ite (fun _ => returns_illegal _) fun _ => hseq ?_
        exact .bind_value fun _ => .bind_value fun _ => sequential
      · rintro m pc' t ⟨⟩
        exact .inr ⟨⟨hop, h3, Decidable.not_not.mp h2, h1⟩, rfl⟩
  · exact hseq (.bind_value fun _ => .bind_value fun _ => sequential)
  · exact returns_illegal _

theorem continues_execute : Returns (fun m pc _ => Continues instr m.cpu pc) (execute instr) := by
  unfold execute
  refine .get_bind_eq fun m => ?_
  split
  · refine (returns_executeQ0 _).mono fun _ pc _ h _ => ?_
    rw [h]
    exact .sequential
  · refine (returns_executeQ1 _ _).mono fun _ pc _ h _ => ?_
    obtain rfl | rfl | rfl := h
    · exact .sequential
    · exact .jump
    · exact .branch
  · next hop =>
      refine (returns_executeQ2 hop _ _).mono ?_
      rintro _ pc _ h rfl
      obtain rfl | ⟨hjump, rfl⟩ := h
      · exact .sequential
      · exact .register hjump
  · exact returns_illegal _

end Rvc

end Riscvm.Rv64rs
