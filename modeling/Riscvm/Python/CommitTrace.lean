import Riscvm.Python.Bus
import Riscvm.Python.Traps

/-!
# What the commit trace says about the registers

The tracer sees the writes that go through `cpu.rd`. The actor of the uncompressed
instructions makes all its writes there, the actor of the compressed ones makes none there,
and a line is written for every instruction, also for one that trapped.
-/

namespace Riscvm.Python

open Exec

/-! ## Writes that the tracer sees -/

section Writes

variable {σ : Type}

/-- Neither the registers nor what the tracer holds have changed. -/
structure Unwritten (s t : Hart σ) : Prop where
  registers : t.cpu.registers = s.cpu.registers
  tracer : t.cpu.tracer = s.cpu.tracer

/-- Nor has the current instruction. -/
structure Quiet (s t : Hart σ) : Prop extends Unwritten s t where
  instruction : t.cpu.instruction = s.cpu.instruction

theorem Unwritten.refl (s : Hart σ) : Unwritten s s := ⟨rfl, rfl⟩

theorem Unwritten.trans {s t w : Hart σ} (h : Unwritten s t) (h' : Unwritten t w) : Unwritten s w :=
  ⟨h'.registers.trans h.registers, h'.tracer.trans h.tracer⟩

theorem Quiet.refl (s : Hart σ) : Quiet s s := ⟨.refl s, rfl⟩

theorem Quiet.trans {s t w : Hart σ} (h : Quiet s t) (h' : Quiet t w) : Quiet s w :=
  ⟨h.toUnwritten.trans h'.toUnwritten, h'.instruction.trans h.instruction⟩

/-- The registers have changed by the write that the tracer holds. -/
def Written (s t : Hart σ) : Prop :=
  ∃ instruction value, s.cpu.instruction = some instruction ∧
    t.cpu.tracer = s.cpu.tracer.map (fun _ => ⟨some (instruction.rd, value)⟩) ∧
    t.cpu.registers = Cpu.setReg s.cpu.registers instruction.rd value

/-- At most the last of the writes to `rd` has happened, and the tracer holds it. -/
structure Recorded (s t : Hart σ) : Prop where
  instruction : t.cpu.instruction = s.cpu.instruction
  write : Unwritten s t ∨ Written s t

theorem Quiet.recorded {s t : Hart σ} (h : Quiet s t) : Recorded s t :=
  ⟨h.instruction, .inl h.toUnwritten⟩

/-- Of two writes to one register the second remains. -/
theorem setReg_setReg (registers : Nat → BitVec 64) (k : Nat) (v w : Int) :
    Cpu.setReg (Cpu.setReg registers k v) k w = Cpu.setReg registers k w := by
  funext j
  unfold Cpu.setReg
  split
  next => rfl
  next => rfl

theorem Recorded.trans {s t w : Hart σ} (h : Recorded s t) (h' : Recorded t w) : Recorded s w := by
  refine ⟨h'.instruction.trans h.instruction, ?_⟩
  obtain hsame | ⟨instruction, value, hi, htracer, hregs⟩ := h'.write
  · obtain hsame' | ⟨instruction, value, hi, htracer, hregs⟩ := h.write
    · exact .inl (hsame'.trans hsame)
    · exact .inr ⟨instruction, value, hi, hsame.tracer.trans htracer, hsame.registers.trans hregs⟩
  · rw [h.instruction] at hi
    refine .inr ⟨instruction, value, hi, ?_, ?_⟩
    · obtain hsame' | ⟨_, _, -, htracer', -⟩ := h.write
      · rw [htracer, hsame'.tracer]
      · rw [htracer, htracer', Option.map_map]
        rfl
    · obtain hsame' | ⟨instruction', value', hi', -, hregs'⟩ := h.write
      · rw [hregs, hsame'.registers]
      · obtain rfl : instruction' = instruction := Option.some.inj (hi'.symm.trans hi)
        rw [hregs, hregs', setReg_setReg]

/-- A call that writes no register. -/
def KeepsQuiet {α : Type} (x : Call (Hart σ) α) : Prop := Keeps Quiet x

/-- A call that writes registers through `cpu.rd` only. -/
def KeepsRecorded {α : Type} (x : Call (Hart σ) α) : Prop := Keeps Recorded x

variable {α β : Type} {x : Call (Hart σ) α} {f : α → Call (Hart σ) β}

theorem KeepsQuiet.bind (first : KeepsQuiet x) (rest : ∀ a, KeepsQuiet (f a)) :
    KeepsQuiet (x >>= f) :=
  Keeps.bind (fun h h' => h.trans h') first rest

theorem KeepsRecorded.bind (first : KeepsRecorded x) (rest : ∀ a, KeepsRecorded (f a)) :
    KeepsRecorded (x >>= f) :=
  Keeps.bind (fun h h' => h.trans h') first rest

theorem KeepsQuiet.recorded (h : KeepsQuiet x) : KeepsRecorded x := h.mono fun _ _ => Quiet.recorded

theorem KeepsQuiet.ite {p : Prop} [Decidable p] {y : Call (Hart σ) α} (hx : KeepsQuiet x)
    (hy : KeepsQuiet y) : KeepsQuiet (if p then x else y) := Keeps.ite hx hy

theorem keepsQuiet_pure (a : α) : KeepsQuiet (pure a : Call (Hart σ) α) := Keeps.pure Quiet.refl a

theorem keepsQuiet_throw (e : Exception) : KeepsQuiet (throw e : Call (Hart σ) α) :=
  Keeps.throw Quiet.refl e

theorem keepsQuiet_getCpu : KeepsQuiet (getCpu : Call (Hart σ) Cpu) := Quiet.refl

theorem keepsQuiet_assert (p : Prop) [Decidable p] : KeepsQuiet (assert p : Call (Hart σ) Unit) :=
  .ite (keepsQuiet_pure _) (keepsQuiet_throw _)

theorem keepsQuiet_getattr {μ : Type} (member : Option μ) :
    KeepsQuiet (getattr member : Call (Hart σ) μ) := by
  unfold getattr
  cases member with
  | none => exact keepsQuiet_throw _
  | some m => exact keepsQuiet_pure _

theorem keepsQuiet_nonzero (value : Int) : KeepsQuiet (Rv64c.nonzero value : Call (Hart σ) Int) :=
  .ite (keepsQuiet_pure _) (keepsQuiet_throw _)

theorem keepsQuiet_onBoard (x : Call σ α) : KeepsQuiet (onBoard x) := by
  intro hart
  unfold onBoard zoom
  cases x hart.board with
  | ok a board => exact ⟨⟨rfl, rfl⟩, rfl⟩
  | error e board => exact ⟨⟨rfl, rfl⟩, rfl⟩

theorem keepsQuiet_setPc (value : Int) : KeepsQuiet (setPc value : Call (Hart σ) Unit) :=
  fun _ => ⟨⟨rfl, rfl⟩, rfl⟩

theorem quiet_csrWrite (addr : Nat) (value : Int) (hart : Hart σ) :
    Quiet hart { hart with cpu := csrWrite addr value hart.cpu } := by
  unfold csrWrite
  split
  next => exact .refl _
  next =>
    split
    next => exact ⟨⟨rfl, rfl⟩, rfl⟩
    next => exact ⟨⟨rfl, rfl⟩, rfl⟩

theorem keepsQuiet_deliver (cause : Nat) (isInterrupt : Bool) (tval : Int) :
    KeepsQuiet (deliver cause isInterrupt tval : Call (Hart σ) Int) := by
  intro hart
  change Quiet hart { hart with cpu := (raiseTrap hart.cpu cause isInterrupt tval).2 }
  unfold raiseTrap
  dsimp only
  split
  next => exact ⟨⟨rfl, rfl⟩, rfl⟩
  next => exact ⟨⟨rfl, rfl⟩, rfl⟩

theorem keepsRecorded_rd (value : Int) : KeepsRecorded (rd value : Call (Hart σ) Unit) := by
  intro hart
  rw [rd, getCpu_bind_apply]
  cases hi : hart.cpu.instruction with
  | none => exact (Quiet.refl hart).recorded
  | some instruction => exact ⟨rfl, .inr ⟨instruction, value, hi, rfl, rfl⟩⟩

theorem keepsRecorded_result (value next : Int) :
    KeepsRecorded (do rd value; return next : Call (Hart σ) Int) :=
  .bind (keepsRecorded_rd _) fun _ => (keepsQuiet_pure _).recorded

/-- A write to register 0 is no write. -/
theorem keepsQuiet_assign {k : Nat} (h : k = 0) (value : Int) :
    KeepsQuiet (assign k value : Call (Hart σ) Unit) := by
  intro hart
  refine ⟨⟨?_, rfl⟩, rfl⟩
  funext j
  exact if_neg fun hj => hj.2 h

/-! ## The actors -/

variable [Board σ]

theorem keepsQuiet_translate (va : Int) (access : String) :
    KeepsQuiet (translate va access : Call (Hart σ) Int) := by
  refine .bind keepsQuiet_getCpu fun cpu => .ite (keepsQuiet_pure _) (.ite (keepsQuiet_throw _) ?_)
  refine .bind (keepsQuiet_onBoard _) fun leaf => .ite (keepsQuiet_throw _) ?_
  exact .ite (keepsQuiet_throw _) (keepsQuiet_pure _)

theorem keepsQuiet_read (address size : Int) :
    KeepsQuiet (read address size : Call (Hart σ) Int) :=
  .bind (.ite (keepsQuiet_throw _) (keepsQuiet_pure _)) fun _ =>
    .bind (keepsQuiet_translate _ _) fun _ => keepsQuiet_onBoard _

theorem keepsQuiet_write (address size value : Int) :
    KeepsQuiet (write address size value : Call (Hart σ) Unit) :=
  .bind (.ite (keepsQuiet_throw _) (keepsQuiet_pure _)) fun _ =>
    .bind (keepsQuiet_translate _ _) fun _ => keepsQuiet_onBoard _

theorem keepsQuiet_store (address size value next : Int) :
    KeepsQuiet (do write address size value; return next : Call (Hart σ) Int) :=
  .bind (keepsQuiet_write _ _ _) fun _ => keepsQuiet_pure _

/-- Every branch of the actor for uncompressed instructions writes through `cpu.rd`. -/
theorem Rv64i.keepsRecorded_perform (x : Nat) (mnemonic : Mnemonic) :
    KeepsRecorded (perform x mnemonic : Call (Hart σ) Int) := by
  refine .bind keepsQuiet_getCpu.recorded fun cpu => ?_
  have hload (size : Int) (convert : Int → Int) :
      KeepsRecorded (do
        Python.rd (convert (← read (cpu.reg (rs1 x) + immI x) size))
        return (cpu.pc.toNat : Int) + 4 : Call (Hart σ) Int) :=
    .bind (keepsQuiet_read _ _).recorded fun _ => keepsRecorded_result _ _
  cases mnemonic with
  | LB | LBU | LH | LHU | LW | LWU | LD => exact hload _ _
  | SB | SH | SW | SD => exact (keepsQuiet_store _ _ _ _).recorded
  | AMOSWAP_W =>
      refine .bind (keepsQuiet_read _ _).recorded fun _ => ?_
      exact .bind (keepsQuiet_write _ _ _).recorded fun _ => keepsRecorded_result _ _
  | MRET | SRET =>
      refine KeepsQuiet.recorded (.bind ?_ fun _ => keepsQuiet_pure _)
      exact fun _ => ⟨⟨rfl, rfl⟩, rfl⟩
  | ECALL => exact (keepsQuiet_deliver _ _ _).recorded
  | CSRRS | CSRRW | CSRRC | CSRRWI | CSRRSI | CSRRCI =>
      refine .bind (keepsRecorded_rd _) fun _ => KeepsQuiet.recorded ?_
      exact .bind (quiet_csrWrite _ _) fun _ => keepsQuiet_pure _
  | BGE | BLT | BEQ | BNE | BLTU | BGEU | WFI | FENCE | FENCE_I | SFENCE_VMA =>
      exact (keepsQuiet_pure _).recorded
  | UNDEFINED | EBREAK | LR_W | SC_W | AMOADD_W | AMOXOR_W | AMOAND_W | AMOOR_W | AMOMIN_W
  | AMOMAX_W | AMOMINU_W | AMOMAXU_W | LR_D | SC_D | AMOSWAP_D | AMOADD_D | AMOXOR_D | AMOAND_D
  | AMOOR_D | AMOMIN_D | AMOMAX_D | AMOMINU_D | AMOMAXU_D => exact (keepsQuiet_throw _).recorded
  | _ => exact keepsRecorded_result _ _

/-- A compressed instruction that assigns no register but the zero register writes nothing. -/
theorem Rv64c.keepsQuiet_perform {x : Nat} {mnemonic : Mnemonic}
    (hzero : ∀ k, dest x mnemonic = some k → k = 0) :
    KeepsQuiet (perform x mnemonic : Call (Hart σ) Int) := by
  refine .bind keepsQuiet_getCpu fun cpu => ?_
  have hassign {k : Nat} (hk : dest x mnemonic = some k) (value next : Int) :
      KeepsQuiet (do assign k value; return next : Call (Hart σ) Int) :=
    .bind (keepsQuiet_assign (hzero k hk) _) fun _ => keepsQuiet_pure _
  cases mnemonic with
  | SDSP | SD | SW => exact keepsQuiet_store _ _ _ _
  | LDSP => exact .bind (keepsQuiet_assert _) fun _ => .bind (keepsQuiet_read _ _) fun _ =>
      hassign rfl _ _
  | LD | LW => exact .bind (keepsQuiet_read _ _) fun _ => hassign rfl _ _
  | BEQZ | BNEZ | J => exact keepsQuiet_pure _
  | ADDI4SPN | ADDI | SLLI => exact .bind (keepsQuiet_nonzero _) fun _ => hassign rfl _ _
  | LUI | ADDI16SP =>
      exact .bind (keepsQuiet_assert _) fun _ => .bind (keepsQuiet_nonzero _) fun _ =>
        hassign rfl _ _
  | LI | ADDIW => exact .bind (keepsQuiet_assert _) fun _ => hassign rfl _ _
  | ANDI | SUB | XOR | AND | OR | SUBW | ADDW => exact hassign rfl _ _
  | SRAI | SRLI => exact .bind (keepsQuiet_nonzero _) fun _ => hassign rfl _ _
  | ADD | JALR | MV =>
      exact .bind (keepsQuiet_assert _) fun _ => .bind (keepsQuiet_assert _) fun _ =>
        hassign rfl _ _
  | JR => exact .bind (keepsQuiet_assert _) fun _ => .bind (keepsQuiet_assert _) fun _ =>
      keepsQuiet_pure _
  | UNDEFINED => exact keepsQuiet_throw _

/-- The writes of the instruction, if it makes any, go through `cpu.rd`. -/
def Instruction.Seen (instruction : Instruction) : Prop :=
  instruction.value % 4 ≠ 3 → ∀ mnemonic, Rv64c.mnemonicOf instruction.value = some mnemonic →
    ∀ k, Rv64c.dest instruction.value mnemonic = some k → k = 0

/-- An environment call, whose actor delivers its trap and returns. -/
def Instruction.Calls (instruction : Instruction) : Prop :=
  instruction.value % 4 = 3 ∧ Rv64i.mnemonicOf instruction.value = some .ECALL

theorem act_of_calls {instruction : Instruction} (calls : instruction.Calls) {hart hart' : Hart σ}
    (run : act instruction hart = .ok () hart') :
    (deliver (8 + hart.cpu.mode) false 0 >>= setPc : Call (Hart σ) Unit) hart = .ok () hart' := by
  rw [act, if_pos calls.1] at run
  obtain ⟨m, hart₁, hmnemonic, run⟩ := bind_eq_ok.mp run
  obtain ⟨hm, rfl⟩ := Rv64i.getMnemonic_eq_ok hmnemonic
  obtain rfl := Option.some.inj (calls.2.symm.trans hm)
  exact run

theorem keepsRecorded_act {instruction : Instruction} (seen : instruction.Seen) :
    KeepsRecorded (act instruction : Call (Hart σ) Unit) := by
  unfold act
  by_cases hi : instruction.value % 4 = 3
  · rw [if_pos hi]
    refine .bind ?_ fun m => .bind (Rv64i.keepsRecorded_perform _ _) fun _ =>
      (keepsQuiet_setPc _).recorded
    exact KeepsQuiet.recorded (.bind (keepsQuiet_assert _) fun _ => keepsQuiet_getattr _)
  · rw [if_neg hi]
    refine KeepsQuiet.recorded ?_
    unfold Rv64c.actor Rv64c.getMnemonic
    cases hm : Rv64c.mnemonicOf instruction.value with
    | none => exact fun hart => Quiet.refl hart
    | some m =>
        change KeepsQuiet (Rv64c.perform instruction.value m >>= setPc)
        exact .bind (Rv64c.keepsQuiet_perform (seen hi m hm)) fun _ => keepsQuiet_setPc _

/-! ## Between the instructions -/

omit [Board σ] in
theorem keepsQuiet_refresh (mip bit : Int) (line : Option (Call σ Bool)) :
    KeepsQuiet (refresh mip bit line) := by
  cases line with
  | none => exact keepsQuiet_pure _
  | some level => exact .bind (keepsQuiet_onBoard _) fun _ => keepsQuiet_pure _

theorem keepsQuiet_checkInterrupt : KeepsQuiet (checkInterrupt : Call (Hart σ) Bool) := by
  refine .bind keepsQuiet_getCpu fun cpu => .bind (keepsQuiet_refresh _ _ _) fun _ => ?_
  refine .bind (keepsQuiet_refresh _ _ _) fun mip => .bind (fun _ => ⟨⟨rfl, rfl⟩, rfl⟩) fun _ => ?_
  refine .bind keepsQuiet_getCpu fun cpu => ?_
  dsimp only
  split
  next => exact keepsQuiet_pure _
  next cause _ =>
    refine .bind (keepsQuiet_deliver _ _ _) fun _ => ?_
    exact .bind (keepsQuiet_setPc _) fun _ => keepsQuiet_pure _

omit [Board σ] in
theorem KeepsQuiet.unwritten (h : KeepsQuiet x) : Keeps Unwritten x :=
  h.mono fun _ _ h => h.toUnwritten

theorem keepsQuiet_tick : KeepsQuiet (tick : Call (Hart σ) Unit) := by
  unfold tick
  split
  next => exact keepsQuiet_onBoard _
  next => exact keepsQuiet_pure _

theorem keepsQuiet_pollUart : KeepsQuiet (pollUart : Call (Hart σ) Unit) := by
  unfold pollUart
  split
  next =>
    refine .bind (fun _ => ⟨⟨rfl, rfl⟩, rfl⟩) fun _ => .bind keepsQuiet_getCpu fun _ => ?_
    refine .ite (.bind (keepsQuiet_onBoard _) fun _ => ?_) (keepsQuiet_pure _)
    exact fun _ => ⟨⟨rfl, rfl⟩, rfl⟩
  next => exact keepsQuiet_pure _

/-- A fetch changes the current instruction, and no register. -/
theorem unwritten_fetch : Keeps Unwritten (fetch : Call (Hart σ) Unit) := by
  have trans {s t w : Hart σ} := @Unwritten.trans σ s t w
  refine .bind trans keepsQuiet_tick.unwritten fun _ => ?_
  refine .bind trans keepsQuiet_pollUart.unwritten fun _ => ?_
  refine .bind trans keepsQuiet_checkInterrupt.unwritten fun _ => ?_
  refine .bind trans keepsQuiet_getCpu.unwritten fun cpu => ?_
  refine .bind trans (keepsQuiet_translate _ _).unwritten fun address => ?_
  exact .bind trans (keepsQuiet_onBoard _).unwritten fun data => fun _ => ⟨rfl, rfl⟩

end Writes

/-! ## Runs -/

namespace Machine

variable {σ : Type}

/-- The registers after the writes of the lines, oldest first. -/
def replay (trace : List Line) (registers : Nat → BitVec 64) : Nat → BitVec 64 :=
  trace.foldl (fun registers line =>
    match line.write with
    | some (idx, val) => Cpu.setReg registers idx val
    | none => registers) registers

/-- The registers of hart 0 are the initial ones with the writes of the trace applied, and the
lines of the trace are the instructions that retired. -/
structure Complete (registers : Nat → BitVec 64) (retired : List (Int × Nat))
    (machine : Machine σ) : Prop where
  registers : machine.cpus[0]?.map (·.registers) = some (replay machine.trace registers)
  lines : machine.trace.map (fun line => (line.pc, line.inst)) = retired

variable [Board σ]

/-- The machine with hart 0 about to execute. -/
def ready : Call (Machine σ) Unit := do
  onHart 0 fetch
  onHart 0 before

/-- The instruction retires: its actor returns, and has not delivered a trap by itself. -/
def Retires (instruction : Instruction) (hart : Hart σ) : Prop :=
  (∃ hart', act instruction hart = .ok () hart') ∧ ¬instruction.Calls

/-- A run of turns from `init`, with the instructions that hart 0 has retired; `P` holds of
hart 0 whenever it is about to execute. -/
inductive Run (P : Instruction → Hart σ → Prop) (init : Machine σ) :
    List (Int × Nat) → Machine σ → Prop
  | start : Run P init [] init
  | other {retired : List (Int × Nat)} {machine machine' : Machine σ} {k : Nat}
      (h : Run P init retired machine) (hk : k ≠ 0) (step : turn k machine = .ok () machine') :
      Run P init retired machine'
  | retire {retired : List (Int × Nat)} {machine next machine' : Machine σ} {cpu : Cpu}
      {instruction : Instruction} (h : Run P init retired machine)
      (hready : ready machine = .ok () next) (hcpu : next.cpus[0]? = some cpu)
      (hinstruction : cpu.instruction = some instruction) (meets : P instruction ⟨cpu, next.board⟩)
      (retires : Retires instruction ⟨cpu, next.board⟩) (step : turn 0 machine = .ok () machine') :
      Run P init (retired ++ [((cpu.pc.toNat : Int), instruction.value)]) machine'
  | trap {retired : List (Int × Nat)} {machine next machine' : Machine σ} {cpu : Cpu}
      {instruction : Instruction} (h : Run P init retired machine)
      (hready : ready machine = .ok () next) (hcpu : next.cpus[0]? = some cpu)
      (hinstruction : cpu.instruction = some instruction) (meets : P instruction ⟨cpu, next.board⟩)
      (traps : ¬Retires instruction ⟨cpu, next.board⟩) (step : turn 0 machine = .ok () machine') :
      Run P init retired machine'

/-- The tracer sees what the instruction writes, and the instruction neither raises a trap nor
delivers one. -/
def Traceable (instruction : Instruction) (hart : Hart σ) : Prop :=
  instruction.Seen ∧ instruction.trapOf hart.cpu = none ∧ ¬instruction.Calls

section Turns

variable {machine machine' : Machine σ}

omit [Board σ] in
theorem onHart_eq_ok {α : Type} {k : Nat} {x : Call (Hart σ) α} {a : α} :
    onHart k x machine = .ok a machine' ↔
      ∃ cpu hart, machine.cpus[k]? = some cpu ∧ x ⟨cpu, machine.board⟩ = .ok a hart ∧
        machine' = { machine with cpus := machine.cpus.set k hart.cpu, board := hart.board } := by
  unfold onHart
  constructor
  · intro h
    cases hcpu : machine.cpus[k]? with
    | none =>
        rw [hcpu] at h
        cases h
    | some cpu =>
        rw [hcpu] at h
        dsimp only at h
        cases hx : x ⟨cpu, machine.board⟩ with
        | ok a' hart =>
            rw [hx] at h
            cases h
            exact ⟨cpu, hart, rfl, hx, rfl⟩
        | error e hart =>
            rw [hx] at h
            cases h
  · rintro ⟨cpu, hart, hcpu, hx, rfl⟩
    rw [hcpu]
    dsimp only
    rw [hx]

omit [Board σ] in
/-- What a call on hart `k` leaves of the machine. -/
theorem cpus_onHart {α : Type} {k : Nat} {x : Call (Hart σ) α} {a : α}
    (h : onHart k x machine = .ok a machine') :
    machine'.trace = machine.trace ∧ ∀ j, j ≠ k → machine'.cpus[j]? = machine.cpus[j]? := by
  obtain ⟨cpu, hart, -, -, rfl⟩ := onHart_eq_ok.mp h
  exact ⟨rfl, fun j hj => List.getElem?_set_ne hj.symm⟩

omit [Board σ] in
theorem onHart_getCpu {k : Nat} {cpu : Cpu} (h : onHart k getCpu machine = .ok cpu machine') :
    machine' = machine ∧ machine.cpus[k]? = some cpu := by
  obtain ⟨cpu', hart, hcpu, hget, rfl⟩ := onHart_eq_ok.mp h
  cases hget
  refine ⟨?_, hcpu⟩
  obtain ⟨hlt, hitem⟩ := List.getElem?_eq_some_iff.mp hcpu
  dsimp only
  rw [← hitem, List.set_getElem_self]

omit [Board σ] in
/-- What a call on hart `k` leaves of that hart. -/
theorem hart_onHart {α : Type} {k : Nat} {x : Call (Hart σ) α} {a : α}
    (h : onHart k x machine = .ok a machine') :
    ∃ cpu hart, machine.cpus[k]? = some cpu ∧ x ⟨cpu, machine.board⟩ = .ok a hart ∧
      machine'.cpus[k]? = some hart.cpu ∧ machine'.board = hart.board := by
  obtain ⟨cpu, hart, hcpu, hrun, rfl⟩ := onHart_eq_ok.mp h
  obtain ⟨hlt, -⟩ := List.getElem?_eq_some_iff.mp hcpu
  exact ⟨cpu, hart, hcpu, hrun, List.getElem?_set_self hlt, rfl⟩

/-- The turns of the other harts leave hart 0 and the trace alone. -/
theorem turn_other {k : Nat} (hk : k ≠ 0) (step : turn k machine = .ok () machine') :
    machine'.trace = machine.trace ∧ machine'.cpus[0]? = machine.cpus[0]? := by
  unfold turn at step
  obtain ⟨_, m₁, hfetch, hrest⟩ := bind_eq_ok.mp step
  obtain ⟨cpu, m₂, hget, hexecute⟩ := bind_eq_ok.mp hrest
  obtain ⟨rfl, -⟩ := onHart_getCpu hget
  rw [if_neg fun h => hk h.1] at hexecute
  obtain ⟨htrace, hcpus⟩ := cpus_onHart hfetch
  obtain ⟨htrace', hcpus'⟩ := cpus_onHart hexecute
  exact ⟨htrace'.trans htrace, (hcpus' 0 hk.symm).trans (hcpus 0 hk.symm)⟩

omit [Board σ] in
/-- Without a trap `execute` is the actor. -/
theorem act_of_execute [Board σ] {instruction : Instruction} {hart hart' : Hart σ}
    (hi : hart.cpu.instruction = some instruction) (hnone : instruction.trapOf hart.cpu = none)
    (run : execute hart = .ok () hart') : act instruction hart = .ok () hart' := by
  unfold execute at run
  rw [hi] at run
  dsimp only at run
  cases hact : act instruction hart with
  | ok u hart'' =>
      rw [hact] at run
      exact run
  | error e hart'' =>
      rw [hact] at run
      cases e with
      | trap t => exact absurd (trap_act hact) (by rw [hnone]; exact nofun)
      | internal e => cases run
      | assertionError => cases run
      | indexError => cases run
      | keyError => cases run
      | attributeError => cases run

/-- A traced turn of hart 0: it fetches, executes, and the line is written. -/
theorem turn_zero {next : Machine σ} {cpu₀ cpu : Cpu} (hcpu₀ : machine.cpus[0]? = some cpu₀)
    (htracer : cpu₀.tracer.isSome) (hready : ready machine = .ok () next)
    (hcpu : next.cpus[0]? = some cpu) (step : turn 0 machine = .ok () machine') :
    cpu.registers = cpu₀.registers ∧ cpu.tracer = some ⟨none⟩ ∧ next.trace = machine.trace ∧
      ∃ hart', execute ⟨cpu, next.board⟩ = .ok () hart' ∧
        machine'.cpus[0]? = some hart'.cpu ∧
        machine'.trace = machine.trace ++
          [⟨cpu.pc.toNat, cpu.instruction.elim 0 (·.value), hart'.cpu.tracer.bind (·.write)⟩] := by
  unfold ready at hready
  unfold turn at step
  obtain ⟨_, m₁, hfetch, hbefore⟩ := bind_eq_ok.mp hready
  obtain ⟨_, m₁', hfetch', hrest⟩ := bind_eq_ok.mp step
  obtain rfl : m₁' = m₁ := by
    rw [hfetch] at hfetch'
    cases hfetch'
    rfl
  obtain ⟨cpu₁, m₂, hget, htraced⟩ := bind_eq_ok.mp hrest
  obtain ⟨rfl, hcpu₁⟩ := onHart_getCpu hget
  -- the fetch changes neither the registers nor the tracer
  obtain ⟨cpu', hart₁, hcpu', hrun, hcpu₁', hboard₁⟩ := hart_onHart hfetch
  obtain rfl : cpu' = cpu₀ := Option.some.inj (hcpu'.symm.trans hcpu₀)
  obtain rfl : hart₁.cpu = cpu₁ := Option.some.inj (hcpu₁'.symm.trans hcpu₁)
  have hunwritten := unwritten_fetch ⟨cpu', machine.board⟩
  rw [hrun, finish_ok] at hunwritten
  have hsome : hart₁.cpu.tracer.isSome := by
    rw [hunwritten.tracer]
    exact htracer
  rw [if_pos ⟨rfl, hsome⟩] at htraced
  obtain ⟨_, m₂, hbefore', hexecute⟩ := bind_eq_ok.mp htraced
  obtain rfl : m₂ = next := by
    rw [hbefore] at hbefore'
    cases hbefore'
    rfl
  obtain ⟨cpu₂, hart₂, hcpu₂, hrun₂, hcpu₂', hboard₂⟩ := hart_onHart hbefore
  obtain rfl : hart₁.cpu = cpu₂ := Option.some.inj (hcpu₁.symm.trans hcpu₂)
  obtain rfl : hart₂.cpu = cpu := Option.some.inj (hcpu₂'.symm.trans hcpu)
  cases hrun₂
  -- the line is written with what the tracer holds after the instruction
  obtain ⟨_, m₃, hexec, hline⟩ := bind_eq_ok.mp hexecute
  obtain ⟨cpu₃, hart', hcpu₃, hrun₃, hcpu₃', -⟩ := hart_onHart hexec
  obtain rfl := Option.some.inj (hcpu₂'.symm.trans hcpu₃)
  obtain ⟨cpu₄, m₄, hget', hafter⟩ := bind_eq_ok.mp hline
  obtain ⟨rfl, hcpu₄⟩ := onHart_getCpu hget'
  obtain rfl : hart'.cpu = cpu₄ := Option.some.inj (hcpu₃'.symm.trans hcpu₄)
  have htrace : m₄.trace = machine.trace :=
    (cpus_onHart hexec).1.trans ((cpus_onHart hbefore).1.trans (cpus_onHart hfetch).1)
  refine ⟨hunwritten.registers, ?_, (cpus_onHart hbefore).1.trans (cpus_onHart hfetch).1, hart',
    hrun₃, ?_, ?_⟩
  · obtain ⟨tracer, htr⟩ := Option.isSome_iff_exists.mp hsome
    change hart₁.cpu.tracer.map _ = _
    rw [htr]
    rfl
  · cases hafter
    exact hcpu₄
  · cases hafter
    change m₄.trace ++ _ = _
    rw [htrace]

end Turns

section Completeness

variable {init machine machine' : Machine σ} {retired : List (Int × Nat)}

omit [Board σ] in
theorem replay_snoc (trace : List Line) (line : Line) (registers : Nat → BitVec 64) :
    replay (trace ++ [line]) registers = replay [line] (replay trace registers) := by
  unfold replay
  rw [List.foldl_append]

/-- What a run of traceable turns keeps: the tracer stays installed, and the trace accounts for
the registers and for the instructions. -/
structure Traced (registers : Nat → BitVec 64) (retired : List (Int × Nat)) (machine : Machine σ)
    (cpu : Cpu) : Prop where
  hart : machine.cpus[0]? = some cpu
  tracer : cpu.tracer.isSome
  registers : cpu.registers = replay machine.trace registers
  lines : machine.trace.map (fun line => (line.pc, line.inst)) = retired

/-- One traced turn that retires an instruction. -/
theorem Traced.retire {registers : Nat → BitVec 64} {cpu₀ cpu : Cpu} {next : Machine σ}
    {instruction : Instruction} (traced : Traced registers retired machine cpu₀)
    (hready : ready machine = .ok () next) (hcpu : next.cpus[0]? = some cpu)
    (hinstruction : cpu.instruction = some instruction)
    (meets : Traceable instruction ⟨cpu, next.board⟩) (step : turn 0 machine = .ok () machine') :
    ∃ cpu', Traced registers (retired ++
      [((cpu.pc.toNat : Int), instruction.value)]) machine' cpu' := by
  obtain ⟨hregs, htracer, -, hart', hexecute, hcpu', htrace⟩ :=
    turn_zero traced.hart traced.tracer hready hcpu step
  have hact := act_of_execute hinstruction meets.2.1 hexecute
  have hrecorded := keepsRecorded_act meets.1 ⟨cpu, next.board⟩
  rw [hact, finish_ok] at hrecorded
  rw [hinstruction] at htrace
  refine ⟨hart'.cpu, hcpu', ?_, ?_, ?_⟩
  · obtain hsame | ⟨_, _, -, htracer', -⟩ := hrecorded.write
    · rw [hsame.tracer]
      exact htracer ▸ rfl
    · rw [htracer']
      exact htracer ▸ rfl
  · rw [htrace, replay_snoc, ← traced.registers, ← hregs]
    obtain hsame | ⟨instruction', value, -, htracer', hregs'⟩ := hrecorded.write
    · rw [hsame.registers, hsame.tracer]
      exact htracer ▸ rfl
    · rw [hregs', htracer']
      exact htracer ▸ rfl
  · rw [htrace, List.map_append, traced.lines]
    rfl

/-- In a run in which every instruction of hart 0 is seen by the tracer and no trap comes of it, the
trace accounts for the registers of hart 0 at each point, and its lines are the instructions
that have retired. -/
theorem trace_complete_of {cpu : Cpu} (hcpu : init.cpus[0]? = some cpu)
    (htracer : cpu.tracer.isSome)
    (hempty : init.trace = []) (run : Run Traceable init retired machine) :
    Complete cpu.registers retired machine := by
  have htraced : ∃ cpu', Traced cpu.registers retired machine cpu' := by
    induction run with
    | start => exact ⟨cpu, hcpu, htracer, by rw [hempty]; rfl, by rw [hempty]; rfl⟩
    | other _ hk step ih =>
        obtain ⟨cpu', traced⟩ := ih
        obtain ⟨htrace, hhart⟩ := turn_other hk step
        exact ⟨cpu', hhart.trans traced.hart, traced.tracer, htrace ▸ traced.registers,
          htrace ▸ traced.lines⟩
    | retire _ hready hcpu' hinstruction meets _ step ih =>
        obtain ⟨cpu', traced⟩ := ih
        exact traced.retire hready hcpu' hinstruction meets step
    | trap _ hready hcpu' hinstruction meets traps step ih =>
        -- an instruction that does not trap retires in a turn that returns
        obtain ⟨cpu', traced⟩ := ih
        obtain ⟨-, -, -, hart', hexecute, -⟩ :=
          turn_zero traced.hart traced.tracer hready hcpu' step
        exact absurd ⟨⟨hart', act_of_execute hinstruction meets.2.1 hexecute⟩, meets.2.2⟩ traps
  obtain ⟨cpu', traced⟩ := htraced
  refine ⟨?_, traced.lines⟩
  rw [traced.hart, Option.map_some, traced.registers]

end Completeness

section Rounds

variable {machine machine' : Machine σ}

/-- Turns of any harts, one after the other. -/
inductive Turns (machine : Machine σ) : Machine σ → Prop
  | refl : Turns machine machine
  | step {next machine' : Machine σ} {k : Nat} (h : Turns machine next)
      (step : turn k next = .ok () machine') : Turns machine machine'

theorem Turns.trans {next : Machine σ} (h : Turns machine next) (h' : Turns next machine') :
    Turns machine machine' := by
  induction h' with
  | refl => exact h
  | step _ step ih => exact ih.step step

theorem turns_forM {ks : List Nat}
    (h : (ks.forM turn : Call (Machine σ) Unit) machine = .ok () machine') :
    Turns machine machine' := by
  induction ks generalizing machine with
  | nil =>
      cases h
      exact .refl
  | cons k ks ih =>
      obtain ⟨_, next, hturn, hrest⟩ := bind_eq_ok.mp h
      exact (Turns.refl.step hturn).trans (ih hrest)

/-- `Emulator.run` goes through turns of the harts. -/
theorem turns_run {limit : Nat} (h : run limit machine = .ok () machine') :
    Turns machine machine' := by
  induction limit generalizing machine with
  | zero =>
      cases h
      exact .refl
  | succ limit ih =>
      unfold run at h
      rw [get_bind_apply] at h
      obtain ⟨_, next, hround, hrest⟩ := bind_eq_ok.mp h
      exact (turns_forM hround).trans (ih hrest)

/-- Every run is one of turns, and a turn of hart 0 either retires its instruction or not. -/
theorem Run.turns {P : Instruction → Hart σ → Prop} {retired : List (Int × Nat)}
    (run : Run P machine retired machine') : Turns machine machine' := by
  induction run with
  | start => exact .refl
  | other _ _ step ih => exact ih.step step
  | retire _ _ _ _ _ _ step ih => exact ih.step step
  | trap _ _ _ _ _ _ step ih => exact ih.step step

end Rounds

/-! ## The plain machine -/

/-- `Emulator.__init__`: the program in RAM, and 128 MiB of stack at the next page. -/
def plain (program : Ram) (address : Int) : Call Bus (Machine Bus) := do
  Bus.addDevice program (address, program.length)
  let stackBegin := (program.length + 0x1000 - 1 : Int) / 2 ^ 12 * 2 ^ 12 + address
  Bus.addDevice (List.replicate 0x8000000 0) (stackBegin, 0x8000000)
  return ⟨[{ Cpu.new 0 with pc := BitVec.ofInt 64 address }], ← get, []⟩

/-- `Tracer(emu.cpus[0], stream)`. -/
def attachTracer (machine : Machine Bus) : Machine Bus :=
  { machine with cpus := machine.cpus.modifyHead fun cpu => { cpu with tracer := some ⟨none⟩ } }

/-- The plain machine with the program at address 0, traced. -/
def traced (program : Ram) : Machine Bus :=
  match plain program 0 Bus.new with
  | .ok machine _ => machine.attachTracer
  | .error _ bus => ⟨[], bus, []⟩

/-- A call that has returned. -/
def Returned {ε σ : Type} : EStateM.Result ε σ Unit → Bool
  | .ok _ _ => true
  | .error _ _ => false

theorem eq_ok_of_returned {ε σ : Type} {r : EStateM.Result ε σ Unit} (h : Returned r) :
    r = .ok () (finish r) := by
  cases r with
  | ok u s => rfl
  | error e s => cases h

/-- What is computed of the first hart holds of it. -/
theorem first_eq {σ α : Type} {machine : Machine σ} {cpu : Cpu} {f : Cpu → α} {a : α}
    (h : machine.cpus[0]?.map f = some a) (hcpu : machine.cpus[0]? = some cpu) : f cpu = a := by
  rw [hcpu] at h
  exact Option.some.inj h

/-- `addi x1, x0, 5`. -/
def addi : Machine Bus := traced [0x93, 0x00, 0x50, 0x00]

/-- `c.li x10, 5`. -/
def li : Machine Bus := traced [0x15, 0x45, 0x00, 0x00]

/-- The trace of `addi x1, x0, 5` accounts for the write of x1. -/
theorem trace_complete_of_addi :
    Complete (fun _ => 0) [(0, 0x00500093)] (finish (turn 0 addi)) := by
  have hready : ready addi = .ok () (finish (ready addi)) := eq_ok_of_returned (by decide +kernel)
  have hstep : turn 0 addi = .ok () (finish (turn 0 addi)) := eq_ok_of_returned (by decide +kernel)
  obtain ⟨cpu, hcpu⟩ : ∃ cpu, (finish (ready addi)).cpus[0]? = some cpu :=
    Option.isSome_iff_exists.mp (by decide +kernel)
  have hinstruction : cpu.instruction = some (.rv64i 0x00500093) :=
    first_eq (by decide +kernel) hcpu
  have hpc : cpu.pc = 0 := first_eq (by decide +kernel) hcpu
  have meets : Traceable (.rv64i 0x00500093) (⟨cpu, (finish (ready addi)).board⟩ : Hart Bus) := by
    have hmnemonic : Rv64i.mnemonicOf (Instruction.rv64i 0x00500093).value = some .ADDI := by
      decide +kernel
    refine ⟨fun h => absurd rfl h, ?_, fun calls => ?_⟩
    · rw [Instruction.trapOf, if_pos (by decide), hmnemonic]
      rfl
    · exact absurd (hmnemonic.symm.trans calls.2) (by decide)
  obtain ⟨cpu₀, hcpu₀⟩ : ∃ cpu, addi.cpus[0]? = some cpu :=
    Option.isSome_iff_exists.mp (by decide +kernel)
  have htracer : cpu₀.tracer.isSome = true :=
    @first_eq _ _ addi _ (·.tracer.isSome) _ (by decide +kernel) hcpu₀
  have hregs : cpu₀.registers = fun _ => 0 :=
    @first_eq _ _ addi _ (·.registers) _ rfl hcpu₀
  obtain ⟨-, -, -, hart', hexecute, -⟩ := turn_zero hcpu₀ htracer hready hcpu hstep
  have run : Run Traceable addi [((cpu.pc.toNat : Int), 0x00500093)] (finish (turn 0 addi)) :=
    .retire .start hready hcpu hinstruction meets
      ⟨⟨hart', act_of_execute hinstruction meets.2.1 hexecute⟩, meets.2.2⟩ hstep
  have complete := trace_complete_of hcpu₀ htracer rfl run
  rw [hregs, hpc] at complete
  exact complete

/-- The trace of `c.li x10, 5` does not tell that x10 was written. -/
theorem trace_misses_compressed :
    ¬∀ (init : Machine Bus) (cpu : Cpu) (retired : List (Int × Nat)) (machine : Machine Bus),
      init.cpus[0]? = some cpu → cpu.tracer.isSome → init.trace = [] →
        Run (fun _ _ => True) init retired machine → Complete cpu.registers retired machine := by
  intro hall
  have hready : ready li = .ok () (finish (ready li)) := eq_ok_of_returned (by decide +kernel)
  have hstep : turn 0 li = .ok () (finish (turn 0 li)) := eq_ok_of_returned (by decide +kernel)
  obtain ⟨cpu, hcpu⟩ : ∃ cpu, (finish (ready li)).cpus[0]? = some cpu :=
    Option.isSome_iff_exists.mp (by decide +kernel)
  have hinstruction : cpu.instruction = some (.rv64c 0x4515) :=
    first_eq (by decide +kernel) hcpu
  obtain ⟨cpu₀, hcpu₀⟩ : ∃ cpu, li.cpus[0]? = some cpu :=
    Option.isSome_iff_exists.mp (by decide +kernel)
  have htracer : cpu₀.tracer.isSome = true :=
    @first_eq _ _ li _ (·.tracer.isSome) _ (by decide +kernel) hcpu₀
  have hregs : cpu₀.registers = fun _ => 0 :=
    @first_eq _ _ li _ (·.registers) _ rfl hcpu₀
  have hcomplete : ∃ retired, Complete (fun _ => 0) retired (finish (turn 0 li)) := by
    rw [← hregs]
    by_cases hretires : Retires (.rv64c 0x4515) (⟨cpu, (finish (ready li)).board⟩ : Hart Bus)
    · exact ⟨_, hall li cpu₀ _ _ hcpu₀ htracer rfl
        (.retire .start hready hcpu hinstruction trivial hretires hstep)⟩
    · exact ⟨_, hall li cpu₀ _ _ hcpu₀ htracer rfl
        (.trap .start hready hcpu hinstruction trivial hretires hstep)⟩
  obtain ⟨_, complete⟩ := hcomplete
  have hwritten : (finish (turn 0 li)).cpus[0]?.map (fun cpu => cpu.registers 10) = some 5 := by
    decide +kernel
  have hunseen : replay (finish (turn 0 li)).trace (fun _ => 0) 10 = 0 := by
    decide +kernel
  have hregisters := congrArg (Option.map (· 10)) complete.registers
  rw [Option.map_map, Option.map_some, hunseen] at hregisters
  exact absurd (hwritten.symm.trans hregisters) (by decide)

end Machine

end Riscvm.Python
