import Riscvm.Rv64rs.Delivery
import Riscvm.Rv64rs.Isolation
import Riscvm.Rv64rs.Sv39

/-!
# The core does not panic

On a machine that `new_smp` returned, a step that does not store to the notify register of the
block device ends in `Ok` or `Err`. What carries this through a run: the bus keeps its shape,
every hart has a timer of its own, its mode has two bits, and the countdown to the next poll
stays within the poll interval.
-/

namespace Riscvm.Rv64rs

open Exec Machine

/-- What a hart needs on a bus with `harts` timers. -/
structure Sane (harts : Nat) (cpu : Cpu) : Prop where
  mode : cpu.mode.toNat < 4
  timer : cpu.hartid.toNat < harts
  countdown : cpu.uartPollCountdown.toNat ≤ 4096

namespace Sane

variable {harts : Nat} {cpu cpu' : Cpu}

theorem of_same (h : Sane harts cpu) (mode : cpu'.mode = cpu.mode)
    (hartid : cpu'.hartid = cpu.hartid)
    (countdown : cpu'.uartPollCountdown = cpu.uartPollCountdown) : Sane harts cpu' :=
  ⟨by rw [mode]; exact h.mode, by rw [hartid]; exact h.timer, by rw [countdown]; exact h.countdown⟩

theorem csrWrite (h : Sane harts cpu) (addr : U32) (value : U64) :
    Sane harts (Trap.csrWrite cpu addr value) := by
  unfold Trap.csrWrite
  by_cases hid : addr = Csr.MHARTID
  · rw [if_pos hid]
    exact h
  · rw [if_neg hid]
    exact h.of_same rfl rfl rfl

end Sane

namespace Machine

/-- The hart and the bus are as a step needs them. -/
structure Ready (harts : Nat) (m : Machine) : Prop where
  booted : m.bus.Booted
  timers : m.bus.dev.clint.mtimecmp.length = harts
  hart : Sane harts m.cpu

variable {harts : Nat}

theorem Ready.attached {m : Machine} (ready : Ready harts m) : Trap.Attached m := by
  have hfits := ready.booted.timers
  have htimer := ready.hart.timer
  unfold Clint.Fits at hfits
  rw [ready.timers] at hfits
  refine ⟨fun _ => ?_, fun _ => by omega, fun _ => Bus.registered_xv6 ready.booted.lines⟩
  rwa [ready.timers]

/-- A run of `x` from a machine that is ready ends in a value or an `Err`, and the machine is
ready again. -/
abbrev Calm (harts : Nat) {α : Type} (x : Call Machine α) : Prop := Safe (Ready harts) IsErr x

abbrev CalmAt (harts : Nat) {α : Type} (x : Call Machine α) (m : Machine) : Prop :=
  SafeAt (Ready harts) IsErr x m

namespace Calm

variable {α β : Type}

theorem error (e : EmuError) : Calm harts (error e : Call Machine α) := .throw ⟨e, rfl⟩

theorem of_not_panics {σ α : Type} {x : Call σ α} {s : σ} (h : ¬Panics (x s)) (e : Fault) (t : σ)
    (hx : x s = .error e t) : IsErr e := by
  cases e with
  | err e => exact ⟨e, rfl⟩
  | panic cause => exact absurd ⟨cause, t, hx⟩ h

/-- A call of the bus that does not panic there and keeps the shape. -/
theorem onBusAt {x : Call Bus α} {m : Machine} (ready : Ready harts m) (h : ¬Panics (x m.bus))
    (shape : Bus.KeepsShape x) : CalmAt harts (onBus x) m := by
  have hshape := shape m.bus
  refine ⟨fun e t hx => ?_, ?_⟩
  · unfold onBus zoom at hx
    cases hr : x m.bus with
    | ok a bus =>
        rw [hr] at hx
        cases hx
    | error e' bus =>
        rw [hr] at hx
        cases hx
        exact of_not_panics h e bus hr
  · rw [onBus, finish_zoom]
    exact ⟨hshape.booted ready.booted, hshape.timers.trans ready.timers, ready.hart⟩

theorem onBus {x : Call Bus α} (h : ∀ bus : Bus, bus.Served → ¬Panics (x bus))
    (shape : Bus.KeepsShape x) : Calm harts (onBus x) :=
  fun m ready => onBusAt ready (h m.bus ready.booted.served) shape

theorem modifyCpu {g : Cpu → Cpu} (h : ∀ cpu, Sane harts cpu → Sane harts (g cpu)) :
    Calm harts (modifyCpu g) :=
  fun m ready => .ok (modifyCpu_apply g m) ⟨ready.booted, ready.timers, h m.cpu ready.hart⟩

theorem readReg (i : BitVec 5) : Calm harts (readReg i) :=
  fun m ready => .ok (readReg_apply i m) ready

theorem writeReg (i : BitVec 5) (v : U64) : Calm harts (writeReg i v) :=
  modifyCpu fun _ h => h.of_same rfl rfl rfl

theorem illegalInstruction (instr : Instruction) :
    Calm harts (Execute.illegalInstruction instr : Call Machine α) :=
  .get_bind fun _ => error _

theorem illegalCInstruction (instr : CInstruction) :
    Calm harts (Rvc.illegalCInstruction instr : Call Machine α) :=
  .get_bind fun _ => error _

/-- Commit a result and go on. -/
theorem commit {x : Call Machine Unit} (h : Calm harts x) (a : α) : Calm harts (do x; return a) :=
  h.bind fun _ => .pure a

variable [Host]

theorem translate (va : U64) (access : Access) : Calm harts (Mmu.translate va access) := by
  refine .get_bind fun m => .ite (.pure _) (.ite (error _) (.get_bind fun m => ?_))
  cases m.cpu.tlb.lookup (va >>> 12) with
  | some page => exact .ite (error _) (.pure _)
  | none =>
      refine .bind (onBus (fun bus served => Mmu.not_panics_walk served _ va access)
        (.readOnly (Mmu.readOnly_walk _ _ _))) fun page => ?_
      exact .bind (modifyCpu fun _ h => h.of_same rfl rfl rfl) fun _ => .pure _

theorem read (address : U64) {size : U8} (pos : size ≠ 0) :
    Calm harts (Machine.read address size) :=
  (translate address .R).bind fun _ =>
    onBus (fun _ served => Bus.not_panics_read served pos) (Bus.keepsShape_readAt false _ size)

/-- Only a word store that reaches the notify register is not calm. -/
theorem writeAt {address : U64} {size : U8} (pos : size ≠ 0) (value : U64) {m : Machine}
    (ready : Ready harts m) (quiet : ∀ pa t, size = 4 → Mmu.translate address .W m = .ok pa t →
      ¬t.bus.Notifies pa) : CalmAt harts (Machine.write address size value) m := by
  refine (translate address .W m ready).bind fun pa t htranslate readyt => ?_
  refine onBusAt readyt ?_ (Bus.keepsShape_write pa size value)
  exact Bus.not_panics_write readyt.booted.served pos
    (fun h => quiet pa t h.1 htranslate h.2) value

end Calm

section Notify

variable [Host]

/-- In `m` the instruction stores a word at `va`, and `t` is the machine when it does. -/
inductive WritesWord : DecodedInstruction → Machine → U64 → Machine → Prop
  | store {instr : Instruction} {m : Machine} (opcode : instr.opcode = 0x23)
      (funct3 : instr.funct3 = 0x2) :
      WritesWord (.full instr) m (m.cpu.regs.read instr.rs1 + instr.immS) m
  | swap {instr : Instruction} {m t : Machine} {old : U64} (opcode : instr.opcode = 0x2f)
      (variant : instr.funct3 = 0x2 ∧ instr.funct7 >>> 2 = 0b00001)
      (loaded : Machine.read (m.cpu.regs.read instr.rs1) 4 m = .ok old t) :
      WritesWord (.full instr) m (m.cpu.regs.read instr.rs1) t
  | compressed {instr : CInstruction} {m : Machine} (op : instr.op = 0b00)
      (funct3 : instr.funct3 = 0b110) :
      WritesWord (.compressed instr) m
        (m.cpu.regs.read instr.rs1Prime + instr.offset6_2.setWidth 64) m

/-- The instruction stores to the register that runs the queue of the block device. -/
def StoresNotify (instr : DecodedInstruction) (m : Machine) : Prop :=
  ∃ va t pa u, WritesWord instr m va t ∧ Mmu.translate va .W t = .ok pa u ∧ u.bus.Notifies pa

/-- The step executes such a store. -/
def StepNotifies (m : Machine) : Prop := ∃ instr t, fetch m = .ok instr t ∧ StoresNotify instr t

theorem quiet_of_writesWord {instr : DecodedInstruction} {m t : Machine} {va : U64}
    (quiet : ¬StoresNotify instr m) (writes : WritesWord instr m va t) (pa : U64) (u : Machine)
    (h : Mmu.translate va .W t = .ok pa u) : ¬u.bus.Notifies pa :=
  fun notifies => quiet ⟨va, t, pa, u, writes, h, notifies⟩

end Notify

namespace Calm

variable [Host]

theorem load (instr : Instruction) (addr : U64) : Calm harts (Execute.load instr addr) := by
  unfold Execute.load
  split
  all_goals first
    | exact .bind (read _ (by decide)) fun _ => .pure _
    | exact read _ (by decide)
    | exact illegalInstruction _

omit [Host] in
theorem csrAccess (instr : Instruction) (update : U64 → U64) :
    Calm harts (Execute.csrAccess instr update) := by
  refine .get_bind fun m => .bind (writeReg _ _) fun _ => ?_
  exact modifyCpu fun _ h => h.csrWrite _ _

omit [Host] in
/-- The cause of an ECALL can be shifted by. -/
theorem ecall_lt {mode : U8} (h : mode.toNat < 4) : ((8 : U64) + mode.setWidth 64).toNat < 64 := by
  bv_omega

theorem raiseTrap {cause : U64} (isInterrupt : Bool) (tval : U64) {m : Machine}
    (ready : Ready harts m) (h : cause.toNat < 64) :
    CalmAt harts (onCpu (Trap.raiseTrap cause isInterrupt tval)) m := by
  have htrap := Trap.raiseTrap_apply m.cpu h isInterrupt tval
  by_cases hd : Trap.Delegated m.cpu cause isInterrupt
  · rw [if_pos hd] at htrap
    refine .ok (onCpu_ok htrap) ⟨ready.booted, ready.timers, ?_⟩
    exact ⟨(by decide : PRIV_S.toNat < 4), ready.hart.timer, ready.hart.countdown⟩
  · rw [if_neg hd] at htrap
    refine .ok (onCpu_ok htrap) ⟨ready.booted, ready.timers, ?_⟩
    exact ⟨(by decide : PRIV_M.toNat < 4), ready.hart.timer, ready.hart.countdown⟩

omit [Host] in
/-- A field of two bits is less than four. -/
theorem field_lt {mask : U64} {k : Nat} (h : mask.toNat >>> k < 4) (mstatus : U64) :
    (((mstatus &&& mask) >>> k).setWidth 8 : U8).toNat < 4 := by
  rw [BitVec.toNat_setWidth, BitVec.toNat_ushiftRight, BitVec.toNat_and]
  have hle : (mstatus.toNat &&& mask.toNat) >>> k ≤ mask.toNat >>> k := by
    rw [Nat.shiftRight_eq_div_pow, Nat.shiftRight_eq_div_pow]
    exact Nat.div_le_div_right Nat.and_le_right
  exact Nat.lt_of_le_of_lt (Nat.mod_le _ _) (Nat.lt_of_le_of_lt hle h)

theorem executeSystem (instr : Instruction) (next : U64) :
    Calm harts (Execute.executeSystem instr next) := by
  unfold Execute.executeSystem
  refine .bind (readReg _) fun rs1Value => ?_
  split
  · exact commit (csrAccess _ _) _
  · exact commit (csrAccess _ _) _
  · exact commit (csrAccess _ _) _
  · exact commit (csrAccess _ _) _
  · exact commit (csrAccess _ _) _
  · exact commit (csrAccess _ _) _
  · split
    · -- ECALL
      exact fun m ready => (raiseTrap false 0 ready (ecall_lt ready.hart.mode)).get_bind
    · -- SRET
      refine .get_bind fun m => .bind (modifyCpu fun cpu h => ?_) fun _ =>
        .get_bind fun _ => .pure _
      exact ⟨field_lt (by decide) _, h.timer, h.countdown⟩
    · exact .pure _
    · -- SFENCE.VMA
      refine .bind (modifyCpu fun cpu h => ?_) fun _ => .pure _
      exact h.of_same rfl rfl rfl
    · -- MRET
      refine .get_bind fun m => .bind (modifyCpu fun cpu h => ?_) fun _ =>
        .get_bind fun _ => .pure _
      exact ⟨field_lt (by decide) _, h.timer, h.countdown⟩
    · exact illegalInstruction _
  · exact illegalInstruction _

theorem storeAt {instr : Instruction} {addr : U64} (value : U64) {m : Machine}
    (ready : Ready harts m) (quiet : ∀ pa t, instr.funct3 = 0x2 →
      Mmu.translate addr .W m = .ok pa t → ¬t.bus.Notifies pa) :
    CalmAt harts (Execute.store instr addr value) m := by
  unfold Execute.store
  split
  · exact writeAt (by decide) _ ready fun _ _ h => absurd h (by decide)
  · exact writeAt (by decide) _ ready fun _ _ h => absurd h (by decide)
  · next h3 => exact writeAt (by decide) _ ready fun pa t _ => quiet pa t h3
  · exact writeAt (by decide) _ ready fun _ _ h => absurd h (by decide)
  · exact illegalInstruction _ m ready

theorem executeFrom {instr : Instruction} (next : U64) {m : Machine} (ready : Ready harts m)
    (quiet : ¬StoresNotify (.full instr) m) : CalmAt harts (Execute.executeFrom next instr) m := by
  unfold Execute.executeFrom
  refine .get_bind (.bind (readReg _ m ready) ?_)
  rintro _ _ ⟨⟩ -
  refine .bind (readReg _ m ready) ?_
  rintro _ _ ⟨⟩ -
  split
  · exact ((load _ _).bind fun _ => commit (writeReg _ _) _) m ready
  · next hstore =>
      refine .bind (storeAt _ ready fun pa t h3 => ?_) fun _ t _ ht => Safe.pure _ t ht
      exact quiet_of_writesWord quiet (.store hstore h3) pa t
  · exact commit (writeReg _ _) _ m ready
  · exact commit (writeReg _ _) _ m ready
  · exact commit (writeReg _ _) _ m ready
  · exact commit (writeReg _ _) _ m ready
  · split
    · exact Safe.pure _ m ready
    · exact illegalInstruction _ m ready
  · exact commit (writeReg _ _) _ m ready
  · split
    · exact commit (writeReg _ _) _ m ready
    · exact illegalInstruction _ m ready
  · split
    · exact commit (writeReg _ _) _ m ready
    · exact illegalInstruction _ m ready
  · split
    · exact commit (writeReg _ _) _ m ready
    · exact illegalInstruction _ m ready
  · exact Safe.pure _ m ready
  · exact executeSystem _ _ m ready
  · next hswap =>
      by_cases hvariant : instr.funct3 = 0x2 ∧ instr.funct7 >>> 2 = 0b00001
      · rw [if_pos hvariant]
        refine .bind (read _ (by decide) m ready) fun old t hread ht => ?_
        refine .bind (writeAt (by decide) _ ht fun pa u _ => ?_) fun _ u _ hu => ?_
        · exact quiet_of_writesWord quiet (.swap hswap hvariant hread) pa u
        · exact commit (writeReg _ _) _ u hu
      · rw [if_neg hvariant]
        exact illegalInstruction _ m ready
  · exact illegalInstruction _ m ready

section Compressed

variable {instr : CInstruction}

omit [Host] in
theorem nz (v : U64) : Calm harts (CInstruction.nz v : Call Machine U64) := .ite (error _) (.pure _)

omit [Host] in
theorem shamt : Calm harts (instr.shamt : Call Machine U32) := .ite (error _) (.pure _)

omit [Host] in
theorem nzuimm9_2 : Calm harts (instr.nzuimm9_2 : Call Machine U32) := .ite (error _) (.pure _)

theorem executeQ0 (next : U64) {m : Machine} (ready : Ready harts m)
    (quiet : ∀ pa t, instr.funct3 = 0b110 →
      Mmu.translate (m.cpu.regs.read instr.rs1Prime + instr.offset6_2.setWidth 64) .W m = .ok pa t →
        ¬t.bus.Notifies pa) : CalmAt harts (Rvc.executeQ0 instr next) m := by
  unfold Rvc.executeQ0
  split
  · exact (nzuimm9_2.bind fun _ => .bind (readReg _) fun _ => commit (writeReg _ _) _) m ready
  · exact (Safe.bind (readReg _) fun _ => .bind (read _ (by decide)) fun _ =>
      commit (writeReg _ _) _) m ready
  · exact (Safe.bind (readReg _) fun _ => .bind (read _ (by decide)) fun _ =>
      commit (writeReg _ _) _) m ready
  · next h3 =>
      refine .bind (readReg _ m ready) ?_
      rintro _ _ ⟨⟩ -
      refine .bind (readReg _ m ready) ?_
      rintro _ _ ⟨⟩ -
      refine .bind (writeAt (by decide) _ ready fun pa t _ => quiet pa t h3) fun _ t _ ht => ?_
      exact Safe.pure _ t ht
  · refine .bind (readReg _ m ready) ?_
    rintro _ _ ⟨⟩ -
    refine .bind (readReg _ m ready) ?_
    rintro _ _ ⟨⟩ -
    refine .bind (writeAt (by decide) _ ready fun _ _ h => absurd h (by decide)) fun _ t _ ht => ?_
    exact Safe.pure _ t ht
  · exact illegalCInstruction _ m ready

omit [Host] in
theorem executeQ1Alu (next : U64) : Calm harts (Rvc.executeQ1Alu instr next) := by
  unfold Rvc.executeQ1Alu
  split
  · exact shamt.bind fun _ => .bind (readReg _) fun _ => commit (writeReg _ _) _
  · exact shamt.bind fun _ => .bind (readReg _) fun _ => commit (writeReg _ _) _
  · exact .bind (readReg _) fun _ => commit (writeReg _ _) _
  · refine .bind (readReg _) fun a => .bind (readReg _) fun b => .ite ?_ ?_
    · split
      all_goals exact commit (writeReg _ _) _
    · dsimp only
      split
      · exact commit (writeReg _ _) _
      · exact commit (writeReg _ _) _
      · exact illegalCInstruction _

omit [Host] in
theorem executeQ1 (pc next : U64) : Calm harts (Rvc.executeQ1 instr pc next) := by
  unfold Rvc.executeQ1
  split
  · exact .bind (readReg _) fun _ => commit (writeReg _ _) _
  · refine .ite (illegalCInstruction _) (.bind (readReg _) fun _ => ?_)
    exact commit (writeReg _ _) _
  · exact .ite (illegalCInstruction _) (commit (writeReg _ _) _)
  · refine .ite ?_ (.ite (illegalCInstruction _) ?_)
    · exact (nz _).bind fun _ => .bind (readReg _) fun _ => commit (writeReg _ _) _
    · exact (nz _).bind fun _ => commit (writeReg _ _) _
  · exact executeQ1Alu _
  · exact .pure _
  · exact .bind (readReg _) fun _ => .pure _
  · exact .bind (readReg _) fun _ => .pure _

omit [Host] in
theorem executeQ2Move (pc next : U64) : Calm harts (Rvc.executeQ2Move instr pc next) := by
  unfold Rvc.executeQ2Move
  refine .ite (.ite (.ite (illegalCInstruction _) ?_) (.ite (illegalCInstruction _) (readReg _)))
    (.ite (.ite (illegalCInstruction _) ?_) (.ite ?_ (illegalCInstruction _)))
  · exact .bind (readReg _) fun _ => commit (writeReg _ _) _
  · exact .bind (readReg _) fun _ => .bind (readReg _) fun _ => commit (writeReg _ _) _
  · exact .bind (readReg _) fun _ => commit (writeReg _ _) _

theorem executeQ2 (pc next : U64) : Calm harts (Rvc.executeQ2 instr pc next) := by
  unfold Rvc.executeQ2
  split
  · exact shamt.bind fun _ => .bind (readReg _) fun _ => commit (writeReg _ _) _
  · refine .ite (illegalCInstruction _) (.bind (readReg _) fun _ => ?_)
    exact .bind (read _ (by decide)) fun _ => commit (writeReg _ _) _
  · exact executeQ2Move _ _
  · intro m ready
    refine .bind (readReg _ m ready) ?_
    rintro _ _ ⟨⟩ -
    refine .bind (readReg _ m ready) ?_
    rintro _ _ ⟨⟩ -
    refine .bind (writeAt (by decide) _ ready fun _ _ h => absurd h (by decide)) fun _ t _ ht => ?_
    exact Safe.pure _ t ht
  · exact illegalCInstruction _

theorem executeRvc {m : Machine} (ready : Ready harts m)
    (quiet : ¬StoresNotify (.compressed instr) m) : CalmAt harts (Rvc.execute instr) m := by
  unfold Rvc.execute
  refine .get_bind ?_
  dsimp only
  split
  · next hop =>
      refine executeQ0 _ ready fun pa t h3 => ?_
      exact quiet_of_writesWord quiet (.compressed hop h3) pa t
  · exact executeQ1 _ _ m ready
  · exact executeQ2 _ _ m ready
  · exact illegalCInstruction _ m ready

end Compressed

theorem executeDecoded {instr : DecodedInstruction} {m : Machine} (ready : Ready harts m)
    (quiet : ¬StoresNotify instr m) : CalmAt harts (Machine.executeDecoded instr) m := by
  have hcommit (pc : U64) : Calm harts (Machine.modifyCpu fun cpu => { cpu with pc }) :=
    modifyCpu fun _ h => h.of_same rfl rfl rfl
  cases instr with
  | full instr =>
      refine .bind ?_ fun pc t _ ht => hcommit pc t ht
      exact (executeFrom _ ready quiet).get_bind
  | compressed instr => exact .bind (executeRvc ready quiet) fun pc t _ ht => hcommit pc t ht

omit [Host] in
theorem tickClint : Calm harts tickClint := by
  intro m ready
  refine .ok (tickClint_apply m) ?_
  unfold ticked
  split
  · refine ⟨Bus.SameShape.booted ?_ ready.booted, ready.timers, ready.hart⟩
    exact ⟨fun w => by cases w <;> rfl, rfl, rfl, rfl, rfl, fun w => by cases w <;> rfl, rfl, rfl⟩
  · exact ready

omit [Host] in
/-- The countdown is set back when it reaches zero. -/
theorem pollUart : Calm harts pollUart := by
  intro m ready
  have hcount := ready.hart.countdown
  refine .ok (pollUart_apply m) ?_
  unfold polled
  split
  · split
    · refine ⟨Bus.SameShape.booted ?_ ready.booted, ready.timers, ready.hart.mode, ready.hart.timer,
        Nat.le_refl _⟩
      exact ⟨fun w => by cases w <;> rfl, rfl, rfl, rfl, rfl, fun w => by cases w <;> rfl, rfl, rfl⟩
    · next hdue =>
        refine ⟨ready.booted, ready.timers, ready.hart.mode, ready.hart.timer, ?_⟩
        have hne : m.cpu.uartPollCountdown ≠ 0 := by
          intro hzero
          rw [hzero] at hdue
          exact hdue (by decide)
        change (m.cpu.uartPollCountdown - 1).toNat ≤ 4096
        bv_omega
  · exact ready

theorem checkInterrupt : Calm harts Trap.checkInterrupt := by
  intro m ready
  obtain ⟨mip, hsample, -⟩ := Trap.sampleMip_lines ready.attached
  have hcheck := Trap.checkInterrupt_apply hsample
  split at hcheck
  · refine .ok hcheck ⟨ready.booted, ready.timers, ?_⟩
    unfold Trap.interrupted
    split
    · exact ⟨(by decide : PRIV_S.toNat < 4), ready.hart.timer, ready.hart.countdown⟩
    · exact ⟨(by decide : PRIV_M.toNat < 4), ready.hart.timer, ready.hart.countdown⟩
  · exact .ok hcheck ⟨ready.booted, ready.timers, ready.hart.of_same rfl rfl rfl⟩

theorem fetchWord : Calm harts fetchWord := by
  refine .get_bind fun m => .bind (translate _ _) fun pa => ?_
  refine .bind (onBus (fun _ served => Bus.not_panics_read served (by decide))
    (Bus.keepsShape_readAt false _ _)) fun word => ?_
  exact .ite (.pure _) (.pure _)

theorem fetch : Calm harts fetch :=
  .bind tickClint fun _ => .bind pollUart fun _ => .bind checkInterrupt fun _ => fetchWord

/-- A step that does not store to the notify register is calm. -/
theorem step {m : Machine} (ready : Ready harts m) (quiet : ¬StepNotifies m) :
    CalmAt harts step m := by
  rw [step_eq]
  refine .bind (fetch m ready) fun instr t hfetch ht => ?_
  exact executeDecoded ht fun notifies => quiet ⟨instr, t, hfetch, notifies⟩

end Calm

end Machine

/-- The operators that the definitions compute without a check stay within the types of the
source: the products of MULH, MULHSU and MULHU, the shift amounts of the compressed shifts and
the selectors of the matches that end in an arm for the impossible. -/
structure OperandsFit : Prop where
  mulh : ∀ a b : U64, -2 ^ 127 ≤ a.toInt * b.toInt ∧ a.toInt * b.toInt < 2 ^ 127
  mulhsu : ∀ a b : U64, -2 ^ 127 ≤ a.toInt * b.toNat ∧ a.toInt * b.toNat < 2 ^ 127
  mulhu : ∀ a b : U64, a.toNat * b.toNat < 2 ^ 128
  shamt : ∀ instr : CInstruction, instr.uimm5_0.toNat < 64
  selector : ∀ instr : CInstruction, (instr.funct6 &&& 0b11).toNat < 4 ∧ instr.funct2.toNat < 4

theorem bits_lt (x : U16) {pos nbits : Nat} (h : nbits ≤ 16) :
    (bits x pos nbits).toNat < 2 ^ nbits := by
  have hle : 2 ^ nbits ≤ 2 ^ 16 := Nat.pow_le_pow_right (by decide) h
  rw [bits_eq x (by omega), BitVec.toNat_setWidth]
  exact Nat.lt_of_le_of_lt (Nat.mod_le _ _) (BitVec.isLt _)

/-- A product of factors of at most 63 and 64 bits has 127 bits. -/
theorem product_fits {a b : Int} (ha : a.natAbs ≤ 2 ^ 63) (hb : b.natAbs < 2 ^ 64) :
    -2 ^ 127 ≤ a * b ∧ a * b < 2 ^ 127 := by
  have hproduct : (a * b).natAbs < 2 ^ 127 := by
    rw [Int.natAbs_mul]
    calc a.natAbs * b.natAbs ≤ 2 ^ 63 * b.natAbs := Nat.mul_le_mul_right _ ha
      _ < 2 ^ 63 * 2 ^ 64 := Nat.mul_lt_mul_of_pos_left hb (by decide)
      _ = 2 ^ 127 := by decide
  omega

theorem operands_fit : OperandsFit where
  mulh a b := product_fits (Bits.natAbs_toInt_le a)
    (Nat.lt_of_le_of_lt (Bits.natAbs_toInt_le b) (by decide))
  mulhsu a b := product_fits (Bits.natAbs_toInt_le a) (by
    rw [Int.natAbs_natCast]
    exact b.isLt)
  mulhu a b :=
    calc a.toNat * b.toNat ≤ 2 ^ 64 * b.toNat := Nat.mul_le_mul_right _ (Nat.le_of_lt a.isLt)
      _ < 2 ^ 64 * 2 ^ 64 := Nat.mul_lt_mul_of_pos_left b.isLt (by decide)
      _ = 2 ^ 128 := by decide
  shamt instr := by
    have hhigh : (bits instr.value 12 1).toNat < 2 ^ 1 := bits_lt _ (by decide)
    have hlow : (bits instr.value 2 5).toNat < 2 ^ 5 := bits_lt _ (by decide)
    unfold CInstruction.uimm5_0
    rw [BitVec.toNat_or, BitVec.toNat_shiftLeft]
    refine Nat.or_lt_two_pow (n := 6) ?_ (by omega)
    rw [Nat.shiftLeft_eq]
    omega
  selector instr := by
    refine ⟨?_, bits_lt instr.value (by decide)⟩
    rw [BitVec.toNat_and]
    exact Nat.lt_of_le_of_lt Nat.and_le_right (by decide)

namespace Xv6Emulator

/-- The bus and all harts are as a step needs them. -/
structure Running (emu : Xv6Emulator) : Prop where
  booted : emu.bus.Booted
  harts : ∀ cpu ∈ emu.cpus, Sane emu.bus.dev.clint.mtimecmp.length cpu

theorem Running.ready {emu : Xv6Emulator} (running : emu.Running) {i : Nat} {cpu : Cpu}
    (h : emu.cpus[i]? = some cpu) :
    Ready emu.bus.dev.clint.mtimecmp.length ⟨cpu, emu.bus⟩ :=
  ⟨running.booted, rfl, running.harts cpu (List.mem_of_getElem? h)⟩

section Run

variable [Host]

/-- One turn of a hart keeps the machine running. -/
theorem Running.stepHart {emu : Xv6Emulator} (running : emu.Running) {i : Nat}
    (quiet : ¬OnHart StepNotifies emu i) : (emu.stepHart i).Running := by
  unfold Xv6Emulator.stepHart
  cases hcpu : emu.cpus[i]? with
  | none => exact running
  | some cpu =>
      have hends := (Calm.step (running.ready hcpu) fun h => quiet ⟨cpu, hcpu, h⟩).ends
      refine ⟨hends.booted, fun cpu' hmem => ?_⟩
      dsimp only
      rw [hends.timers]
      obtain hmem | rfl := List.mem_or_eq_of_mem_set hmem
      · exact running.harts cpu' hmem
      · exact hends.hart

/-- A run without a notify keeps the machine running. -/
theorem Running.foldl {emu : Xv6Emulator} (running : emu.Running) (schedule : List Nat)
    (quiet : ∀ done i rest, schedule = done ++ i :: rest →
      ¬OnHart StepNotifies (done.foldl Xv6Emulator.stepHart emu) i) :
    (schedule.foldl Xv6Emulator.stepHart emu).Running := by
  induction schedule using List.reverseRecOn with
  | nil => exact running
  | append_singleton schedule i ih =>
      rw [List.foldl_append, List.foldl_cons, List.foldl_nil]
      refine Running.stepHart (ih fun done j rest h => ?_) (quiet schedule i [] rfl)
      exact quiet done j (rest ++ [i]) (by rw [h, List.append_assoc, List.cons_append])

section Boot

variable {program : List U8} {address : U64} {uartOutput : Option (List U8)}
  {uartInput : Option (List (Option (List U8)))} {diskImage : Option (List U8)} {ncpu : U64}
  {emu : Xv6Emulator} {left : Bus}

/-- A machine that is built is running. -/
theorem running_newSmp
    (boot : newSmp program address uartOutput uartInput diskImage ncpu = .ok emu left) :
    emu.Running := by
  obtain ⟨sb, hncpu, -, hattach, hcpus⟩ := newSmp_ok boot
  refine ⟨booted_newSmp boot, fun cpu hcpu => ?_⟩
  rw [hcpus] at hcpu
  obtain ⟨hartid, hmem, rfl⟩ := List.mem_map.mp hcpu
  have hlt := List.mem_range.mp hmem
  refine ⟨(by decide : PRIV_M.toNat < 4), ?_, Nat.zero_le _⟩
  change (BitVec.ofNat 64 hartid).toNat < emu.bus.dev.clint.mtimecmp.length
  rw [attach_dev hattach, Clint.new, List.length_replicate, BitVec.toNat_ofNat]
  omega

/-- In every run of a machine that `new_smp` returns, in any order of turns, no step panics as
long as no turn executes a store to the notify register; nor does the countdown to the next poll
overflow, or an operator that is computed without a check. -/
theorem core_never_panics
    (boot : newSmp program address uartOutput uartInput diskImage ncpu = .ok emu left)
    (schedule : List Nat) (quiet : ∀ done i rest, schedule = done ++ i :: rest →
      ¬OnHart StepNotifies (done.foldl Xv6Emulator.stepHart emu) i) :
    (∀ done i rest, schedule = done ++ i :: rest →
      ∀ cpu, (done.foldl Xv6Emulator.stepHart emu).cpus[i]? = some cpu →
        ¬Panics (step ⟨cpu, (done.foldl Xv6Emulator.stepHart emu).bus⟩) ∧
          cpu.uartPollCountdown.toNat ≤ 4096) ∧ OperandsFit := by
  refine ⟨fun done i rest h cpu hcpu => ?_, operands_fit⟩
  have running : (done.foldl Xv6Emulator.stepHart emu).Running := by
    refine (running_newSmp boot).foldl done fun done' j rest' h' => ?_
    exact quiet done' j (rest' ++ i :: rest) (by rw [h, h', List.append_assoc, List.cons_append])
  have ready := running.ready hcpu
  refine ⟨?_, ready.hart.countdown⟩
  rintro ⟨cause, t, hpanic⟩
  have hstep := Calm.step ready fun notifies => quiet done i rest h ⟨cpu, hcpu, notifies⟩
  obtain ⟨e, he⟩ := hstep.raises _ t hpanic
  cases he

end Boot

end Run

end Xv6Emulator

end Riscvm.Rv64rs
