import Riscvm.Rv64rs.NoPanic

/-!
# Instructions that fail

An instruction makes its checks before it changes anything: what has failed has at most filled
slots of the TLB on the way. The one exception is a store to the block device, whose queue may
have been worked on by then.
-/

namespace Riscvm.Rv64rs

open Bits Exec Machine

namespace Ram

theorem intact_write (address : U64) (size : U8) (value : U64) :
    Intact (write address size value) := by
  have hstore (xs : List U8) (a b : Nat) (ys : List U8) :
      Intact (do set (Ram.mk (← copyFromSlice xs a b ys)) : Call Ram Unit) :=
    .look (.ite (.pure _) (.throw _)) fun _ => .of_sure (.set _)
  unfold write
  refine .look .get fun ram => ?_
  dsimp only
  split
  · exact hstore _ _ _ _
  · exact hstore _ _ _ _
  · exact hstore _ _ _ _
  · exact hstore _ _ _ _
  · exact (readOnly_error _).intact

end Ram

theorem Clint.intact_write [Host] (address : U64) (size : U8) (value : U64) :
    Intact (write address size value) := by
  refine .ite (readOnly_error _).intact (.ite (.of_sure (.modify _)) ?_)
  refine .look (readOnly_mtimecmpIndex _) fun slot => ?_
  cases slot with
  | none => exact .of_sure (.pure _)
  | some i =>
      refine .look .get fun clint => .look (.ite (.pure _) (.throw _)) fun _ => ?_
      exact .of_sure (.set _)

namespace Uart

theorem intact_read (address : U64) (size : U8) : Intact (read address size) := by
  unfold read
  refine .ite (readOnly_error _).intact (.look .get fun uart => ?_)
  dsimp only
  split
  · exact .of_sure (.ite (.pure _) (.bind (.set _) fun _ => .pure _))
  · exact .of_sure (.pure _)
  · exact .of_sure (.pure _)
  · exact .of_sure (.pure _)
  · exact .of_sure (.pure _)

theorem intact_write (address : U64) (size : U8) (value : U64) :
    Intact (write address size value) := by
  unfold write
  refine .ite (readOnly_error _).intact (.look .get fun uart => ?_)
  split
  · exact (readOnly_error _).intact
  · exact (readOnly_error _).intact
  · exact .of_sure (.ite (.set _) (.set _))
  · exact .ite (.of_sure (.set _)) (.ite (readOnly_error _).intact (.of_sure (.set _)))
  · exact .of_sure (.set _)
  · exact .of_sure (.pure _)

end Uart

theorem Plic.intact_write (address : U64) (size : U8) (value : U64) :
    Intact (write address size value) := by
  refine .ite (readOnly_error _).intact (.look .get fun plic => .of_sure ?_)
  exact .ite (.set _) (.ite (.set _) (.ite (.ite (.set _) (.pure _)) (.pure _)))

namespace Bus

variable [Host] {bus : Bus} {address : U64} {size : U8}

/-- No window's read leaves a trace when it fails. -/
theorem intact_readWindow (borrowed : Bool) (w : Window) (offset : U64) (size : U8) :
    Intact (readWindow borrowed w offset size) := by
  refine .look .get fun bus => ?_
  cases w with
  | ram => exact ((Ram.readOnly_read _ _).intact.zoom fun _ => rfl : Intact (onRam _))
  | stack => exact ((Ram.readOnly_read _ _).intact.zoom fun _ => rfl : Intact (onStack _))
  | bootloader => exact ((Ram.readOnly_read _ _).intact.zoom fun _ => rfl : Intact (onBootloader _))
  | clint =>
      refine .look (readOnly_unwrap _) fun _ => ?_
      exact ((Clint.readOnly_read _ _).intact.zoom fun _ => rfl : Intact (onClint _))
  | uart =>
      refine .look (readOnly_unwrap _) fun _ => ?_
      exact ((Uart.intact_read _ _).zoom fun _ => rfl : Intact (onUart _))
  | plic =>
      refine .look (readOnly_unwrap _) fun _ => ?_
      exact (Plic.readOnly_read _ (readOnly_lineStatus _ _) _ _).intact
  | virtio =>
      refine .look (readOnly_unwrap _) fun _ => .ite (ReadOnly.throw _).intact ?_
      exact ((VirtIOBlk.readOnly_read _ _).intact.zoom fun _ => rfl : Intact (onVirtio _))

theorem intact_writeWindow {virtioWrite : U64 → U8 → U64 → Call Bus Unit} {w : Window}
    (h : w ≠ .virtio) (offset : U64) (size : U8) (value : U64) :
    Intact (writeWindow virtioWrite w offset size value) := by
  refine .look .get fun bus => ?_
  cases w with
  | ram => exact ((Ram.intact_write _ _ _).zoom fun _ => rfl : Intact (onRam _))
  | stack => exact ((Ram.intact_write _ _ _).zoom fun _ => rfl : Intact (onStack _))
  | bootloader => exact ((Ram.intact_write _ _ _).zoom fun _ => rfl : Intact (onBootloader _))
  | clint =>
      refine .look (readOnly_unwrap _) fun _ => ?_
      exact ((Clint.intact_write _ _ _).zoom fun _ => rfl : Intact (onClint _))
  | uart =>
      refine .look (readOnly_unwrap _) fun _ => ?_
      exact ((Uart.intact_write _ _ _).zoom fun _ => rfl : Intact (onUart _))
  | plic =>
      refine .look (readOnly_unwrap _) fun _ => ?_
      exact ((Plic.intact_write _ _ _).zoom fun _ => rfl : Intact (onPlic _))
  | virtio => exact absurd rfl h

theorem faultsAt_read
    (bounded : ∀ w, (bus.range w).start.toNat + (bus.range w).size.toNat < 2 ^ 64) :
    FaultsAt (fun s t => t = s) (read address size) bus := by
  intro e t h
  change readAt false address size bus = _ at h
  rw [readAt_eq bounded] at h
  cases hw : bus.locate address (size.setWidth 64) with
  | none =>
      rw [hw] at h
      cases h
      rfl
  | some w =>
      rw [hw] at h
      exact intact_readWindow false w _ size bus e t h

/-- A write that does not reach the block device leaves no trace when it fails. -/
theorem faultsAt_write
    (bounded : ∀ w, (bus.range w).start.toNat + (bus.range w).size.toNat < 2 ^ 64)
    (clear : bus.locate address (size.setWidth 64) ≠ some .virtio) (value : U64) :
    FaultsAt (fun s t => t = s) (write address size value) bus := by
  intro e t h
  change writeWith VirtIOBlk.write address size value bus = _ at h
  rw [writeWith_eq bounded] at h
  cases hw : bus.locate address (size.setWidth 64) with
  | none =>
      rw [hw] at h
      cases h
      rfl
  | some w =>
      rw [hw] at h
      have hne : w ≠ .virtio := fun heq => clear (hw.trans (congrArg some heq))
      exact intact_writeWindow hne _ size value bus e t h

end Bus

/-- Only the TLB may have changed: a slot may have been filled by a walk. -/
structure Kept [Host] (m t : Machine) : Prop where
  bus : t.bus = m.bus
  cpu : t.cpu = { m.cpu with tlb := t.cpu.tlb }
  tlb : ∀ i, t.cpu.tlb.entries i = m.cpu.tlb.entries i ∨ ∃ va access ppn perm,
    Mmu.walk (m.cpu.csrs.get Csr.SATP) va access m.bus = .ok (ppn, perm) m.bus ∧
      t.cpu.tlb.entries i = ⟨true, va >>> 12, ppn, perm⟩

namespace Kept

variable [Host] {m t u : Machine}

theorem refl (m : Machine) : Kept m m := ⟨rfl, rfl, fun _ => .inl rfl⟩

theorem trans (h : Kept m t) (h' : Kept t u) : Kept m u := by
  have hcsrs : t.cpu.csrs = m.cpu.csrs := by rw [h.cpu]
  refine ⟨h'.bus.trans h.bus, ?_, fun i => ?_⟩
  · rw [h'.cpu, h.cpu]
  · obtain htu | ⟨va, access, ppn, perm, hwalk, hentry⟩ := h'.tlb i
    · rw [htu]
      exact h.tlb i
    · rw [hcsrs, h.bus] at hwalk
      exact .inr ⟨va, access, ppn, perm, hwalk, hentry⟩

end Kept

section Machine

variable [Host] {m : Machine}

theorem keeps_translate (va : U64) (access : Access) : Keeps Kept (Mmu.translate va access) := by
  intro m
  by_cases hbare : m.cpu.csrs.get Csr.SATP >>> 60 = Mmu.MODE_BARE
  · rw [Mmu.translate_bare hbare]
    exact .refl m
  by_cases hmode : m.cpu.csrs.get Csr.SATP >>> 60 = Mmu.MODE_SV39
  · cases hlookup : m.cpu.tlb.lookup (va >>> 12) with
    | some page =>
        rw [Mmu.translate_hit hmode hlookup, apply_ite finish]
        split <;> exact .refl m
    | none =>
        have hbus := Mmu.readOnly_walk (m.cpu.csrs.get Csr.SATP) va access m.bus
        rw [Mmu.translate_miss hmode hlookup]
        cases hwalk : Mmu.walk (m.cpu.csrs.get Csr.SATP) va access m.bus with
        | ok page bus =>
            rw [hwalk, finish_ok] at hbus
            rw [hbus] at hwalk
            refine ⟨hbus, rfl, fun i => ?_⟩
            by_cases hi : i = Tlb.slot (va >>> 12)
            · exact .inr ⟨va, access, page.1, page.2, hwalk, if_pos hi⟩
            · exact .inl (if_neg hi)
        | error e bus =>
            rw [hwalk, finish_error] at hbus
            rw [hbus]
            exact .refl m
  · have hsame : finish (Mmu.translate va access m) = m := by
      rw [Mmu.translate_unsupported hbare hmode]
      simp [Mmu.translateUncached, hbare, hmode]
    rw [hsame]
    exact .refl m

/-- `x` leaves a trace in the TLB at most when it fails. -/
abbrev Undone {α : Type} (x : Call Machine α) (m : Machine) : Prop := FaultsAt Kept x m

namespace Undone

variable {α β : Type} {x : Call Machine α} {f : α → Call Machine β}

theorem look (first : ReadOnly x) (rest : ∀ a, Undone (f a) m) : Undone (x >>= f) m :=
  FaultsAt.look first (.refl m) rest

theorem of_readOnly (h : ReadOnly x) : Undone x m := .of_keeps (h.mono fun _ _ h => h ▸ .refl _)

theorem error (e : EmuError) : Undone (error e : Call Machine α) m := of_readOnly (readOnly_error e)

theorem illegalInstruction (instr : Instruction) :
    Undone (Execute.illegalInstruction instr : Call Machine α) m := .get_bind (error _)

theorem illegalCInstruction (instr : CInstruction) :
    Undone (Rvc.illegalCInstruction instr : Call Machine α) m := .get_bind (error _)

theorem bounded_of_kept {t : Machine} (h : Kept m t)
    (bounded : ∀ w, (m.bus.range w).start.toNat + (m.bus.range w).size.toNat < 2 ^ 64)
    (w : Window) : (t.bus.range w).start.toNat + (t.bus.range w).size.toNat < 2 ^ 64 := by
  rw [h.bus]
  exact bounded w

theorem onBus {x : Call Bus α} (h : FaultsAt (fun s t => t = s) x m.bus) : Undone (onBus x) m :=
  h.zoom fun bus hbus => by
    rw [hbus]
    exact .refl m

theorem translated {va : U64} {access : Access} {pa : U64} {t : Machine}
    (h : Mmu.translate va access m = .ok pa t) : Kept m t := by
  have hkeeps := keeps_translate va access m
  rwa [h, finish_ok] at hkeeps

variable (bounded : ∀ w, (m.bus.range w).start.toNat + (m.bus.range w).size.toNat < 2 ^ 64)

include bounded

theorem read (va : U64) (size : U8) : Undone (Machine.read va size) m := by
  refine .bind Kept.trans (.of_keeps (keeps_translate va .R)) fun pa t htranslate => ?_
  have kept := translated htranslate
  exact ⟨kept, onBus (Bus.faultsAt_read (bounded_of_kept kept bounded))⟩

theorem write {va : U64} {size : U8} (clear : ∀ pa t, Mmu.translate va .W m = .ok pa t →
    t.bus.locate pa (size.setWidth 64) ≠ some .virtio) (value : U64) :
    Undone (Machine.write va size value) m := by
  refine .bind Kept.trans (.of_keeps (keeps_translate va .W)) fun pa t htranslate => ?_
  have kept := translated htranslate
  refine ⟨kept, onBus ?_⟩
  exact Bus.faultsAt_write (bounded_of_kept kept bounded) (clear pa t htranslate) value

omit bounded in
theorem kept_read {va v : U64} {size : U8} (h : size ≠ 1) {t : Machine}
    (run : Machine.read va size m = .ok v t) : Kept m t := by
  obtain ⟨pa, u, htranslate, hread⟩ := bind_eq_ok.mp run
  have hbus : ReadOnly (Machine.onBus (Bus.read pa size)) :=
    (Bus.readOnly_read pa h).zoom fun _ => rfl
  rw [hbus.state_eq hread]
  exact translated htranslate

end Undone

/-- The bytes that a STORE of this `funct3` stores. -/
def storeSize : BitVec 3 → Option U8
  | 0x0#3 => some 1
  | 0x1#3 => some 2
  | 0x2#3 => some 4
  | 0x3#3 => some 8
  | _ => none

/-- In `m` the instruction stores `size` bytes at `va`, and `t` is the machine when it does. -/
inductive StoresBytes : DecodedInstruction → Machine → U64 → U8 → Machine → Prop
  | store {instr : Instruction} {m : Machine} {size : U8} (opcode : instr.opcode = 0x23)
      (funct3 : storeSize instr.funct3 = some size) :
      StoresBytes (.full instr) m (m.cpu.regs.read instr.rs1 + instr.immS) size m
  | swap {instr : Instruction} {m t : Machine} {old : U64} (opcode : instr.opcode = 0x2f)
      (variant : instr.funct3 = 0x2 ∧ instr.funct7 >>> 2 = 0b00001)
      (loaded : Machine.read (m.cpu.regs.read instr.rs1) 4 m = .ok old t) :
      StoresBytes (.full instr) m (m.cpu.regs.read instr.rs1) 4 t
  | sw {instr : CInstruction} {m : Machine} (op : instr.op = 0b00) (funct3 : instr.funct3 = 0b110) :
      StoresBytes (.compressed instr) m
        (m.cpu.regs.read instr.rs1Prime + instr.offset6_2.setWidth 64) 4 m
  | sd {instr : CInstruction} {m : Machine} (op : instr.op = 0b00) (funct3 : instr.funct3 = 0b111) :
      StoresBytes (.compressed instr) m
        (m.cpu.regs.read instr.rs1Prime + instr.offset7_3.setWidth 64) 8 m
  | sdsp {instr : CInstruction} {m : Machine} (op : instr.op = 0b10)
      (funct3 : instr.funct3 = 0b111) :
      StoresBytes (.compressed instr) m
        (m.cpu.regs.read 2 + instr.offset8_3Sdsp.setWidth 64) 8 m

/-- Its store reaches the window of the block device. -/
def StoresToDisk (instr : DecodedInstruction) (m : Machine) : Prop :=
  ∃ va size t pa u, StoresBytes instr m va size t ∧ Mmu.translate va .W t = .ok pa u ∧
    u.bus.locate pa (size.setWidth 64) = some .virtio

theorem clear_of_storesBytes {instr : DecodedInstruction} {t : Machine} {va : U64} {size : U8}
    (clear : ¬StoresToDisk instr m) (stores : StoresBytes instr m va size t) (pa : U64)
    (u : Machine) (h : Mmu.translate va .W t = .ok pa u) :
    u.bus.locate pa (size.setWidth 64) ≠ some .virtio :=
  fun disk => clear ⟨va, size, t, pa, u, stores, h, disk⟩

namespace Undone

omit [Host] in
theorem sure_writeReg {α : Type} (i : BitVec 5) (v : U64) (a : α) :
    Sure (do writeReg i v; return a : Call Machine α) := .bind (.modify _) fun _ => .pure a

theorem of_pure {α : Type} (a : α) : Undone (pure a : Call Machine α) m := .of_sure (.pure a)

theorem commitReg {α : Type} (i : BitVec 5) (v : U64) (a : α) :
    Undone (do writeReg i v; return a : Call Machine α) m := .of_sure (sure_writeReg i v a)

omit [Host] in
theorem readOnly_readReg (i : BitVec 5) : ReadOnly (readReg i) := .bind .get fun _ => .pure _

theorem readReg_bind {α : Type} {i : BitVec 5} {f : U64 → Call Machine α}
    (h : Undone (f (m.cpu.regs.read i)) m) : Undone (readReg i >>= f) m := h

theorem csrAccess {α : Type} (instr : Instruction) (update : U64 → U64) (a : α) :
    Undone (do Execute.csrAccess instr update; return a : Call Machine α) m := by
  refine .of_sure (.bind (.bind .get fun _ => ?_) fun _ => .pure a)
  exact .bind (.modify _) fun _ => .modify _

theorem raiseTrap (cause : U64) (isInterrupt : Bool) (tval : U64) :
    Undone (onCpu (Trap.raiseTrap cause isInterrupt tval)) m := by
  have hrest (delegate : Bool) : Sure (if delegate then do
        modify fun cpu => Trap.takenS cpu (Trap.causeValue cause isInterrupt) tval
        return (← get).csrs.get Csr.STVEC &&& ~~~0b11
      else do
        modify fun cpu => Trap.takenM cpu (Trap.causeValue cause isInterrupt) tval
        return (← get).csrs.get Csr.MTVEC &&& ~~~0b11 : Call Cpu U64) :=
    .ite (.bind (.modify _) fun _ => .bind .get fun _ => .pure _)
      (.bind (.modify _) fun _ => .bind .get fun _ => .pure _)
  have hraise : Intact (Trap.raiseTrap cause isInterrupt tval) := by
    refine .look .get fun cpu => .ite ?_ (.of_sure (hrest false))
    exact .look (readOnly_shr _ _) fun _ => .of_sure (hrest _)
  refine (hraise m.cpu).zoom fun cpu hcpu => ?_
  rw [hcpu]
  exact .refl m

theorem executeSystem (instr : Instruction) (next : U64) :
    Undone (Execute.executeSystem instr next) m := by
  unfold Execute.executeSystem
  refine .look (readOnly_readReg _) fun rs1Value => ?_
  split
  · exact csrAccess _ _ _
  · exact csrAccess _ _ _
  · exact csrAccess _ _ _
  · exact csrAccess _ _ _
  · exact csrAccess _ _ _
  · exact csrAccess _ _ _
  · split
    · exact .get_bind (raiseTrap _ false 0)
    · exact .get_bind (.of_sure (.bind (.modify _) fun _ => .bind .get fun _ => .pure _))
    · exact .of_pure _
    · exact .of_sure (.bind (.modify _) fun _ => .pure _)
    · exact .get_bind (.of_sure (.bind (.modify _) fun _ => .bind .get fun _ => .pure _))
    · exact illegalInstruction _
  · exact illegalInstruction _

variable (bounded : ∀ w, (m.bus.range w).start.toNat + (m.bus.range w).size.toNat < 2 ^ 64)

include bounded

theorem load (instr : Instruction) (addr : U64) : Undone (Execute.load instr addr) m := by
  unfold Execute.load
  split
  all_goals first
    | exact .commit (read bounded _ _) fun _ => .pure _
    | exact read bounded _ _
    | exact illegalInstruction _

theorem store {instr : Instruction} {addr : U64} (value : U64)
    (clear : ∀ size, storeSize instr.funct3 = some size → ∀ pa t,
      Mmu.translate addr .W m = .ok pa t → t.bus.locate pa (size.setWidth 64) ≠ some .virtio) :
    Undone (Execute.store instr addr value) m := by
  unfold Execute.store
  split
  · next h => exact write bounded (clear 1 (by rw [h]; rfl)) value
  · next h => exact write bounded (clear 2 (by rw [h]; rfl)) value
  · next h => exact write bounded (clear 4 (by rw [h]; rfl)) value
  · next h => exact write bounded (clear 8 (by rw [h]; rfl)) value
  · exact illegalInstruction _

theorem executeFrom {instr : Instruction} (next : U64) (clear : ¬StoresToDisk (.full instr) m) :
    Undone (Execute.executeFrom next instr) m := by
  unfold Execute.executeFrom
  refine .get_bind (readReg_bind (readReg_bind ?_))
  split
  · exact .commit (load bounded _ _) fun _ => sure_writeReg _ _ _
  · next hstore =>
      refine .commit (store bounded _ fun size hsize => ?_) fun _ => .pure _
      exact clear_of_storesBytes clear (.store hstore hsize)
  · exact commitReg _ _ _
  · exact commitReg _ _ _
  · exact commitReg _ _ _
  · exact commitReg _ _ _
  · split
    · exact of_pure _
    · exact illegalInstruction _
  · exact commitReg _ _ _
  · split
    · exact commitReg _ _ _
    · exact illegalInstruction _
  · split
    · exact commitReg _ _ _
    · exact illegalInstruction _
  · split
    · exact commitReg _ _ _
    · exact illegalInstruction _
  · exact of_pure _
  · exact executeSystem _ _
  · next hswap =>
      -- the word is read before it is written, and reading four bytes leaves no trace
      refine .ite (fun hvariant => ?_) fun _ => illegalInstruction _
      refine .bind Kept.trans (read bounded _ 4) fun old t hread => ?_
      have kept : Kept m t := kept_read (by decide) hread
      refine ⟨kept, .commit (write (bounded_of_kept kept bounded) ?_ _) fun _ => ?_⟩
      swap
      · exact sure_writeReg _ _ _
      exact clear_of_storesBytes clear (.swap hswap hvariant hread)
  · exact illegalInstruction _

section Compressed

variable {instr : CInstruction}

omit [Host] bounded in
theorem readOnly_nz (v : U64) : ReadOnly (CInstruction.nz v : Call Machine U64) :=
  .ite (readOnly_error _) (.pure _)

omit [Host] bounded in
theorem readOnly_shamt : ReadOnly (instr.shamt : Call Machine U32) :=
  .ite (readOnly_error _) (.pure _)

omit [Host] bounded in
theorem readOnly_nzuimm9_2 : ReadOnly (instr.nzuimm9_2 : Call Machine U32) :=
  .ite (readOnly_error _) (.pure _)

theorem executeQ0 (next : U64) (op : instr.op = 0b00)
    (clear : ¬StoresToDisk (.compressed instr) m) : Undone (Rvc.executeQ0 instr next) m := by
  unfold Rvc.executeQ0
  split
  · exact look readOnly_nzuimm9_2 fun _ => readReg_bind (commitReg _ _ _)
  · exact readReg_bind (.commit (read bounded _ _) fun _ => sure_writeReg _ _ _)
  · exact readReg_bind (.commit (read bounded _ _) fun _ => sure_writeReg _ _ _)
  · next h3 =>
      refine readReg_bind (readReg_bind (.commit (write bounded ?_ _) fun _ => .pure _))
      exact clear_of_storesBytes clear (.sw op h3)
  · next h3 =>
      refine readReg_bind (readReg_bind (.commit (write bounded ?_ _) fun _ => .pure _))
      exact clear_of_storesBytes clear (.sd op h3)
  · exact illegalCInstruction _

omit bounded in
theorem executeQ1Alu (next : U64) : Undone (Rvc.executeQ1Alu instr next) m := by
  unfold Rvc.executeQ1Alu
  split
  · exact look readOnly_shamt fun _ => readReg_bind (commitReg _ _ _)
  · exact look readOnly_shamt fun _ => readReg_bind (commitReg _ _ _)
  · exact readReg_bind (commitReg _ _ _)
  · refine readReg_bind (readReg_bind (.ite (fun _ => ?_) fun _ => ?_))
    · split
      all_goals exact commitReg _ _ _
    · dsimp only
      split
      · exact commitReg _ _ _
      · exact commitReg _ _ _
      · exact illegalCInstruction _

omit bounded in
theorem executeQ1 (pc next : U64) : Undone (Rvc.executeQ1 instr pc next) m := by
  unfold Rvc.executeQ1
  split
  · exact readReg_bind (commitReg _ _ _)
  · exact .ite (fun _ => illegalCInstruction _) fun _ => readReg_bind (commitReg _ _ _)
  · exact .ite (fun _ => illegalCInstruction _) fun _ => commitReg _ _ _
  · refine .ite (fun _ => ?_) fun _ => .ite (fun _ => illegalCInstruction _) fun _ => ?_
    · exact look (readOnly_nz _) fun _ => readReg_bind (commitReg _ _ _)
    · exact look (readOnly_nz _) fun _ => commitReg _ _ _
  · exact executeQ1Alu _
  · exact of_pure _
  · exact readReg_bind (of_pure _)
  · exact readReg_bind (of_pure _)

omit bounded in
theorem executeQ2Move (pc next : U64) : Undone (Rvc.executeQ2Move instr pc next) m := by
  have hillegal : Undone (Rvc.illegalCInstruction instr : Call Machine U64) m :=
    illegalCInstruction _
  unfold Rvc.executeQ2Move
  refine .ite (fun _ => .ite (fun _ => .ite (fun _ => hillegal) fun _ => ?_) fun _ =>
    .ite (fun _ => hillegal) fun _ => of_readOnly (readOnly_readReg _)) fun _ =>
    .ite (fun _ => .ite (fun _ => hillegal) fun _ => ?_) fun _ =>
    .ite (fun _ => ?_) fun _ => hillegal
  · exact readReg_bind (commitReg _ _ _)
  · exact readReg_bind (readReg_bind (commitReg _ _ _))
  · exact readReg_bind (commitReg _ _ _)

theorem executeQ2 (pc next : U64) (op : instr.op = 0b10)
    (clear : ¬StoresToDisk (.compressed instr) m) : Undone (Rvc.executeQ2 instr pc next) m := by
  unfold Rvc.executeQ2
  split
  · exact look readOnly_shamt fun _ => readReg_bind (commitReg _ _ _)
  · refine .ite (fun _ => illegalCInstruction _) fun _ => readReg_bind ?_
    exact .commit (read bounded _ _) fun _ => sure_writeReg _ _ _
  · exact executeQ2Move _ _
  · next h3 =>
      refine readReg_bind (readReg_bind (.commit (write bounded ?_ _) fun _ => .pure _))
      exact clear_of_storesBytes clear (.sdsp op h3)
  · exact illegalCInstruction _

theorem executeRvc (clear : ¬StoresToDisk (.compressed instr) m) :
    Undone (Rvc.execute instr) m := by
  unfold Rvc.execute
  refine .get_bind ?_
  dsimp only
  split
  · next hop => exact executeQ0 bounded _ hop clear
  · exact executeQ1 _ _
  · next hop => exact executeQ2 bounded _ _ hop clear
  · exact illegalCInstruction _

end Compressed

end Undone

/-- An instruction that fails, for whatever reason, changes nothing but the TLB, unless its store
has reached the block device. -/
theorem all_or_nothing {instr : DecodedInstruction}
    (bounded : ∀ w, (m.bus.range w).start.toNat + (m.bus.range w).size.toNat < 2 ^ 64)
    (clear : ¬StoresToDisk instr m) {e : Fault} {t : Machine}
    (failed : executeDecoded instr m = .error e t) : Kept m t := by
  have hcommit (pc : U64) : Sure (modifyCpu fun cpu => { cpu with pc }) := .modify _
  cases instr with
  | full instr =>
      refine FaultsAt.commit ?_ hcommit e t failed
      exact .get_bind (Undone.executeFrom bounded _ clear)
  | compressed instr =>
      exact FaultsAt.commit (Undone.executeRvc bounded clear) hcommit e t failed

end Machine

section Example

attribute [local instance] Host.dev

/-- Paging is on, and the table at 0 maps the first gigabyte to itself, read-only. -/
def readOnlyMachine : Machine :=
  { cpu := { Cpu.new 0 with
      regs := ((Registers.new.write 1 8).write 2 7).write 3 5
      csrs := Csrs.new.insert Csr.SATP 0x8000000000000000 }
    bus := { Bus.new .detached with
      ram := ⟨[3, 0, 0, 0, 0, 0, 0, 0, 0x2a, 0, 0, 0, 0, 0, 0, 0]⟩, ramRange := ⟨0, 16⟩ } }

/-- `amoswap.w x3, x2, (x1)`. -/
def swapWord : DecodedInstruction := .full (.new 0x0820a1af)

/-- The word is loaded, and the store is refused. -/
theorem swap_undone : ∃ e t, executeDecoded swapWord readOnlyMachine = .error e t ∧
    Kept readOnlyMachine t := by
  have hrun : executeDecoded swapWord readOnlyMachine =
      .error (.err (.cachedPermission 8 Mmu.PTE_R))
      (finish (executeDecoded swapWord readOnlyMachine)) :=
    eq_error_finish (by decide +kernel)
  have hbounded : ∀ w, (readOnlyMachine.bus.range w).start.toNat +
      (readOnlyMachine.bus.range w).size.toNat < 2 ^ 64 := fun w => by cases w <;> decide
  have hclear : ¬StoresToDisk swapWord readOnlyMachine := by
    rintro ⟨va, size, t, pa, u, stores, htranslate, -⟩
    cases stores with
    | store opcode => exact absurd opcode (by decide)
    | swap opcode variant loaded =>
        have hfinish : t = finish (read 8 4 readOnlyMachine) := by
          change read 8 4 readOnlyMachine = _ at loaded
          rw [loaded, finish_ok]
        have hrefused : answer (Mmu.translate 8 .W (finish (read 8 4 readOnlyMachine))) =
            .error (.err (.cachedPermission 8 Mmu.PTE_R)) := by
          decide +kernel
        rw [← hfinish] at hrefused
        change Mmu.translate 8 .W t = _ at htranslate
        rw [htranslate] at hrefused
        cases hrefused
  exact ⟨_, _, hrun, all_or_nothing hbounded hclear hrun⟩

end Example

end Riscvm.Rv64rs
