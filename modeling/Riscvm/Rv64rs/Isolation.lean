import Mathlib.Data.List.TakeDrop
import Riscvm.Rv64rs.Delivery
import Riscvm.Rv64rs.DeviceReset
import Riscvm.Rv64rs.Shape

/-!
# Interrupts of one hart and registers of another

A hart samples its own timer and its own S-mode context. Two machines that differ in the timer
and the contexts of another hart only are run side by side through `checkInterrupt`: they give
the same answer and leave the hart in the same state.
-/

namespace Riscvm.Rv64rs

open Bits Exec Machine

namespace Clint

/-- The place of a hart's `mtimecmp`. -/
def TimerOf (hart : Nat) (address : U64) : Prop := address.toNat = 0x4000 + 8 * hart

variable [Host]

theorem readOnly_mtimecmpIndex (address : U64) : ReadOnly (mtimecmpIndex address) := by
  refine .bind .get fun clint => .bind (readOnly_mul _ _) fun bytes => ?_
  exact .bind (readOnly_add _ _) fun stop => .ite (.pure _) (.pure _)

theorem mtimecmpIndex_timer {hart : Nat} {address : U64} (timer : TimerOf hart address)
    {clint t : Clint} {slot : Option Nat} (h : mtimecmpIndex address clint = .ok slot t) :
    slot = none ∨ slot = some hart := by
  unfold TimerOf at timer
  simp only [mtimecmpIndex, bind_eq_ok] at h
  obtain ⟨_, _, -, _, _, -, _, _, -, h⟩ := h
  split at h
  · next inside =>
      cases h
      right
      rw [BitVec.toNat_udiv, BitVec.toNat_sub_of_le inside.1, timer]
      simp only [MTIMECMP_OFFSET, BitVec.reduceToNat, Nat.add_sub_cancel_left]
      rw [Nat.mul_div_cancel_left _ (by decide)]
  · cases h
    exact .inl rfl

/-- A store to one timer leaves the others and the time alone. -/
theorem write_timer {hart other : Nat} (ne : hart ≠ other) {address : U64}
    (timer : TimerOf other address) (notTime : address ≠ MTIME_OFFSET) (size : U8) (value : U64)
    (clint : Clint) :
    (finish (write address size value clint)).mtime = clint.mtime ∧
      (finish (write address size value clint)).mtimecmp[hart]? = clint.mtimecmp[hart]? := by
  unfold write
  rw [run_ite, run_ite, if_neg notTime]
  split
  · exact ⟨rfl, rfl⟩
  have hsame := readOnly_mtimecmpIndex address clint
  rw [bind_apply]
  cases hslot : mtimecmpIndex address clint with
  | error e t =>
      rw [hslot] at hsame
      exact hsame ▸ ⟨rfl, rfl⟩
  | ok slot t =>
      rw [hslot, finish_ok] at hsame
      subst hsame
      obtain rfl | rfl := mtimecmpIndex_timer timer hslot
      · exact ⟨rfl, rfl⟩
      · dsimp only
        rw [get_bind_apply]
        unfold copyFromSlice
        split
        · next inside =>
            have hlist := List.set_eq_take_append_cons_drop (l := t.mtimecmp) (i := other)
                (a := value)
            rw [if_pos (Nat.lt_of_succ_le inside.2.1)] at hlist
            refine ⟨rfl, ?_⟩
            change (t.mtimecmp.take other ++ [value] ++ t.mtimecmp.drop (other + 1))[hart]? = _
            rw [List.append_assoc, List.singleton_append, ← hlist, List.getElem?_set_ne ne.symm]
        · exact ⟨rfl, rfl⟩

end Clint

namespace Plic

/-- The enable words of a context. -/
def EnableOf (context : Nat) (address : U64) : Prop :=
  0x2000 + 0x80 * context ≤ address.toNat ∧ address.toNat < 0x2000 + 0x80 * (context + 1)

/-- The threshold register of a context. -/
def ThresholdOf (context : Nat) (address : U64) : Prop :=
  address.toNat = 0x200000 + 0x1000 * context

theorem slot_setSlot {n : Nat} (array : Fin n → U32) (i j : Nat) (value : U32) :
    slot (setSlot array j value) i = if i = j ∧ i < n then value else slot array i := by
  unfold slot setSlot
  by_cases hi : i < n
  · by_cases hij : i = j
    · rw [dif_pos hi, if_pos hij, if_pos ⟨hij, hi⟩]
    · rw [dif_pos hi, if_neg hij, if_neg fun h => hij h.1, dif_pos hi]
  · rw [dif_neg hi, if_neg fun h => hi h.2, dif_neg hi]

theorem write_size {size : U8} (h : size ≠ 4) (address value : U64) (plic : Plic) :
    write address size value plic = .error (.err (.plicSize size)) plic := by
  rw [write, if_pos h]
  rfl

variable {context : Nat} {address : U64}

theorem write_enable (small : context < 64) (h : EnableOf context address) (value : U64)
    (plic : Plic) :
    write address 4 value plic =
      .ok () (plic.enableSet (BitVec.ofNat 64 context) (value.setWidth 32)) := by
  obtain ⟨low, high⟩ := h
  have hpriority : ¬address < PRIORITY_END := by
    rw [BitVec.lt_def]
    simp only [PRIORITY_END, BitVec.reduceToNat]
    omega
  have hbase : ENABLE_BASE ≤ address := by
    rw [BitVec.le_def]
    simp only [ENABLE_BASE, BitVec.reduceToNat]
    omega
  have hend : address < ENABLE_END := by
    rw [BitVec.lt_def]
    simp only [ENABLE_END, BitVec.reduceToNat]
    omega
  have hcontext : (address - ENABLE_BASE) / ENABLE_STRIDE = BitVec.ofNat 64 context := by
    apply BitVec.eq_of_toNat_eq
    rw [BitVec.toNat_udiv, BitVec.toNat_sub_of_le hbase, BitVec.toNat_ofNat]
    simp only [ENABLE_BASE, ENABLE_STRIDE, BitVec.reduceToNat]
    omega
  rw [write, if_neg (not_not_intro rfl), get_bind_apply, if_neg hpriority,
    if_pos ⟨hbase, hend⟩, hcontext]
  rfl

theorem write_threshold (small : context < 64) (h : ThresholdOf context address) (value : U64)
    (plic : Plic) :
    write address 4 value plic =
      .ok () (plic.thresholdSet (BitVec.ofNat 64 context) (value.setWidth 32)) := by
  unfold ThresholdOf at h
  have hpriority : ¬address < PRIORITY_END := by
    rw [BitVec.lt_def]
    simp only [PRIORITY_END, BitVec.reduceToNat]
    omega
  have hend : ¬(ENABLE_BASE ≤ address ∧ address < ENABLE_END) := by
    rw [BitVec.lt_def]
    simp only [ENABLE_END, BitVec.reduceToNat]
    omega
  have hbase : CONTEXT_BASE ≤ address := by
    rw [BitVec.le_def]
    simp only [CONTEXT_BASE, BitVec.reduceToNat]
    omega
  have hcontext : (address - CONTEXT_BASE) / CONTEXT_STRIDE = BitVec.ofNat 64 context := by
    apply BitVec.eq_of_toNat_eq
    rw [BitVec.toNat_udiv, BitVec.toNat_sub_of_le hbase, BitVec.toNat_ofNat]
    simp only [CONTEXT_BASE, CONTEXT_STRIDE, BitVec.reduceToNat]
    omega
  have hoffset : (address - CONTEXT_BASE) % CONTEXT_STRIDE = THRESHOLD_OFFSET := by
    apply BitVec.eq_of_toNat_eq
    rw [BitVec.toNat_umod, BitVec.toNat_sub_of_le hbase]
    simp only [CONTEXT_BASE, CONTEXT_STRIDE, THRESHOLD_OFFSET, BitVec.reduceToNat]
    omega
  rw [write, if_neg (not_not_intro rfl), get_bind_apply, if_neg hpriority, if_neg hend,
    if_pos hbase]
  rw [if_pos hoffset, hcontext]
  rfl

end Plic

/-- The devices look the same to a hart: its timer, its S-mode context and what all harts share. -/
structure SampledAlike (hart : Nat) (dev dev' : Devices) : Prop where
  mtime : dev'.clint.mtime = dev.clint.mtime
  mtimecmp : dev'.clint.mtimecmp[hart]? = dev.clint.mtimecmp[hart]?
  devices : dev'.plic.devicesByIrq = dev.plic.devicesByIrq
  priority : dev'.plic.priority = dev.plic.priority
  enable : Plic.slot dev'.plic.enable (2 * hart + 1) = Plic.slot dev.plic.enable (2 * hart + 1)
  threshold : Plic.slot dev'.plic.threshold (2 * hart + 1) =
    Plic.slot dev.plic.threshold (2 * hart + 1)
  level : dev'.level = dev.level

theorem SampledAlike.refl (hart : Nat) (dev : Devices) : SampledAlike hart dev dev :=
  ⟨rfl, rfl, rfl, rfl, rfl, rfl, rfl⟩

namespace Plic

/-- The store goes to an enable or threshold register of one of the hart's two contexts. -/
def ContextRegisterOf (hart : Nat) (address : U64) : Prop :=
  ∃ context, (context = 2 * hart ∨ context = 2 * hart + 1) ∧
    (EnableOf context address ∨ ThresholdOf context address)

theorem write_context {hart other : Nat} (ne : hart ≠ other) (small : other < 32) {address : U64}
    (register : ContextRegisterOf other address) (size : U8) (value : U64) (dev : Devices) :
    SampledAlike hart dev { dev with plic := finish (write address size value dev.plic) } := by
  obtain ⟨context, hcontext, register⟩ := register
  have hne : 2 * hart + 1 ≠ (BitVec.ofNat 64 context).toNat := by
    rw [BitVec.toNat_ofNat]
    omega
  by_cases hsize : size = 4
  · subst hsize
    rcases register with enable | threshold
    · rw [write_enable (by omega) enable, finish_ok]
      refine ⟨rfl, rfl, rfl, rfl, ?_, rfl, rfl⟩
      exact (slot_setSlot _ _ _ _).trans (if_neg fun h => hne h.1)
    · rw [write_threshold (by omega) threshold, finish_ok]
      refine ⟨rfl, rfl, rfl, rfl, rfl, ?_, rfl⟩
      exact (slot_setSlot _ _ _ _).trans (if_neg fun h => hne h.1)
  · rw [write_size hsize, finish_error]
    exact .refl hart dev

end Plic

namespace Bus

/-- The store is served by the CLINT as one to the hart's `mtimecmp`, or by the PLIC as one to
an enable or threshold register of the hart's contexts. -/
def InterruptRegisterOf (bus : Bus) (hart : Nat) (address : U64) (size : U8) : Prop :=
  (bus.locate address (size.setWidth 64) = some .clint ∧
      Clint.TimerOf hart (bus.offset .clint address)) ∨
    (bus.locate address (size.setWidth 64) = some .plic ∧
      Plic.ContextRegisterOf hart (bus.offset .plic address))

variable [Host]

theorem write_interruptRegister {bus : Bus} (wf : bus.Wf) {hart other : Nat} (ne : hart ≠ other)
    (small : other < 32) {address : U64} {size : U8}
    (register : bus.InterruptRegisterOf other address size) (value : U64) :
    SampledAlike hart bus.dev (finish (write address size value bus)).dev := by
  rw [write, writeWith_eq wf.bounded]
  obtain ⟨hw, timer⟩ | ⟨hw, context⟩ := register
  · rw [hw]
    dsimp only [writeWindow]
    rw [get_bind_apply]
    cases bus.clint with
    | false => exact .refl hart bus.dev
    | true =>
        have hnotTime : bus.offset .clint address ≠ Clint.MTIME_OFFSET := by
          intro h
          rw [h, Clint.TimerOf] at timer
          simp only [Clint.MTIME_OFFSET, BitVec.reduceToNat] at timer
          omega
        obtain ⟨hmtime, hmtimecmp⟩ := Clint.write_timer ne timer hnotTime size value bus.dev.clint
        change SampledAlike hart bus.dev (finish (onClint (Clint.write _ size value) bus)).dev
        rw [onClint, finish_zoom]
        exact ⟨hmtime, hmtimecmp, rfl, rfl, rfl, rfl, rfl⟩
  · rw [hw]
    dsimp only [writeWindow]
    rw [get_bind_apply]
    cases bus.plic with
    | false => exact .refl hart bus.dev
    | true =>
        change SampledAlike hart bus.dev (finish (onPlic (Plic.write _ size value) bus)).dev
        rw [onPlic, finish_zoom]
        exact Plic.write_context ne small context size value bus.dev

end Bus

namespace Trap

/-- The same hart on either of two buses. -/
def SameHart (bus bus' : Bus) (m m' : Machine) : Prop :=
  m'.cpu = m.cpu ∧ m.bus = bus ∧ m'.bus = bus'

variable [Host] {bus bus' : Bus}

omit [Host] in
theorem pending_alike {σ : Type} {hart : Nat} (alike : SampledAlike hart bus.dev bus'.dev) :
    (bus'.dev.clint.pending hart : Call σ Bool) = bus.dev.clint.pending hart := by
  rw [Clint.pending, Clint.pending, index, index, alike.mtimecmp, alike.mtime]

theorem claimable_alike {σ : Type} {hartid : U64} (small : 2 * hartid.toNat + 1 < 2 ^ 64)
    (alike : SampledAlike hartid.toNat bus.dev bus'.dev) :
    (bus'.dev.plic.claimable (Bus.lineStatus bus'.dev false) (2 * hartid + 1) : Call σ Bool) =
      bus.dev.plic.claimable (Bus.lineStatus bus.dev false) (2 * hartid + 1) := by
  have hcontext : (2 * hartid + 1).toNat = 2 * hartid.toNat + 1 := by
    rw [BitVec.toNat_add, BitVec.toNat_mul, show (2 : U64).toNat = 2 from rfl,
      show (1 : U64).toNat = 1 from rfl]
    omega
  have henable : bus'.dev.plic.enableGet (2 * hartid + 1) =
      bus.dev.plic.enableGet (2 * hartid + 1) := by
    rw [Plic.enableGet, Plic.enableGet, hcontext]
    exact alike.enable
  have hthreshold :
      bus'.dev.plic.thresholdGet (2 * hartid + 1) = bus.dev.plic.thresholdGet (2 * hartid + 1) := by
    rw [Plic.thresholdGet, Plic.thresholdGet, hcontext]
    exact alike.threshold
  have hbest (candidates threshold : U32) :
      bus'.dev.plic.bestIrq candidates threshold = bus.dev.plic.bestIrq candidates threshold := by
    rw [Plic.bestIrq, Plic.bestIrq, alike.priority]
  simp only [Plic.claimable, Plic.claimIrq, Plic.pendingMask, Devices.lineStatus_false, alike.level,
    alike.devices, henable, hthreshold, hbest]

omit [Host] in
theorem agree_pending {R : Machine → Machine → Prop} (clint : Clint) (hart : Nat) :
    Agree R (clint.pending hart : Call Machine Bool) (clint.pending hart) :=
  (agree_index _ _).bind fun _ => .pure _

theorem agree_claimable {R : Machine → Machine → Prop} (plic : Plic) (dev : Devices)
    (context : U64) :
    Agree R (plic.claimable (Bus.lineStatus dev false) context : Call Machine Bool)
      (plic.claimable (Bus.lineStatus dev false) context) := by
  rw [Devices.lineStatus_false]
  refine .bind (.bind ?_ fun _ => .pure _) fun _ => .pure _
  unfold Plic.pendingMask
  suffices h : ∀ mask : U32, Agree R (List.foldlM _ mask plic.devicesByIrq)
      (List.foldlM _ mask plic.devicesByIrq) from h 0
  induction plic.devicesByIrq with
  | nil => exact fun mask => .pure mask
  | cons device devices ih =>
      intro mask
      rw [List.foldlM_cons]
      refine .bind (.bind (.pure _) fun level => ?_) ih
      exact .ite (.bind (agree_shl _ _) fun _ => .pure _) (.pure _)

omit [Host] in
theorem agree_onCpu {α : Type} (x : Call Cpu α) :
    Agree (SameHart bus bus') (onCpu x) (onCpu x) :=
  .zoom_same (fun _ _ h => h.1.symm) fun _ _ _ h => ⟨rfl, h.2.1, h.2.2⟩

omit [Host] in
theorem agree_modifyCpu (f : Cpu → Cpu) :
    Agree (SameHart bus bus') (modifyCpu f) (modifyCpu f) :=
  .modify fun _ _ h => ⟨congrArg f h.1, h.2.1, h.2.2⟩

theorem agree_deliverFirst (pendingEnabled mstatus : U64) (causes : List U64) :
    Agree (SameHart bus bus') (deliverFirst pendingEnabled mstatus causes)
      (deliverFirst pendingEnabled mstatus causes) := by
  induction causes with
  | nil => exact .pure _
  | cons cause causes ih =>
      refine .ite ih (.get_bind fun m m' same => ?_)
      rw [same.1]
      refine .ite ih (.ite ih ?_)
      exact .bind (agree_onCpu _) fun _ => .bind (agree_modifyCpu _) fun _ => .pure _

theorem sampleMip_alike (cpu : Cpu) (small : 2 * cpu.hartid.toNat + 1 < 2 ^ 64)
    (alike : SampledAlike cpu.hartid.toNat bus.dev bus'.dev) :
    Alike (SameHart bus bus') (sampleMip ⟨cpu, bus⟩) (sampleMip ⟨cpu, bus'⟩) := by
  have hseip (mip : U64) : Agree (SameHart bus bus')
      (if cpu.plic = true then do
        let context ← add (← mul 2 cpu.hartid) 1
        let claimable ← bus.dev.plic.claimable (Bus.lineStatus bus.dev false) context
        pure (if claimable then mip ||| MIP_SEIP else mip &&& ~~~MIP_SEIP)
      else pure mip : Call Machine U64)
      (if cpu.plic = true then do
        let context ← add (← mul 2 cpu.hartid) 1
        let claimable ← bus'.dev.plic.claimable (Bus.lineStatus bus'.dev false) context
        pure (if claimable then mip ||| MIP_SEIP else mip &&& ~~~MIP_SEIP)
      else pure mip : Call Machine U64) := by
    rw [← bind_assoc, context_eq small, pure_bind, ← bind_assoc, context_eq small, pure_bind,
      claimable_alike small alike]
    exact .ite (.bind (agree_claimable _ _ _) fun _ => .pure _) (.pure _)
  unfold sampleMip
  rw [get_bind_apply, get_bind_apply]
  dsimp only
  rw [pending_alike alike]
  refine Agree.ite (R := SameHart bus bus') ?_ ?_ _ _ ⟨rfl, rfl, rfl⟩
  · exact .bind (agree_pending _ _) fun _ => .bind (.pure _) hseip
  · exact .bind (.pure _) hseip

/-- A hart to which the devices look the same cannot tell the buses apart. -/
theorem checkInterrupt_alike (cpu : Cpu) (small : 2 * cpu.hartid.toNat + 1 < 2 ^ 64)
    (alike : SampledAlike cpu.hartid.toNat bus.dev bus'.dev) :
    Alike (SameHart bus bus') (checkInterrupt ⟨cpu, bus⟩) (checkInterrupt ⟨cpu, bus'⟩) := by
  have hrest (mip : U64) : Agree (SameHart bus bus')
      (do
        modifyCpu fun cpu => { cpu with csrs := cpu.csrs.insert Csr.MIP mip }
        let cpu := (← get).cpu
        let pendingEnabled := mip &&& cpu.csrs.get Csr.MIE
        if pendingEnabled = 0 then return false
        else deliverFirst pendingEnabled (cpu.csrs.get Csr.MSTATUS) PRIORITY : Call Machine Bool)
      (do
        modifyCpu fun cpu => { cpu with csrs := cpu.csrs.insert Csr.MIP mip }
        let cpu := (← get).cpu
        let pendingEnabled := mip &&& cpu.csrs.get Csr.MIE
        if pendingEnabled = 0 then return false
        else deliverFirst pendingEnabled (cpu.csrs.get Csr.MSTATUS) PRIORITY) := by
    refine .bind (agree_modifyCpu _) fun _ => .get_bind fun m m' same => ?_
    rw [same.1]
    exact .ite (.pure _) (agree_deliverFirst _ _ _)
  have hsample := sampleMip_alike cpu small alike
  unfold checkInterrupt
  rw [bind_apply, bind_apply]
  generalize sampleMip ⟨cpu, bus⟩ = r, sampleMip ⟨cpu, bus'⟩ = r' at hsample
  cases hsample with
  | ok mip related => exact hrest mip _ _ related
  | error e related => exact .error e related

end Trap

namespace Xv6Emulator

variable [Host] {program : List U8} {address : U64} {uartOutput : Option (List U8)}
variable {uartInput : Option (List (Option (List U8)))} {diskImage : Option (List U8)} {ncpu : U64}
variable {emu : Xv6Emulator} {left : Bus}

/-- On every machine that is built, in every state of its bus and of the hart, a store to the
timer or a context of another hart leaves the answer of `checkInterrupt` and what it does to the
hart as they were; and a store to an enable or threshold register of the hart's own S-mode
context changes what the hart samples. -/
theorem interrupts_isolated
    (boot : newSmp program address uartOutput uartInput diskImage ncpu = .ok emu left) {bus : Bus}
    (shape : emu.bus.SameShape bus) (cpu : Cpu) (hart : cpu.hartid.toNat < ncpu.toNat) :
    (∀ (other : Nat) (a : U64) (size : U8) (value : U64), other < ncpu.toNat →
      other ≠ cpu.hartid.toNat → bus.InterruptRegisterOf other a size →
      Alike (Trap.SameHart bus (finish (Bus.write a size value bus)))
        (Trap.checkInterrupt ⟨cpu, bus⟩)
        (Trap.checkInterrupt ⟨cpu, finish (Bus.write a size value bus)⟩)) ∧
    ∀ (a value : U64), bus.locate a 4 = some .plic →
      (Plic.EnableOf (2 * cpu.hartid.toNat + 1) (bus.offset .plic a) →
        ∃ bus', Bus.write a 4 value bus = .ok () bus' ∧
          bus'.dev.plic.enableGet (Trap.contextS cpu) = value.setWidth 32) ∧
      (Plic.ThresholdOf (2 * cpu.hartid.toNat + 1) (bus.offset .plic a) →
        ∃ bus', Bus.write a 4 value bus = .ok () bus' ∧
          bus'.dev.plic.thresholdGet (Trap.contextS cpu) = value.setWidth 32) := by
  obtain ⟨-, hncpu, -⟩ := newSmp_ok boot
  have booted := shape.booted (booted_newSmp boot)
  constructor
  · intro other a size value hother ne register
    refine Trap.checkInterrupt_alike cpu (by omega) ?_
    exact Bus.write_interruptRegister booted.wf ne.symm (by omega) register value
  · intro a value hw
    have hcontext : (Trap.contextS cpu).toNat = 2 * cpu.hartid.toNat + 1 := by
      rw [Trap.contextS, BitVec.toNat_add, BitVec.toNat_mul, show (2 : U64).toNat = 2 from rfl,
        show (1 : U64).toNat = 1 from rfl]
      omega
    have hwrite : Bus.write a 4 value bus =
        Bus.onPlic (Plic.write (bus.offset .plic a) 4 value) bus := by
      rw [Bus.write, Bus.writeWith_eq booted.wf.bounded, show (4 : U8).setWidth 64 =
        (4 : U64) from rfl, hw]
      dsimp only [Bus.writeWindow]
      rw [get_bind_apply, booted.plic]
      rfl
    have hslot (array : Fin 64 → U32) : Plic.slot (Plic.setSlot array
        (BitVec.ofNat 64 (2 * cpu.hartid.toNat + 1)).toNat (value.setWidth 32))
          (Trap.contextS cpu).toNat = value.setWidth 32 := by
      rw [Plic.slot_setSlot, hcontext, BitVec.toNat_ofNat, if_pos (by omega)]
    constructor
    · intro enable
      rw [hwrite]
      exact ⟨_, zoom_ok (Plic.write_enable (by omega) enable value _), hslot _⟩
    · intro threshold
      rw [hwrite]
      exact ⟨_, zoom_ok (Plic.write_threshold (by omega) threshold value _), hslot _⟩

end Xv6Emulator

namespace Xv6Emulator

attribute [local instance] Host.dev

/-- The windows of a machine with a page of RAM at 0x80000000. -/
def kernelWindows : Window → Range
  | .ram => ⟨0x80000000, 0x1000⟩
  | .stack => ⟨0x80001000, STACK_SIZE⟩
  | .bootloader => ⟨BOOTLOADER_ADDR, 40⟩
  | .clint => ⟨CLINT_BASE, CLINT_SIZE⟩
  | .uart => ⟨UART_BASE, UART_SIZE⟩
  | .plic => ⟨PLIC_BASE, PLIC_SIZE⟩
  | .virtio => ⟨VIRTIO_DISK_BASE, VirtIOBlk.len⟩

theorem boots_twoHarts : ∃ emu left,
    newSmp [0x13, 0, 0, 0] 0x80000000 none none none 2 = .ok emu left :=
  newSmp_of_reserves (by decide) (by decide) (by decide) (by decide) (by decide)
    ⟨by decide, by decide⟩ (by decide) reserves_kernel

theorem range_twoHarts {emu : Xv6Emulator} {left : Bus}
    (boot : newSmp [0x13, 0, 0, 0] 0x80000000 none none none 2 = .ok emu left) (w : Window) :
    emu.bus.range w = kernelWindows w := by
  obtain ⟨ramLen, stackBegin, hram, hstack, -, hwindows⟩ := newSmp_spec boot
  obtain rfl : ramLen = 0x1000 := BitVec.eq_of_toNat_eq hram
  subst hstack
  simp only [Bus.windows, List.cons.injEq] at hwindows
  obtain ⟨hram, hstack, hbootloader, hclint, huart, hplic, hvirtio, -⟩ := hwindows
  cases w with
  | ram => exact hram
  | stack => exact hstack
  | bootloader => exact hbootloader
  | clint => exact hclint
  | uart => exact huart
  | plic => exact hplic
  | virtio => exact hvirtio

/-- Hart 0 does not notice a store to the timer of hart 1, and enables an irq for itself. -/
theorem interrupts_isolated_twoHarts : ∃ emu left,
    newSmp [0x13, 0, 0, 0] 0x80000000 none none none 2 = .ok emu left ∧
      Alike (Trap.SameHart emu.bus (finish (Bus.write 0x02004008 8 0 emu.bus)))
        (Trap.checkInterrupt ⟨resetCpu 0, emu.bus⟩)
        (Trap.checkInterrupt ⟨resetCpu 0, finish (Bus.write 0x02004008 8 0 emu.bus)⟩) ∧
      ∃ bus', Bus.write 0x0c002080 4 0x400 emu.bus = .ok () bus' ∧
        bus'.dev.plic.enableGet 1 = 0x400 := by
  obtain ⟨emu, left, boot⟩ := boots_twoHarts
  have hlocate (a n : U64) : emu.bus.locate a n =
      Window.all.find? fun w => (kernelWindows w).Contains a n := by
    unfold Bus.locate
    simp only [range_twoHarts boot]
  have hoffset (w : Window) (a : U64) : emu.bus.offset w a = a - (kernelWindows w).start := by
    rw [Bus.offset, range_twoHarts boot]
  obtain ⟨hisolated, heffect⟩ := interrupts_isolated boot (.refl emu.bus) (resetCpu 0) (by decide)
  refine ⟨emu, left, boot, hisolated 1 0x02004008 8 0 (by decide) (by decide) (.inl ⟨?_, ?_⟩),
    (heffect 0x0c002080 0x400 ?_).1 ?_⟩
  · rw [hlocate]
    decide
  · rw [hoffset, Clint.TimerOf]
    decide
  · rw [hlocate]
    decide
  · rw [hoffset]
    exact ⟨by decide, by decide⟩

end Xv6Emulator

end Riscvm.Rv64rs
