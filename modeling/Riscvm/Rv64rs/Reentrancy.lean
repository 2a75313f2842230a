import Riscvm.Rv64rs.Shape

/-!
# Re-entrant accesses of the block device

While the device serves its queue it is mutably borrowed. An access that it makes then is a
panic if it reaches the device a second time: in its own window, or through the interrupt
controller, which samples the device's line when it is asked for a claim.
-/

namespace Riscvm.Rv64rs

open Exec

/-- The call ends in a panic. -/
def Panics {σ α : Type} (r : EStateM.Result Fault σ α) : Prop :=
  ∃ cause t, r = .error (.panic cause) t

/-- The fault is an `Err` of the source. -/
def IsErr (e : Fault) : Prop := ∃ error, e = .err error

theorem not_panics_of_raises {σ α : Type} {x : Call σ α} (h : Raises IsErr x) (s : σ) :
    ¬Panics (x s) := by
  rintro ⟨cause, t, hx⟩
  obtain ⟨error, herror⟩ := h s _ t hx
  cases herror

theorem not_panics_ok {σ α : Type} (a : α) (s : σ) :
    ¬Panics (.ok a s : EStateM.Result Fault σ α) := by
  rintro ⟨cause, t, h⟩
  cases h

theorem raises_error {σ α : Type} (e : EmuError) : Raises IsErr (error e : Call σ α) :=
  .throw ⟨e, rfl⟩

namespace Ram

theorem raises_read_of_not_width {address : U64} {size : U8} (h : ¬Width size) :
    Raises IsErr (read address size) := by
  unfold read
  refine .bind .get fun ram => ?_
  dsimp only
  split
  · exact absurd (.inl rfl) h
  · exact absurd (.inr (.inl rfl)) h
  · exact absurd (.inr (.inr (.inl rfl))) h
  · exact absurd (.inr (.inr (.inr rfl))) h
  · exact raises_error _

theorem raises_write_of_not_width {address : U64} {size : U8} (h : ¬Width size) (value : U64) :
    Raises IsErr (write address size value) := by
  unfold write
  refine .bind .get fun ram => ?_
  dsimp only
  split
  · exact absurd (.inl rfl) h
  · exact absurd (.inr (.inl rfl)) h
  · exact absurd (.inr (.inr (.inl rfl))) h
  · exact absurd (.inr (.inr (.inr rfl))) h
  · exact raises_error _

theorem not_panics_read {ram : Ram} {address : U64} {size : U8}
    (h : address.toNat + size.toNat ≤ ram.data.length) : ¬Panics (read address size ram) := by
  by_cases width : Width size
  · rw [read_ok width h]
    exact not_panics_ok _ _
  · exact not_panics_of_raises (raises_read_of_not_width width) ram

theorem not_panics_write {ram : Ram} {address : U64} {size : U8}
    (h : address.toNat + size.toNat ≤ ram.data.length) (value : U64) :
    ¬Panics (write address size value ram) := by
  by_cases width : Width size
  · rw [write_ok width h]
    exact not_panics_ok _ _
  · exact not_panics_of_raises (raises_write_of_not_width width value) ram

end Ram

namespace Uart

theorem raises_read (address : U64) (size : U8) : Raises IsErr (read address size) := by
  unfold read
  refine .ite (raises_error _) (.bind .get fun uart => ?_)
  dsimp only
  split
  · exact .ite (.pure _) (.bind (.set _) fun _ => .pure _)
  · exact .pure _
  · exact .pure _
  · exact .pure _
  · exact .pure _

theorem raises_write (address : U64) (size : U8) (value : U64) :
    Raises IsErr (write address size value) := by
  unfold write
  refine .ite (raises_error _) (.bind .get fun uart => ?_)
  split
  · exact raises_error _
  · exact raises_error _
  · exact .ite (.set _) (.set _)
  · exact .ite (.set _) (.ite (raises_error _) (.set _))
  · exact .set _
  · exact .pure _

end Uart

namespace Plic

theorem raises_write (address : U64) (size : U8) (value : U64) :
    Raises IsErr (write address size value) := by
  unfold write
  refine .ite (raises_error _) (.bind .get fun plic => ?_)
  exact .ite (.set _) (.ite (.set _) (.ite (.ite (.set _) (.pure _)) (.pure _)))

/-- Only a claim samples the lines. -/
theorem raises_read [Host] {σ : Type} (plic : Plic) (status : IrqLine → Call σ U32) {address : U64}
    {size : U8} (h : ¬(size = 4 ∧ ClaimRegister address)) :
    Raises IsErr (plic.read status address size) := by
  unfold read
  by_cases hsize : size ≠ 4
  · rw [if_pos hsize]
    exact raises_error _
  rw [if_neg hsize]
  refine .ite (.pure _) (.ite (.pure _) ?_)
  by_cases hbase : CONTEXT_BASE ≤ address
  · rw [if_pos hbase]
    refine .ite (.pure _) ?_
    by_cases hclaim : (address - CONTEXT_BASE) % CONTEXT_STRIDE = CLAIM_OFFSET
    · exact absurd ⟨Decidable.not_not.mp hsize, hbase, hclaim⟩ h
    · rw [if_neg hclaim]
      exact .pure _
  · rw [if_neg hbase]
    exact .pure _

end Plic

namespace Clint

variable [Host]

theorem mtimecmpIndex_apply {clint : Clint} (fits : clint.Fits) (address : U64) :
    ∃ slot, mtimecmpIndex address clint = .ok slot clint ∧
      ∀ i ∈ slot, i < clint.mtimecmp.length := by
  unfold Fits at fits
  have hlength : (BitVec.ofNat 64 clint.mtimecmp.length).toNat = clint.mtimecmp.length := by
    rw [BitVec.toNat_ofNat]
    omega
  have hmul : (mul 8 (BitVec.ofNat 64 clint.mtimecmp.length) : Call Clint U64) =
      pure (8 * BitVec.ofNat 64 clint.mtimecmp.length) := by
    refine mul_of_lt ?_
    rw [hlength, show (8 : U64).toNat = 8 from rfl]
    omega
  have hbytes : (8 * BitVec.ofNat 64 clint.mtimecmp.length).toNat = 8 * clint.mtimecmp.length := by
    rw [BitVec.toNat_mul, hlength, show (8 : U64).toNat = 8 from rfl]
    omega
  have hadd : (add MTIMECMP_OFFSET (8 * BitVec.ofNat 64 clint.mtimecmp.length) : Call Clint U64) =
      pure (MTIMECMP_OFFSET + 8 * BitVec.ofNat 64 clint.mtimecmp.length) := by
    refine add_of_lt ?_
    rw [hbytes, show MTIMECMP_OFFSET.toNat = 0x4000 from rfl]
    omega
  have hstop : (MTIMECMP_OFFSET + 8 * BitVec.ofNat 64 clint.mtimecmp.length).toNat =
      0x4000 + 8 * clint.mtimecmp.length := by
    rw [BitVec.toNat_add, hbytes, show MTIMECMP_OFFSET.toNat = 0x4000 from rfl]
    omega
  unfold mtimecmpIndex
  rw [get_bind_apply, hmul, pure_bind_apply, hadd, pure_bind_apply, run_ite]
  split
  · next hin =>
      refine ⟨_, rfl, fun i hi => ?_⟩
      obtain ⟨hstart, hhigh⟩ := hin
      have hlow : 0x4000 ≤ address.toNat := BitVec.le_def.mp hstart
      have hhigh := BitVec.lt_def.mp hhigh
      rw [hstop] at hhigh
      rw [Option.mem_some] at hi
      rw [← hi, BitVec.toNat_udiv, BitVec.toNat_sub_of_le hstart,
        show MTIMECMP_OFFSET.toNat = 0x4000 from rfl, show (8 : U64).toNat = 8 from rfl]
      omega
  · exact ⟨none, rfl, fun i hi => nomatch hi⟩

theorem not_panics_read {clint : Clint} (fits : clint.Fits) (address : U64) (size : U8) :
    ¬Panics (read address size clint) := by
  obtain ⟨slot, hslot, hlt⟩ := mtimecmpIndex_apply fits address
  unfold read
  rw [run_ite]
  split
  · exact not_panics_of_raises (raises_error _) clint
  rw [run_ite]
  split
  · exact not_panics_ok _ _
  rw [bind_ok hslot]
  cases slot with
  | none => exact not_panics_ok _ _
  | some i =>
      change ¬Panics ((index clint.mtimecmp i : Call Clint U64) clint)
      rw [index_of_lt (hlt i rfl)]
      exact not_panics_ok _ _

theorem not_panics_write {clint : Clint} (fits : clint.Fits) (address : U64) (size : U8)
    (value : U64) : ¬Panics (write address size value clint) := by
  obtain ⟨slot, hslot, hlt⟩ := mtimecmpIndex_apply fits address
  unfold write
  rw [run_ite]
  split
  · exact not_panics_of_raises (raises_error _) clint
  rw [run_ite]
  split
  · exact not_panics_ok _ _
  rw [bind_ok hslot]
  cases slot with
  | none => exact not_panics_ok _ _
  | some i =>
      dsimp only
      have hcopy : (copyFromSlice clint.mtimecmp i (i + 1) [value] : Call Clint (List U64)) =
          pure (clint.mtimecmp.take i ++ [value] ++ clint.mtimecmp.drop (i + 1)) :=
        copyFromSlice_of_le (hlt i rfl) rfl
      rw [get_bind_apply, hcopy, pure_bind_apply]
      exact not_panics_ok _ _

end Clint

namespace Bus

section Accesses

variable [Host]

/-- The read reaches the block device, directly or by a claim. -/
def ReadReenters (bus : Bus) (address : U64) (size : U8) : Prop :=
  bus.locate address (size.setWidth 64) = some .virtio ∨
    bus.locate address (size.setWidth 64) = some .plic ∧ size = 4 ∧
      Plic.ClaimRegister (bus.offset .plic address)

/-- The write reaches the block device. -/
def WriteReenters (bus : Bus) (address : U64) (size : U8) : Prop :=
  bus.locate address (size.setWidth 64) = some .virtio

variable {bus : Bus}

/-- The controller comes to sample the device's line. -/
theorem claimIrq_borrowed {plic : Plic}
    (lines : plic.devicesByIrq = Xv6Emulator.plic.devicesByIrq) (dev : Devices) (context : U64)
    (bus : Bus) : (plic.claimIrq (lineStatus dev true) context : Call Bus U32) bus =
      .error (.panic .alreadyBorrowed) bus := by
  have hmask : (plic.pendingMask (lineStatus dev true) : Call Bus U32) bus =
      .error (.panic .alreadyBorrowed) bus := by
    unfold Plic.pendingMask
    rw [lines]
    rw [show Xv6Emulator.plic.devicesByIrq = [(UART0_IRQ, .uart), (VIRTIO0_IRQ, .virtio)] from rfl,
      List.foldlM_cons]
    by_cases hlevel : dev.uart.interruptStatus &&& 1 ≠ 0
    · simp only [lineStatus, pure_bind, if_pos hlevel,
        shl_of_lt (show UART0_IRQ.toNat < 32 by decide)]
      rfl
    · simp only [lineStatus, pure_bind, if_neg hlevel]
      rfl
  rw [Plic.claimIrq, bind_error hmask]

theorem dmaRead_reenters (booted : bus.Booted) {address : U64} {size : U8}
    (h : bus.ReadReenters address size) :
    dmaRead address size bus = .error (.panic .alreadyBorrowed) bus := by
  obtain hw | ⟨hw, rfl, hclaim⟩ := h
  · rw [dmaRead, readAt_eq booted.wf.bounded, hw]
    dsimp only [readWindow]
    rw [get_bind_apply, booted.virtio]
    rfl
  · rw [dmaRead, readAt_eq booted.wf.bounded, hw]
    dsimp only [readWindow]
    rw [get_bind_apply, booted.plic, Plic.read_claimRegister hclaim]
    exact bind_error (claimIrq_borrowed booted.lines _ _ _) _

omit [Host] in
theorem not_panics_zoom {σ α : Type} {view : Bus → σ} {put : σ → Bus → Bus} {x : Call σ α}
    (h : ¬Panics (x (view bus))) : ¬Panics (zoom view put x bus) := by
  rintro ⟨cause, t, hx⟩
  unfold zoom at hx
  cases hr : x (view bus) with
  | ok a s =>
      rw [hr] at hx
      cases hx
  | error e s =>
      rw [hr] at hx
      cases hx
      exact h ⟨cause, s, hr⟩

omit [Host] in
theorem Booted.holds (booted : bus.Booted) (w : Window) : bus.holds w = true := by
  cases w with
  | ram | stack | bootloader => rfl
  | clint => exact booted.clint
  | uart => exact booted.uart
  | plic => exact booted.plic
  | virtio => exact booted.virtio

/-- What a read comes down to where each window is served: the interrupt controller and the block
device are left to the caller. -/
theorem not_panics_readAt (wf : bus.Wf) (timers : bus.dev.clint.Fits) {borrowed : Bool}
    {address : U64} {size : U8}
    (held : ∀ w, bus.locate address (size.setWidth 64) = some w → bus.holds w = true)
    (plic : bus.locate address (size.setWidth 64) = some .plic →
      ¬Panics (bus.dev.plic.read (lineStatus bus.dev borrowed) (bus.offset .plic address) size bus))
    (virtio : bus.locate address (size.setWidth 64) = some .virtio → borrowed = false ∧
      ¬Panics (VirtIOBlk.read (bus.offset .virtio address) size bus.dev.virtio)) :
    ¬Panics (readAt borrowed address size bus) := by
  rw [readAt_eq wf.bounded]
  cases hw : bus.locate address (size.setWidth 64) with
  | none => exact not_panics_of_raises (raises_error .noDevice) bus
  | some w =>
      have hheld := held w hw
      dsimp only
      cases w with
      | ram =>
          change ¬Panics (onRam (Ram.read _ size) bus)
          exact not_panics_zoom (Ram.not_panics_read (wf.offset_add_le hw rfl))
      | stack =>
          change ¬Panics (onStack (Ram.read _ size) bus)
          exact not_panics_zoom (Ram.not_panics_read (wf.offset_add_le hw rfl))
      | bootloader =>
          change ¬Panics (onBootloader (Ram.read _ size) bus)
          exact not_panics_zoom (Ram.not_panics_read (wf.offset_add_le hw rfl))
      | clint =>
          dsimp only [readWindow]
          rw [get_bind_apply, show bus.clint = true from hheld]
          change ¬Panics (onClint (Clint.read _ size) bus)
          exact not_panics_zoom (Clint.not_panics_read timers _ _)
      | uart =>
          dsimp only [readWindow]
          rw [get_bind_apply, show bus.uart = true from hheld]
          change ¬Panics (onUart (Uart.read _ size) bus)
          exact not_panics_zoom (not_panics_of_raises (Uart.raises_read _ _) _)
      | plic =>
          dsimp only [readWindow]
          rw [get_bind_apply, show bus.plic = true from hheld]
          exact plic hw
      | virtio =>
          obtain ⟨rfl, hread⟩ := virtio hw
          dsimp only [readWindow]
          rw [get_bind_apply, show bus.virtio = true from hheld]
          change ¬Panics (onVirtio (VirtIOBlk.read _ size) bus)
          exact not_panics_zoom hread

theorem not_panics_dmaRead (booted : bus.Booted) {address : U64} {size : U8}
    (h : ¬bus.ReadReenters address size) : ¬Panics (dmaRead address size bus) := by
  refine not_panics_readAt booted.wf booted.timers (fun w _ => booted.holds w) (fun hw => ?_)
    fun hw => absurd (.inl hw) h
  exact not_panics_of_raises (Plic.raises_read _ _ fun hclaim => h (.inr ⟨hw, hclaim⟩)) bus

theorem dmaWrite_reenters (booted : bus.Booted) {address : U64} {size : U8} (value : U64)
    (h : bus.WriteReenters address size) :
    dmaWrite address size value bus = .error (.panic .alreadyBorrowed) bus := by
  rw [dmaWrite, writeWith_virtio booted.wf.bounded booted.virtio h]
  rfl

/-- What a write comes down to where each window is served. -/
theorem not_panics_writeWith (wf : bus.Wf) (timers : bus.dev.clint.Fits)
    {virtioWrite : U64 → U8 → U64 → Call Bus Unit} {address : U64} {size : U8}
    (held : ∀ w, bus.locate address (size.setWidth 64) = some w → bus.holds w = true) (value : U64)
    (virtio : bus.locate address (size.setWidth 64) = some .virtio →
      ¬Panics (virtioWrite (bus.offset .virtio address) size value bus)) :
    ¬Panics (writeWith virtioWrite address size value bus) := by
  rw [writeWith_eq wf.bounded]
  cases hw : bus.locate address (size.setWidth 64) with
  | none => exact not_panics_of_raises (raises_error .noDevice) bus
  | some w =>
      have hheld := held w hw
      dsimp only
      cases w with
      | ram =>
          change ¬Panics (onRam (Ram.write _ size value) bus)
          exact not_panics_zoom (Ram.not_panics_write (wf.offset_add_le hw rfl) _)
      | stack =>
          change ¬Panics (onStack (Ram.write _ size value) bus)
          exact not_panics_zoom (Ram.not_panics_write (wf.offset_add_le hw rfl) _)
      | bootloader =>
          change ¬Panics (onBootloader (Ram.write _ size value) bus)
          exact not_panics_zoom (Ram.not_panics_write (wf.offset_add_le hw rfl) _)
      | clint =>
          dsimp only [writeWindow]
          rw [get_bind_apply, show bus.clint = true from hheld]
          change ¬Panics (onClint (Clint.write _ size value) bus)
          exact not_panics_zoom (Clint.not_panics_write timers _ _ _)
      | uart =>
          dsimp only [writeWindow]
          rw [get_bind_apply, show bus.uart = true from hheld]
          change ¬Panics (onUart (Uart.write _ size value) bus)
          exact not_panics_zoom (not_panics_of_raises (Uart.raises_write _ _ _) _)
      | plic =>
          dsimp only [writeWindow]
          rw [get_bind_apply, show bus.plic = true from hheld]
          change ¬Panics (onPlic (Plic.write _ size value) bus)
          exact not_panics_zoom (not_panics_of_raises (Plic.raises_write _ _ _) _)
      | virtio =>
          dsimp only [writeWindow]
          rw [get_bind_apply, show bus.virtio = true from hheld]
          exact virtio hw

theorem not_panics_dmaWrite (booted : bus.Booted) {address : U64} {size : U8} (value : U64)
    (h : ¬bus.WriteReenters address size) : ¬Panics (dmaWrite address size value bus) :=
  not_panics_writeWith booted.wf booted.timers (fun w _ => booted.holds w) value
    fun hw => absurd hw h

/-- The request comes back to the device. -/
def Reenters (bus : Bus) : (β : Type) → DmaRequest β → Prop
  | _, .device | _, .update _ | _, .require _ _ => False
  | _, .read address size => bus.ReadReenters address size
  | _, .write address size _ => bus.WriteReenters address size

omit [Host] in
theorem SameShape.readReenters_iff {bus bus' : Bus} (same : SameShape bus bus') (address : U64)
    (size : U8) : bus'.ReadReenters address size ↔ bus.ReadReenters address size := by
  unfold ReadReenters
  rw [same.locate_eq, same.offset_eq]

omit [Host] in
theorem SameShape.writeReenters_iff {bus bus' : Bus} (same : SameShape bus bus') (address : U64)
    (size : U8) : bus'.WriteReenters address size ↔ bus.WriteReenters address size := by
  unfold WriteReenters
  rw [same.locate_eq]

omit [Host] in
theorem SameShape.reenters_iff {bus bus' : Bus} (same : SameShape bus bus') {β : Type}
    (r : DmaRequest β) : bus'.Reenters β r ↔ bus.Reenters β r := by
  cases r with
  | device | update f | require holds cause => exact Iff.rfl
  | read address size => exact same.readReenters_iff address size
  | write address size value => exact same.writeReenters_iff address size

/-- Exactly the requests that come back to the device borrow it a second time. -/
theorem handle_borrows_iff (booted : bus.Booted) {β : Type} {r : DmaRequest β}
    (sound : DmaScript.Sound β r) :
    (∃ t, handle β r bus = .error (.panic .alreadyBorrowed) t) ↔ bus.Reenters β r := by
  cases r with
  | device => exact iff_of_false (fun ⟨_, h⟩ => nomatch h) id
  | update f => exact iff_of_false (fun ⟨_, h⟩ => nomatch h) id
  | read address size =>
      refine ⟨fun ⟨t, h⟩ => ?_, fun h => ⟨bus, dmaRead_reenters booted h⟩⟩
      exact Classical.not_not.mp fun hr => not_panics_dmaRead booted hr ⟨_, t, h⟩
  | write address size value =>
      refine ⟨fun ⟨t, h⟩ => ?_, fun h => ⟨bus, dmaWrite_reenters booted value h⟩⟩
      exact Classical.not_not.mp fun hr => not_panics_dmaWrite booted value hr ⟨_, t, h⟩
  | require holds cause =>
      refine iff_of_false ?_ id
      rintro ⟨t, h⟩
      cases holds with
      | true => cases h
      | false => exact sound.1 (by cases h; rfl)

end Accesses

section Notify

variable [Host]

/-- The store reaches the queue's notify register. -/
structure Notifies (bus : Bus) (address : U64) : Prop where
  located : bus.locate address 4 = some .virtio
  offset : bus.offset .virtio address = 0x050

theorem write_notify {bus : Bus} (booted : bus.Booted) {address : U64}
    (notifies : bus.Notifies address) (value : U64) :
    write address 4 value bus = VirtIOBlk.processQueue (value.setWidth 32) bus := by
  rw [write, writeWith_virtio booted.wf.bounded booted.virtio notifies.located, notifies.offset]
  rfl

end Notify

end Bus

end Riscvm.Rv64rs
