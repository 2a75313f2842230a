import Riscvm.Foundation.Agree
import Riscvm.Rv64rs.Disk

/-!
# Machines with variants of the block device

Two machines that differ in the state of the block device only are run side by side. The device
does its work with its disk and the registers of its rings; what else it holds may differ on the
two sides, and they read and write alike.
-/

namespace Riscvm.Rv64rs

open Exec

section Operators

variable [Host] {σ τ α : Type} {R : σ → τ → Prop} {w : Nat}

theorem agree_add (a b : BitVec w) :
    Agree R (add a b : Call σ (BitVec w)) (add a b : Call τ (BitVec w)) :=
  .ite (.throw _) (.pure _)

theorem agree_sub (a b : BitVec w) :
    Agree R (sub a b : Call σ (BitVec w)) (sub a b : Call τ (BitVec w)) :=
  .ite (.throw _) (.pure _)

theorem agree_mul (a b : BitVec w) :
    Agree R (mul a b : Call σ (BitVec w)) (mul a b : Call τ (BitVec w)) :=
  .ite (.throw _) (.pure _)

theorem agree_shl (a : BitVec w) (n : Nat) :
    Agree R (shl a n : Call σ (BitVec w)) (shl a n : Call τ (BitVec w)) :=
  .ite (.throw _) (.pure _)

theorem agree_allocate (n : Nat) : Agree R (allocate n : Call σ Unit) (allocate n : Call τ Unit) :=
  .ite (.throw _) (.ite (.throw _) (.pure _))

omit [Host] in
theorem agree_index (xs : List α) (i : Nat) :
    Agree R (index xs i : Call σ α) (index xs i : Call τ α) := by
  unfold index
  cases xs[i]? with
  | some x => exact .pure x
  | none => exact .throw _

omit [Host] in
theorem agree_slice (xs : List α) (a b : Nat) :
    Agree R (slice xs a b : Call σ (List α)) (slice xs a b : Call τ (List α)) :=
  .ite (.pure _) (.throw _)

omit [Host] in
theorem agree_copyFromSlice (xs : List α) (a b : Nat) (ys : List α) :
    Agree R (copyFromSlice xs a b ys : Call σ (List α))
      (copyFromSlice xs a b ys : Call τ (List α)) :=
  .ite (.pure _) (.throw _)

theorem Range.agree_contains (range : Range) (address size : U64) :
    Agree R (range.contains address size : Call σ Bool)
      (range.contains address size : Call τ Bool) := by
  unfold Range.contains
  cases checkedAdd address size with
  | some stop => exact .ite ((agree_add _ _).bind fun _ => .pure _) (.pure _)
  | none => exact .pure _

/-- The controller samples its lines alike when they are at the same levels. -/
theorem Plic.agree_read (plic : Plic) {status : IrqLine → Call σ U32}
    {status' : IrqLine → Call τ U32}
    (lines : ∀ line, Agree R (status line) (status' line)) (address : U64) (size : U8) :
    Agree R (plic.read status address size) (plic.read status' address size) := by
  have hmask : Agree R (plic.pendingMask status) (plic.pendingMask status') := by
    unfold Plic.pendingMask
    suffices h : ∀ mask : U32, Agree R (List.foldlM _ mask plic.devicesByIrq)
        (List.foldlM _ mask plic.devicesByIrq) from h 0
    induction plic.devicesByIrq with
    | nil => exact fun mask => .pure mask
    | cons device devices ih =>
        intro mask
        rw [List.foldlM_cons, List.foldlM_cons]
        refine .bind ((lines _).bind fun level => ?_) ih
        exact .ite ((agree_shl _ _).bind fun _ => .pure _) (.pure _)
  have hclaim (context : U64) :
      Agree R (plic.claimIrq status context) (plic.claimIrq status' context) :=
    hmask.bind fun _ => .pure _
  unfold Plic.read
  refine .ite (.throw _) (.ite (.pure _) (.ite (.pure _) (.ite ?_ (.pure _))))
  exact .ite (.pure _) (.ite ((hclaim _).bind fun _ => .pure _) (.pure _))

end Operators

namespace Bus

/-- Machines that differ in the state of the block device, and there as `D` allows. -/
def Variant (D : VirtIOBlk → VirtIOBlk → Prop) (bus bus' : Bus) : Prop :=
  ∃ device, D bus.dev.virtio device ∧ bus' = bus.withVirtio device

theorem Variant.mono {D D' : VirtIOBlk → VirtIOBlk → Prop} {bus bus' : Bus}
    (h : Variant D bus bus') (weaker : ∀ device device', D device device' → D' device device') :
    Variant D' bus bus' := by
  obtain ⟨device, related, rfl⟩ := h
  exact ⟨device, weaker _ _ related, rfl⟩

theorem Variant.trans {D : VirtIOBlk → VirtIOBlk → Prop} {bus bus' bus'' : Bus}
    (compose : ∀ {a b c}, D a b → D b c → D a c) (h : Variant D bus bus')
    (h' : Variant D bus' bus'') : Variant D bus bus'' := by
  obtain ⟨device, related, rfl⟩ := h
  obtain ⟨device', related', rfl⟩ := h'
  exact ⟨device', compose related related', rfl⟩

section Components

variable {D : VirtIOBlk → VirtIOBlk → Prop} {α γ : Type}

/-- A component that the block device is not part of. -/
theorem agree_component {view : Bus → γ} {put : γ → Bus → Bus} (x : Call γ α)
    (view_eq : ∀ bus device, view bus = view (bus.withVirtio device))
    (put_eq : ∀ bus device c, put c (bus.withVirtio device) = (put c bus).withVirtio device)
    (virtio_eq : ∀ bus c, (put c bus).dev.virtio = bus.dev.virtio) :
    Agree (Variant D) (zoom view put x) (zoom view put x) := by
  refine .zoom_same ?_ ?_
  · rintro bus _ ⟨device, -, rfl⟩
    exact view_eq bus device
  · rintro bus _ c ⟨device, related, rfl⟩
    exact ⟨device, (virtio_eq bus c).symm ▸ related, put_eq bus device c⟩

theorem agree_onRam (x : Call Ram α) : Agree (Variant D) (onRam x) (onRam x) :=
  agree_component x (fun _ _ => rfl) (fun _ _ _ => rfl) fun _ _ => rfl

theorem agree_onStack (x : Call Ram α) : Agree (Variant D) (onStack x) (onStack x) :=
  agree_component x (fun _ _ => rfl) (fun _ _ _ => rfl) fun _ _ => rfl

theorem agree_onBootloader (x : Call Ram α) :
    Agree (Variant D) (onBootloader x) (onBootloader x) :=
  agree_component x (fun _ _ => rfl) (fun _ _ _ => rfl) fun _ _ => rfl

theorem agree_onClint (x : Call Clint α) : Agree (Variant D) (onClint x) (onClint x) :=
  agree_component x (fun _ _ => rfl) (fun _ _ _ => rfl) fun _ _ => rfl

theorem agree_onUart (x : Call Uart α) : Agree (Variant D) (onUart x) (onUart x) :=
  agree_component x (fun _ _ => rfl) (fun _ _ _ => rfl) fun _ _ => rfl

theorem agree_onPlic (x : Call Plic α) : Agree (Variant D) (onPlic x) (onPlic x) :=
  agree_component x (fun _ _ => rfl) (fun _ _ _ => rfl) fun _ _ => rfl

/-- An update of the device on both sides. -/
theorem agree_update {f g : VirtIOBlk → VirtIOBlk}
    (related : ∀ device device', D device device' → D (f device) (g device')) :
    Agree (Variant D) (onVirtio (modify f)) (onVirtio (modify g)) := by
  rintro bus _ ⟨device, hrelated, rfl⟩
  exact .ok _ ⟨g device, related _ _ hrelated, rfl⟩

theorem agree_unwrap (handle : Bool) : Agree (Variant D) (unwrap handle) (unwrap handle) :=
  .ite (.pure _) (.throw _)

end Components

variable [Host] {D : VirtIOBlk → VirtIOBlk → Prop} {borrowed : Bool}

omit [Host] in
/-- The controller does not get to see the line of a device that is borrowed. -/
theorem agree_lineStatus {bus : Bus} {device : VirtIOBlk}
    (status : borrowed = false → device.interruptStatus = bus.dev.virtio.interruptStatus)
    (line : IrqLine) :
    Agree (Variant D) (lineStatus bus.dev borrowed line)
      (lineStatus (bus.withVirtio device).dev borrowed line) := by
  cases line with
  | uart => exact .pure _
  | external status => exact .pure _
  | virtio =>
      cases borrowed with
      | true => exact .throw _
      | false =>
          have hsame : (bus.withVirtio device).dev.virtio.interruptStatus =
              bus.dev.virtio.interruptStatus := status rfl
          rw [lineStatus, lineStatus, hsame]
          exact .pure _

theorem agree_readAt
    (status : borrowed = false →
      ∀ device device', D device device' → device'.interruptStatus = device.interruptStatus)
    (virtio : borrowed = false → ∀ address size,
      Agree (Variant D) (onVirtio (VirtIOBlk.read address size))
        (onVirtio (VirtIOBlk.read address size)))
    (address : U64) (size : U8) :
    Agree (Variant D) (readAt borrowed address size) (readAt borrowed address size) := by
  have hmmio : Agree (Variant D) (readMmio borrowed address size)
      (readMmio borrowed address size) := by
    refine .get_bind ?_
    rintro bus _ ⟨device, related, rfl⟩
    refine .bind (Range.agree_contains _ _ _) fun _ => .ite ?_ ?_
    · exact (agree_sub _ _).bind fun _ => agree_onBootloader _
    refine .bind (Range.agree_contains _ _ _) fun _ => .ite ?_ ?_
    · exact (agree_unwrap _).bind fun _ => (agree_sub _ _).bind fun _ => agree_onClint _
    refine .bind (Range.agree_contains _ _ _) fun _ => .ite ?_ ?_
    · exact (agree_unwrap _).bind fun _ => (agree_sub _ _).bind fun _ => agree_onUart _
    refine .bind (Range.agree_contains _ _ _) fun _ => .ite ?_ ?_
    · exact (agree_unwrap _).bind fun _ => (agree_sub _ _).bind fun _ => Plic.agree_read _
        (agree_lineStatus fun hfree => status hfree _ _ related) _ _
    refine .bind (Range.agree_contains _ _ _) fun _ => .ite ?_ (.throw _)
    refine (agree_unwrap _).bind fun _ => ?_
    cases borrowed with
    | true => exact .throw _
    | false => exact (agree_sub _ _).bind fun _ => virtio rfl _ _
  refine .get_bind ?_
  rintro bus _ ⟨device, related, rfl⟩
  refine .bind (Range.agree_contains _ _ _) fun _ => .ite ?_ ?_
  · exact (agree_sub _ _).bind fun _ => agree_onRam _
  refine .bind (Range.agree_contains _ _ _) fun _ => .ite ?_ hmmio
  exact (agree_sub _ _).bind fun _ => agree_onStack _

theorem agree_writeWith {virtioWrite : U64 → U8 → U64 → Call Bus Unit}
    (virtio : ∀ offset size value,
      Agree (Variant D) (virtioWrite offset size value) (virtioWrite offset size value))
    (address : U64) (size : U8) (value : U64) :
    Agree (Variant D) (writeWith virtioWrite address size value)
      (writeWith virtioWrite address size value) := by
  have hmmio : Agree (Variant D) (writeMmio virtioWrite address size value)
      (writeMmio virtioWrite address size value) := by
    refine .get_bind ?_
    rintro bus _ ⟨device, -, rfl⟩
    refine .bind (Range.agree_contains _ _ _) fun _ => .ite ?_ ?_
    · exact (agree_sub _ _).bind fun _ => agree_onBootloader _
    refine .bind (Range.agree_contains _ _ _) fun _ => .ite ?_ ?_
    · exact (agree_unwrap _).bind fun _ => (agree_sub _ _).bind fun _ => agree_onClint _
    refine .bind (Range.agree_contains _ _ _) fun _ => .ite ?_ ?_
    · exact (agree_unwrap _).bind fun _ => (agree_sub _ _).bind fun _ => agree_onUart _
    refine .bind (Range.agree_contains _ _ _) fun _ => .ite ?_ ?_
    · exact (agree_unwrap _).bind fun _ => (agree_sub _ _).bind fun _ => agree_onPlic _
    refine .bind (Range.agree_contains _ _ _) fun _ => .ite ?_ (.throw _)
    exact (agree_unwrap _).bind fun _ => (agree_sub _ _).bind fun _ => virtio _ _ _
  refine .get_bind ?_
  rintro bus _ ⟨device, -, rfl⟩
  refine .bind (Range.agree_contains _ _ _) fun _ => .ite ?_ ?_
  · exact (agree_sub _ _).bind fun _ => agree_onRam _
  refine .bind (Range.agree_contains _ _ _) fun _ => .ite ?_ hmmio
  exact (agree_sub _ _).bind fun _ => agree_onStack _

theorem agree_dmaRead (address : U64) (size : U8) :
    Agree (Variant D) (dmaRead address size) (dmaRead address size) := by
  have hborrowed : ¬true = false := by decide
  exact agree_readAt (fun hfree => absurd hfree hborrowed) (fun hfree => absurd hfree hborrowed)
    address size

theorem agree_dmaWrite (address : U64) (size : U8) (value : U64) :
    Agree (Variant D) (dmaWrite address size value) (dmaWrite address size value) :=
  agree_writeWith (fun _ _ _ => .throw _) address size value

/-- A read may return something else, but it does the same to both sides. -/
theorem variant_read {bus bus' : Bus} (wf : bus.Wf) (h : Variant D bus bus') (address : U64)
    (size : U8) : Variant D (finish (read address size bus)) (finish (read address size bus')) := by
  have hsame := h
  obtain ⟨device, related, rfl⟩ := h
  rw [read, readAt_eq wf.bounded, readAt_eq (wf.withVirtio device).bounded, locate_withVirtio]
  cases bus.locate address (size.setWidth 64) with
  | none => exact hsame
  | some w =>
      dsimp only
      rw [offset_withVirtio]
      cases w with
      | ram => exact (agree_onRam _ _ _ hsame).related
      | stack => exact (agree_onStack _ _ _ hsame).related
      | bootloader => exact (agree_onBootloader _ _ _ hsame).related
      | clint =>
          exact (((agree_unwrap bus.clint).bind fun _ => agree_onClint _) _ _ hsame).related
      | uart => exact (((agree_unwrap bus.uart).bind fun _ => agree_onUart _) _ _ hsame).related
      | plic =>
          have hlook : ReadOnly (readWindow false .plic (bus.offset .plic address) size) :=
            .get_bind fun bus => ((readOnly_unwrap _).bind fun _ =>
              Plic.readOnly_read _ (readOnly_lineStatus _ _) _ _) bus
          rwa [hlook, hlook]
      | virtio =>
          have hlook : ReadOnly (readWindow false .virtio (bus.offset .virtio address) size) :=
            .get_bind fun bus => ((readOnly_unwrap _).bind fun _ =>
              (VirtIOBlk.readOnly_read _ _).zoom fun _ => rfl) bus
          rwa [hlook, hlook]

/-- A write does the same to both sides where it does so to the device. -/
theorem variant_writeWith {virtioWrite : U64 → U8 → U64 → Call Bus Unit} {bus bus' : Bus}
    (wf : bus.Wf) (h : Variant D bus bus') {address : U64} {size : U8} {value : U64}
    (virtio : bus.locate address (size.setWidth 64) = some .virtio →
      Variant D (finish (virtioWrite (bus.offset .virtio address) size value bus))
        (finish (virtioWrite (bus.offset .virtio address) size value bus'))) :
    Variant D (finish (writeWith virtioWrite address size value bus))
      (finish (writeWith virtioWrite address size value bus')) := by
  have hsame := h
  obtain ⟨device, related, rfl⟩ := h
  rw [writeWith_eq wf.bounded, writeWith_eq (wf.withVirtio device).bounded, locate_withVirtio]
  cases hlocate : bus.locate address (size.setWidth 64) with
  | none => exact hsame
  | some w =>
      dsimp only
      rw [offset_withVirtio]
      cases w with
      | ram => exact (agree_onRam _ _ _ hsame).related
      | stack => exact (agree_onStack _ _ _ hsame).related
      | bootloader => exact (agree_onBootloader _ _ _ hsame).related
      | clint =>
          exact (((agree_unwrap bus.clint).bind fun _ => agree_onClint _) _ _ hsame).related
      | uart => exact (((agree_unwrap bus.uart).bind fun _ => agree_onUart _) _ _ hsame).related
      | plic => exact (((agree_unwrap bus.plic).bind fun _ => agree_onPlic _) _ _ hsame).related
      | virtio =>
          have hwrite := virtio hlocate
          dsimp only [writeWindow]
          rw [get_bind_apply, get_bind_apply,
            show (bus.withVirtio device).virtio = bus.virtio from rfl]
          cases bus.virtio with
          | true => exact hwrite
          | false => exact hsame

end Bus

namespace VirtIOBlk

open Bus

/-- Variants with the same disk and the same rings, whatever is stored on the disk. -/
structure SameRings (D : VirtIOBlk → VirtIOBlk → Prop) : Prop where
  disk : ∀ {device device'}, D device device' → device'.disk = device.disk
  setDisk : ∀ {device device'} (disk : List U8), D device device' →
    D { device with disk } { device' with disk }
  queueReady : ∀ {device device'}, D device device' → device'.queueReady = device.queueReady
  queueNum : ∀ {device device'}, D device device' → device'.queueNum = device.queueNum
  descAddr : ∀ {device device'}, D device device' → device'.descAddr = device.descAddr
  availAddr : ∀ {device device'}, D device device' → device'.availAddr = device.availAddr
  usedAddr : ∀ {device device'}, D device device' → device'.usedAddr = device.usedAddr

variable [Host] {D : VirtIOBlk → VirtIOBlk → Prop}

theorem agree_collectDescs (descBase : U64) (fuel : Nat) (idx : U16) (seen : List U16)
    (descs : List Desc) : Agree (Variant D) (collectDescs descBase fuel idx seen descs)
      (collectDescs descBase fuel idx seen descs) := by
  induction fuel generalizing idx seen descs with
  | zero => exact .throw _
  | succ fuel ih =>
      refine .ite (.pure _) ?_
      refine (agree_mul _ _).bind fun _ => (agree_add _ _).bind fun _ => ?_
      refine (agree_dmaRead _ _).bind fun _ => ?_
      refine (agree_add _ _).bind fun _ => (agree_dmaRead _ _).bind fun _ => ?_
      refine (agree_add _ _).bind fun _ => (agree_dmaRead _ _).bind fun _ => ?_
      refine (agree_add _ _).bind fun _ => (agree_dmaRead _ _).bind fun _ => ?_
      exact .ite (ih _ _ _) (.pure _)

theorem agree_writeBytes (base : U64) (i : Nat) (bytes : List U8) :
    Agree (Variant D) (writeBytes base i bytes) (writeBytes base i bytes) := by
  induction bytes generalizing i with
  | nil => exact .pure _
  | cons b bytes ih =>
      exact (agree_add _ _).bind fun _ => (agree_dmaWrite _ _ _).bind fun _ => ih _

theorem agree_readBytes (base : U64) (i n : Nat) :
    Agree (Variant D) (readBytes base i n) (readBytes base i n) := by
  induction n generalizing i with
  | zero => exact .pure _
  | succ n ih =>
      refine (agree_add _ _).bind fun _ => (agree_dmaRead _ _).bind fun _ => ?_
      exact (ih _).bind fun _ => .pure _

section Rings

variable (same : SameRings D)

include same

omit [Host] in
/-- A store to the disk. -/
theorem agree_setDisk (disk : List U8) :
    Agree (Variant D) (onVirtio (modify fun device => { device with disk }))
      (onVirtio (modify fun device => { device with disk })) :=
  agree_update fun _ _ related => same.setDisk disk related

theorem agree_growDisk (stop : U64) : Agree (Variant D) (growDisk stop) (growDisk stop) := by
  refine .get_bind ?_
  rintro bus _ ⟨device, related, rfl⟩
  rw [show (bus.withVirtio device).dev.virtio.disk = bus.dev.virtio.disk from same.disk related]
  exact .ite ((agree_allocate _).bind fun _ => agree_setDisk same _) (.pure _)

theorem agree_processDescriptorChain (descBase : U64) (head : U16) :
    Agree (Variant D) (processDescriptorChain descBase head)
      (processDescriptorChain descBase head) := by
  have hrest (status : Desc) : Agree (Variant D) (do dmaWrite status.addr 1 0; return (0 : U32))
      (do dmaWrite status.addr 1 0; return 0) :=
    (agree_dmaWrite _ _ _).bind fun _ => .pure _
  refine (agree_collectDescs _ _ _ _ _).bind fun descs => .ite (.pure _) ?_
  refine (agree_index _ _).bind fun header => (agree_index _ _).bind fun data => ?_
  refine (agree_index _ _).bind fun status => ?_
  refine (agree_dmaRead _ _).bind fun reqType => ?_
  refine (agree_add _ _).bind fun _ => (agree_dmaRead _ _).bind fun sector => ?_
  refine (agree_mul _ _).bind fun offset => .ite ?_ (.ite ?_ (hrest _))
  · refine (agree_add _ _).bind fun stop => (agree_growDisk same _).bind fun _ => .get_bind ?_
    rintro bus _ ⟨device, related, rfl⟩
    rw [show (bus.withVirtio device).dev.virtio.disk = bus.dev.virtio.disk from same.disk related]
    refine (agree_slice _ _ _).bind fun chunk => (agree_allocate _).bind fun _ => ?_
    exact (agree_writeBytes _ _ _).bind fun _ => hrest _
  · refine (agree_allocate _).bind fun _ => (agree_readBytes _ _ _).bind fun chunk => ?_
    refine (agree_add _ _).bind fun stop => (agree_growDisk same _).bind fun _ => .get_bind ?_
    rintro bus _ ⟨device, related, rfl⟩
    rw [show (bus.withVirtio device).dev.virtio.disk = bus.dev.virtio.disk from same.disk related]
    refine (agree_copyFromSlice _ _ _ _).bind fun disk => ?_
    exact (agree_setDisk same _).bind fun _ => hrest _

variable {device device' : VirtIOBlk} (related : D device device')

include related

theorem agree_serveChain (last usedIdx : U16) :
    Agree (Variant D) (serveChain device last usedIdx) (serveChain device' last usedIdx) := by
  unfold serveChain
  rw [same.queueNum related, same.availAddr related, same.descAddr related, same.usedAddr related]
  refine (agree_add _ _).bind fun _ => (agree_mul _ _).bind fun _ => ?_
  refine (agree_add _ _).bind fun _ => (agree_dmaRead _ _).bind fun _ => ?_
  refine (agree_processDescriptorChain same _ _).bind fun _ => ?_
  refine (agree_add _ _).bind fun _ => (agree_mul _ _).bind fun _ => ?_
  refine (agree_add _ _).bind fun _ => (agree_dmaWrite _ _ _).bind fun _ => ?_
  refine (agree_add _ _).bind fun _ => ?_
  exact (agree_dmaWrite _ _ _).bind fun _ => (agree_add _ _).bind fun _ => agree_dmaWrite _ _ _

theorem agree_serveChains (availIdx : U16) (fuel : Nat) (last usedIdx : U16) :
    Agree (Variant D) (serveChains device availIdx fuel last usedIdx)
      (serveChains device' availIdx fuel last usedIdx) := by
  induction fuel generalizing last usedIdx with
  | zero => exact .ite (.pure _) (.throw _)
  | succ fuel ih =>
      exact .ite (.pure _) ((agree_serveChain same related _ _).bind fun _ => ih _ _)

omit related

/-- A notify for which both sides hold the same cursor. -/
theorem agree_processQueue {queueIdx : U32}
    (cursor : ∀ {device device'}, D device device' →
      device'.lastAvailIdx queueIdx = device.lastAvailIdx queueIdx)
    (settle : ∀ {device device'} (last : U16), D device device' →
      D (device.settle queueIdx last) (device'.settle queueIdx last)) :
    Agree (Variant D) (processQueue queueIdx) (processQueue queueIdx) := by
  refine .get_bind ?_
  rintro bus _ ⟨device, related, rfl⟩
  change Agree _ _ (ite (device.queueReady = 0 ∨ device.queueNum = 0) _ _)
  rw [same.queueReady related, same.queueNum related]
  refine .ite (.pure _) ?_
  change Agree _ _ (add device.availAddr 2 >>= _)
  rw [same.availAddr related]
  refine (agree_add _ _).bind fun _ => (agree_dmaRead _ _).bind fun availIdx => ?_
  change Agree _ _ (add device.usedAddr 2 >>= _)
  rw [same.usedAddr related]
  refine (agree_add _ _).bind fun _ => (agree_dmaRead _ _).bind fun usedIdx => ?_
  change Agree _ _ (serveChains device _ _ ((device.lastAvailIdx queueIdx).getD _) _ >>= _)
  rw [cursor related]
  refine (agree_serveChains same related _ _ _ _).bind fun last => agree_update ?_
  exact fun device device' related => settle last related

end Rings

end VirtIOBlk

end Riscvm.Rv64rs
