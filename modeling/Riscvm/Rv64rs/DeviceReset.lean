import Riscvm.Rv64rs.Variants

/-!
# What a reset of the block device leaves behind

After a reset the device should be like a new one with the same disk. Two machines are run
side by side through the same bus accesses: they may differ in the feature word and the queue
selector the driver last stored, since nothing reads these back. A reset clears every other
register but the interrupt status.
-/

namespace Riscvm.Rv64rs

open Exec

/-- The registers whose values no driver can choose. -/
structure VirtIOBlk.Plain (device : VirtIOBlk) : Prop where
  features : device.deviceFeatures = 0
  interrupt : device.interruptStatus &&& ~~~1 = 0

namespace Bus

/-- The same machine with another feature word and queue selector stored. -/
def withDriver (bus : Bus) (driverFeatures queueSel : U32) : Bus :=
  { bus with
    dev := { bus.dev with virtio := { bus.dev.virtio with driverFeatures, queueSel } } }

/-- Machines that differ in nothing else. -/
def Twin (bus bus' : Bus) : Prop :=
  bus.dev.virtio.Plain ∧ ∃ driverFeatures queueSel, bus' = bus.withDriver driverFeatures queueSel

/-- What twins' devices may differ in. -/
def TwinDevice (device device' : VirtIOBlk) : Prop :=
  device.Plain ∧ ∃ driverFeatures queueSel,
    device' = { device with driverFeatures, queueSel }

theorem twin_eq : Twin = Variant TwinDevice := by
  funext bus bus'
  apply propext
  constructor
  · rintro ⟨plain, d, q, rfl⟩
    exact ⟨_, ⟨plain, d, q, rfl⟩, rfl⟩
  · rintro ⟨_, ⟨plain, d, q, rfl⟩, rfl⟩
    exact ⟨plain, d, q, rfl⟩

theorem sameRings_twin : VirtIOBlk.SameRings TwinDevice where
  disk := by
    rintro device _ ⟨-, d, q, rfl⟩
    rfl
  setDisk := by
    rintro device _ disk ⟨plain, d, q, rfl⟩
    exact ⟨⟨plain.features, plain.interrupt⟩, d, q, rfl⟩
  queueReady := by
    rintro device _ ⟨-, d, q, rfl⟩
    rfl
  queueNum := by
    rintro device _ ⟨-, d, q, rfl⟩
    rfl
  descAddr := by
    rintro device _ ⟨-, d, q, rfl⟩
    rfl
  availAddr := by
    rintro device _ ⟨-, d, q, rfl⟩
    rfl
  usedAddr := by
    rintro device _ ⟨-, d, q, rfl⟩
    rfl

/-- An update of the device that both twins see alike. -/
theorem agree_updateTwin {f g : VirtIOBlk → VirtIOBlk}
    (plain : ∀ device, device.Plain → (f device).Plain)
    (twin : ∀ device driverFeatures queueSel, ∃ driverFeatures' queueSel',
      g { device with driverFeatures, queueSel } =
        { f device with driverFeatures := driverFeatures', queueSel := queueSel' }) :
    Agree Twin (onVirtio (modify f)) (onVirtio (modify g)) := by
  rw [twin_eq]
  refine agree_update ?_
  rintro device _ ⟨hplain, d, q, rfl⟩
  exact ⟨plain _ hplain, twin device d q⟩

/-- No read returns the feature word or the queue selector. -/
theorem agree_virtioRead (address : U64) (size : U8) :
    Agree Twin (onVirtio (VirtIOBlk.read address size))
      (onVirtio (VirtIOBlk.read address size)) := by
  refine .zoom (S := fun device device' => device.Plain ∧ ∃ d q, device' =
    { device with driverFeatures := d, queueSel := q }) ?_ ?_ ?_
  · refine .ite (.throw _) (.get_bind ?_)
    rintro device _ ⟨-, d, q, rfl⟩
    split <;> exact .pure _
  · rintro bus _ ⟨plain, d, q, rfl⟩
    exact ⟨plain, d, q, rfl⟩
  · rintro bus _ device _ ⟨-, d, q, rfl⟩ ⟨plain, d', q', rfl⟩
    exact ⟨plain, d', q', rfl⟩

theorem agree_readTwin [Host] (address : U64) (size : U8) :
    Agree Twin (read address size) (read address size) := by
  have hread (address : U64) (size : U8) := agree_virtioRead address size
  rw [twin_eq] at hread ⊢
  refine agree_readAt (fun _ => ?_) (fun _ => hread) address size
  rintro device _ ⟨-, d, q, rfl⟩
  rfl

end Bus

namespace VirtIOBlk

open Bus

variable [Host]

omit [Host] in
/-- The interrupt status holds its one bit only. -/
theorem and_not_one_or_one {status : U32} (h : status &&& ~~~1 = 0) :
    (status ||| 1) &&& ~~~1 = 0 := by
  rw [BitVec.and_or_distrib_right, h]
  decide

omit [Host] in
theorem and_not_one_and {status : U32} (h : status &&& ~~~1 = 0) (mask : U32) :
    status &&& mask &&& ~~~1 = 0 := by
  rw [BitVec.and_assoc, BitVec.and_comm mask, ← BitVec.and_assoc, h]
  exact BitVec.zero_and

theorem agree_processQueueTwin (queueIdx : U32) :
    Agree Twin (processQueue queueIdx) (processQueue queueIdx) := by
  rw [twin_eq]
  refine agree_processQueue sameRings_twin ?_ ?_
  · rintro device _ ⟨-, d, q, rfl⟩
    rfl
  · rintro device _ last ⟨plain, d, q, rfl⟩
    exact ⟨⟨plain.features, and_not_one_or_one plain.interrupt⟩, d, q, rfl⟩

theorem agree_write (address : U64) (size : U8) (value : U64) :
    Agree Twin (VirtIOBlk.write address size value) (VirtIOBlk.write address size value) := by
  unfold VirtIOBlk.write
  refine .ite (.throw _) ?_
  have hplain {f : VirtIOBlk → VirtIOBlk}
      (features : ∀ device, (f device).deviceFeatures = device.deviceFeatures)
      (interrupt : ∀ device, (f device).interruptStatus = device.interruptStatus) :
      ∀ device : VirtIOBlk, device.Plain → (f device).Plain := fun device plain =>
    ⟨(features device).trans plain.features, by rw [interrupt]; exact plain.interrupt⟩
  split
  · exact agree_updateTwin (hplain (fun _ => rfl) fun _ => rfl) fun _ d q => ⟨_, q, rfl⟩
  · exact agree_updateTwin (hplain (fun _ => rfl) fun _ => rfl) fun _ d q => ⟨d, _, rfl⟩
  · exact agree_updateTwin (hplain (fun _ => rfl) fun _ => rfl) fun _ d q => ⟨d, q, rfl⟩
  · exact agree_updateTwin (hplain (fun _ => rfl) fun _ => rfl) fun _ d q => ⟨d, q, rfl⟩
  · exact agree_updateTwin (hplain (fun _ => rfl) fun _ => rfl) fun _ d q => ⟨d, q, rfl⟩
  · exact agree_updateTwin (hplain (fun _ => rfl) fun _ => rfl) fun _ d q => ⟨d, q, rfl⟩
  · exact agree_updateTwin (hplain (fun _ => rfl) fun _ => rfl) fun _ d q => ⟨d, q, rfl⟩
  · exact agree_updateTwin (hplain (fun _ => rfl) fun _ => rfl) fun _ d q => ⟨d, q, rfl⟩
  · exact agree_updateTwin (hplain (fun _ => rfl) fun _ => rfl) fun _ d q => ⟨d, q, rfl⟩
  · exact agree_updateTwin (hplain (fun _ => rfl) fun _ => rfl) fun _ d q => ⟨d, q, rfl⟩
  · exact agree_processQueueTwin _
  · refine agree_updateTwin (fun device plain => ?_) fun _ d q => ⟨d, q, rfl⟩
    exact ⟨plain.features, and_not_one_and plain.interrupt _⟩
  · by_cases hzero : value.setWidth 32 = (0 : U32)
    · simp only [hzero, if_true]
      exact agree_updateTwin (hplain (fun _ => rfl) fun _ => rfl) fun _ d q => ⟨d, q, rfl⟩
    · simp only [hzero, if_false]
      exact agree_updateTwin (hplain (fun _ => rfl) fun _ => rfl) fun _ d q => ⟨d, q, rfl⟩
  · exact .pure _

end VirtIOBlk

/-- An access to the bus, to a register of the device or to anything else. -/
inductive BusAccess where
  | read (address : U64) (size : U8)
  | write (address : U64) (size : U8) (value : U64)

namespace Bus

variable [Host]

def perform : BusAccess → Call Bus U64
  | .read address size => read address size
  | .write address size value => do
      write address size value
      return 0

/-- The machine after a sequence of accesses. -/
def after (bus : Bus) (accesses : List BusAccess) : Bus :=
  accesses.foldl (fun bus access => finish (perform access bus)) bus

omit [Host] in
/-- The two machines show the same memory, the same other devices, the same disk and the same
interrupt line. -/
structure SameView (bus bus' : Bus) : Prop where
  memory : ∀ w, bus.memory w = bus'.memory w
  clint : bus.dev.clint = bus'.dev.clint
  uart : bus.dev.uart = bus'.dev.uart
  plic : bus.dev.plic = bus'.dev.plic
  disk : bus.dev.virtio.disk = bus'.dev.virtio.disk
  line : bus.dev.virtio.interruptStatus &&& 1 = bus'.dev.virtio.interruptStatus &&& 1

/-- No sequence of accesses tells the two machines apart, by what an access returns or by
what is seen behind it. -/
def Indistinguishable (bus bus' : Bus) : Prop :=
  ∀ accesses, SameView (bus.after accesses) (bus'.after accesses) ∧
    ∀ access, answer (perform access (bus.after accesses)) =
      answer (perform access (bus'.after accesses))

theorem agree_perform (access : BusAccess) : Agree Twin (perform access) (perform access) := by
  cases access with
  | read address size => exact agree_readTwin address size
  | write address size value =>
      have hwrite (offset : U64) (size : U8) (value : U64) :=
        VirtIOBlk.agree_write offset size value
      rw [twin_eq] at hwrite ⊢
      exact (agree_writeWith hwrite _ _ _).bind fun _ => .pure _

theorem Twin.after {bus bus' : Bus} (twin : Twin bus bus') (accesses : List BusAccess) :
    Twin (bus.after accesses) (bus'.after accesses) := by
  induction accesses generalizing bus bus' with
  | nil => exact twin
  | cons access accesses ih => exact ih (agree_perform access _ _ twin).related

omit [Host] in
theorem Twin.sameView {bus bus' : Bus} (twin : Twin bus bus') : SameView bus bus' := by
  obtain ⟨-, d, q, rfl⟩ := twin
  exact ⟨fun w => by cases w <;> rfl, rfl, rfl, rfl, rfl, rfl⟩

theorem Twin.indistinguishable {bus bus' : Bus} (twin : Twin bus bus') :
    Indistinguishable bus bus' := fun accesses =>
  ⟨(twin.after accesses).sameView, fun access =>
    (agree_perform access _ _ (twin.after accesses)).answer_eq⟩

theorem plain_after {bus : Bus} (plain : bus.dev.virtio.Plain) (accesses : List BusAccess) :
    (bus.after accesses).dev.virtio.Plain := by
  have twin : Twin bus bus :=
    ⟨plain, bus.dev.virtio.driverFeatures, bus.dev.virtio.queueSel, rfl⟩
  exact (twin.after accesses).1

/-- The machine behind a store of 0 to the device's status register. -/
def reset (bus : Bus) : Bus := finish (VirtIOBlk.write 0x070 4 0 bus)

omit [Host] in
/-- The machine with a newly constructed device that holds the same disk. -/
def renew (bus : Bus) : Bus :=
  { bus with dev := { bus.dev with virtio := .new 0 (some bus.dev.virtio.disk) } }

theorem reset_eq (bus : Bus) : bus.reset =
    { bus with dev := { bus.dev with virtio := { bus.dev.virtio with status := 0 }.reset } } := rfl

omit [Host] in
theorem renew_eq (bus : Bus) : bus.renew =
    { bus with
      dev := { bus.dev with
        virtio := { (VirtIOBlk.new 0 none) with disk := bus.dev.virtio.disk } } } := by
  have hdisk : bus.dev.virtio.disk ++
      List.replicate ((0 : U64).toNat - bus.dev.virtio.disk.length) 0 = bus.dev.virtio.disk := by
    rw [show (0 : U64).toNat = 0 from rfl, Nat.zero_sub, List.replicate_zero, List.append_nil]
  exact congrArg (fun disk => { bus with dev := { bus.dev with
    virtio := { (VirtIOBlk.new 0 none) with disk } } }) hdisk

omit [Host] in
theorem plain_new (diskSize : U64) (diskImage : Option (List U8)) :
    (VirtIOBlk.new diskSize diskImage).Plain :=
  ⟨rfl, show (0 : U32) &&& ~~~1 = 0 by decide⟩

omit [Host] in
/-- A status of one bit that is clear is 0. -/
theorem eq_zero_of_and_one {status : U32} (h : status &&& ~~~1 = 0) (hone : status &&& 1 = 0) :
    status = 0 := by
  have hall : (~~~1 ||| 1 : U32) = BitVec.allOnes 32 := by decide
  have hsplit : status &&& (~~~1 ||| 1) = status := by
    rw [hall, BitVec.and_allOnes]
  rw [← hsplit, BitVec.and_or_distrib_left, h, hone]
  exact BitVec.zero_or

/-- After any accesses to a new device, a reset makes it like a new device with the same disk
exactly if its interrupt status is clear at that time. -/
theorem reset_forgets_iff (bus : Bus) (diskSize : U64) (diskImage : Option (List U8))
    (fresh : bus.dev.virtio = .new diskSize diskImage) (accesses : List BusAccess) :
    Indistinguishable (bus.after accesses).reset (bus.after accesses).renew ↔
      (bus.after accesses).dev.virtio.interruptStatus = 0 := by
  have hplain : (bus.after accesses).dev.virtio.Plain :=
    plain_after (fresh ▸ plain_new diskSize diskImage) accesses
  generalize bus.after accesses = bus at hplain ⊢
  constructor
  · intro same
    have hline : bus.dev.virtio.interruptStatus &&& 1 = 0 &&& 1 := (same []).1.line
    exact eq_zero_of_and_one hplain.interrupt (hline.trans (by decide))
  · intro hclear
    refine Twin.indistinguishable ⟨⟨hplain.features, hplain.interrupt⟩, 0, 0, ?_⟩
    have hfeatures := hplain.features
    rw [renew_eq, reset_eq]
    unfold withDriver VirtIOBlk.reset VirtIOBlk.new
    simp only [hclear, hfeatures]

omit [Host]

/-- A small machine with a new block device. -/
def withDisk : Bus :=
  { Bus.new { Devices.detached with virtio := .new 512 none } with
    ram := .new 16, ramRange := ⟨0x80000000, 16⟩
    virtio := true, virtioRange := ⟨0x10001000, 0x1000⟩ }

/-- The driver makes an empty queue ready and notifies it. -/
def notifyEmpty : List BusAccess :=
  [.write 0x10001038 4 1, .write 0x10001044 4 1, .write 0x10001090 4 0x80000000,
    .write 0x100010a0 4 0x80000008, .write 0x10001050 4 0]

theorem reset_forgets_iff_notifyEmpty :
    @Indistinguishable .dev (@reset .dev (@after .dev withDisk notifyEmpty))
      (@after .dev withDisk notifyEmpty).renew ↔
      (@after .dev withDisk notifyEmpty).dev.virtio.interruptStatus = 0 :=
  @reset_forgets_iff .dev withDisk 512 none rfl notifyEmpty

/-- The interrupt line stays high through the reset. -/
theorem reset_keeps_interrupt : ¬@Indistinguishable .dev
    (@reset .dev (@after .dev withDisk notifyEmpty)) (@after .dev withDisk notifyEmpty).renew := by
  let : Host := .dev
  intro same
  have hline := (same []).1.line
  revert hline
  decide

end Bus

end Riscvm.Rv64rs
