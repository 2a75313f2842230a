import Riscvm.Rv64rs.DeviceReset
import Riscvm.Rv64rs.Resume

/-!
# Accesses for other queues

The device has one set of ring registers, never consults the queue selector, and keeps a cursor
for each index that it is notified of. What the driver does for another queue therefore reaches
the rings of queue 0. It leaves queue 0 alone where each notify of queue 0 finds the registers as
they were set up for it, and a notify of another queue finds nothing to serve by the cursor of
its own index.
-/

namespace Riscvm.Rv64rs

open Bytes Exec

namespace VirtIOBlk

open Bus

/-- No queue is set up, and a notify does nothing. -/
abbrev Disabled (device : VirtIOBlk) : Prop := device.queueReady = 0 ∨ device.queueNum = 0

section Notifies

variable [Host]

/-! ## What a notify executes -/

/-- The first access of a round: the head at the position `last` of the available ring. -/
def headAt (device : VirtIOBlk) (last : U16) : Call Bus U16 := do
  let slot := last.setWidth 64 % device.queueNum.setWidth 64
  let ringOff ← add (← add device.availAddr 4) (← mul slot 2)
  return (← dmaRead ringOff 2).setWidth 16

/-- The rounds that the loop begins, each with its position and the head found there. -/
def begun (device : VirtIOBlk) (availIdx : U16) : (fuel : Nat) → (last usedIdx : U16) → Bus →
    List (U16 × Except Fault U16)
  | 0, _, _, _ => []
  | fuel + 1, last, usedIdx, bus =>
      if last = availIdx then []
      else (last, answer (headAt device last bus)) ::
        match serveChain device last usedIdx bus with
        | .ok _ bus' => begun device availIdx fuel (last + 1) (usedIdx + 1) bus'
        | .error _ _ => []

/-- The indices that a notify reads before its loop. -/
def ringIndices (device : VirtIOBlk) : Call Bus (U16 × U16) := do
  let availIdx ← ringIndex device.availAddr
  let usedIdx ← ringIndex device.usedAddr
  return (availIdx, usedIdx)

/-- The rounds of a notify. -/
def notifyRounds (queueIdx : U32) (bus : Bus) : List (U16 × Except Fault U16) :=
  if Disabled bus.dev.virtio then []
  else
    match ringIndices bus.dev.virtio bus with
    | .ok (availIdx, usedIdx) bus' =>
        begun bus.dev.virtio availIdx 65536 (startOf queueIdx bus usedIdx) usedIdx bus'
    | .error _ _ => []

/-- With these indices the loop has nothing to serve, or the notify returns `Err` before it. -/
def NothingToServe (start : U16 → U16) : EStateM.Result Fault Bus (U16 × U16) → Prop
  | .ok (availIdx, usedIdx) _ => start usedIdx = availIdx
  | .error (.err _) _ => True
  | .error (.panic _) _ => False

instance (start : U16 → U16) : DecidablePred (NothingToServe start)
  | .ok (availIdx, usedIdx) _ => inferInstanceAs (Decidable (start usedIdx = availIdx))
  | .error (.err _) _ => .isTrue trivial
  | .error (.panic _) _ => .isFalse id

/-- A notify finds the queue not set up, or nothing outstanding by the cursor of its index. -/
def Idle (queueIdx : U32) (bus : Bus) : Prop :=
  Disabled bus.dev.virtio ∨
    NothingToServe (startOf queueIdx bus) (ringIndices bus.dev.virtio bus)

instance (queueIdx : U32) (bus : Bus) : Decidable (Idle queueIdx bus) :=
  inferInstanceAs (Decidable (_ ∨ _))

variable {queueIdx : U32} {bus : Bus}

theorem processQueue_eq (queueIdx : U32) (bus : Bus) :
    processQueue queueIdx bus =
      if Disabled bus.dev.virtio then .ok () bus
      else (do
        let indices ← ringIndices bus.dev.virtio
        let last ← serveChains bus.dev.virtio indices.1 65536 (startOf queueIdx bus indices.2)
          indices.2
        onVirtio (modify fun device : VirtIOBlk => device.settle queueIdx last)) bus := by
  rw [processQueue, get_bind_apply]
  dsimp only
  rw [run_ite]
  simp only [ringIndices, ringIndex, bind_assoc, pure_bind]
  rfl

/-- A round reads its head first. -/
theorem serveChain_headAt (device : VirtIOBlk) (last usedIdx : U16) :
    serveChain device last usedIdx = (do
      let head ← headAt device last
      let length ← processDescriptorChain device.descAddr head
      let usedSlot := usedIdx.setWidth 64 % device.queueNum.setWidth 64
      let usedElemOff ← add (← add device.usedAddr 4) (← mul usedSlot 8)
      dmaWrite usedElemOff 4 (head.setWidth 64)
      dmaWrite (← add usedElemOff 4) 4 (length.setWidth 64)
      dmaWrite (← add device.usedAddr 2) 2 ((usedIdx + 1).setWidth 64)) := by
  simp only [serveChain, headAt, bind_assoc, pure_bind]

/-- The rounds listed are those that the loop begins. -/
theorem getElem?_begun {device : VirtIOBlk} {availIdx last usedIdx : U16} {fuel : Nat}
    (enough : (availIdx - last).toNat ≤ fuel) {n : Nat} {p : U16} {head : Except Fault U16} :
    (begun device availIdx fuel last usedIdx bus)[n]? = some (p, head) ↔
      ∃ bus', Completes device availIdx last usedIdx bus n bus' ∧
        p = last + BitVec.ofNat 16 n ∧ p ≠ availIdx ∧ head = answer (headAt device p bus') := by
  -- behind the last position there is nothing to list
  have hend {last usedIdx : U16} {bus : Bus} {n : Nat} (h : last = availIdx) :
      ¬∃ bus', Completes device availIdx last usedIdx bus n bus' ∧
        p = last + BitVec.ofNat 16 n ∧ p ≠ availIdx ∧ head = answer (headAt device p bus') := by
    rintro ⟨bus', completed, hp, hmore, -⟩
    have hle := completed.le_distance
    bv_omega
  induction fuel generalizing last usedIdx bus n with
  | zero =>
      have heq : last = availIdx := by bv_omega
      exact iff_of_false nofun (hend heq)
  | succ fuel ih =>
      rw [begun]
      by_cases heq : last = availIdx
      · rw [if_pos heq]
        exact iff_of_false nofun (hend heq)
      · rw [if_neg heq]
        cases n with
        | zero =>
            rw [List.getElem?_cons_zero, Option.some_inj, Prod.mk.injEq]
            constructor
            · rintro ⟨rfl, rfl⟩
              exact ⟨bus, .done, (BitVec.add_zero _).symm, heq, rfl⟩
            · rintro ⟨bus', completed, hp, -, hhead⟩
              cases completed
              rw [BitVec.add_zero] at hp
              exact ⟨hp.symm, hp ▸ hhead.symm⟩
        | succ n =>
            rw [distance_succ heq] at enough
            rw [List.getElem?_cons_succ, ← succ_position]
            cases hserve : serveChain device last usedIdx bus with
            | ok u bus₁ =>
                refine (ih (Nat.le_of_succ_le_succ enough)).trans ?_
                constructor
                · rintro ⟨bus', completed, h⟩
                  exact ⟨bus', .round heq hserve completed, h⟩
                · rintro ⟨bus', completed, h⟩
                  cases completed with
                  | round more served rest =>
                      cases hserve.symm.trans served
                      exact ⟨bus', rest, h⟩
            | error e bus₁ =>
                refine iff_of_false nofun ?_
                rintro ⟨bus', completed, -⟩
                cases completed with
                | round more served rest => cases hserve.symm.trans served

theorem readOnly_ringIndex (ring : U64) : ReadOnly (ringIndex ring) :=
  (readOnly_add _ _).bind fun _ => (readOnly_readAt true _ (by decide)).bind fun _ => .pure _

theorem readOnly_ringIndices (device : VirtIOBlk) : ReadOnly (ringIndices device) :=
  (readOnly_ringIndex _).bind fun _ => (readOnly_ringIndex _).bind fun _ => .pure _

/-- An idle notify begins no round, and changes at most the cursor of its index. -/
theorem idle_spec (idle : Idle queueIdx bus) : notifyRounds queueIdx bus = [] ∧
    (finish (processQueue queueIdx bus) = bus ∨
      ∃ last, finish (processQueue queueIdx bus) =
        bus.withVirtio (bus.dev.virtio.settle queueIdx last)) := by
  rw [processQueue_eq, notifyRounds]
  by_cases disabled : Disabled bus.dev.virtio
  · rw [if_pos disabled, if_pos disabled]
    exact ⟨rfl, .inl rfl⟩
  rw [if_neg disabled, if_neg disabled, bind_apply]
  have hsettled := idle.resolve_left disabled
  have hreadOnly := readOnly_ringIndices bus.dev.virtio bus
  generalize ringIndices bus.dev.virtio bus = r at hsettled hreadOnly ⊢
  cases r with
  | error e bus₁ => exact ⟨rfl, .inl hreadOnly⟩
  | ok indices bus₁ =>
      obtain ⟨availIdx, usedIdx⟩ := indices
      obtain rfl : bus₁ = bus := hreadOnly
      dsimp only
      rw [show startOf queueIdx bus₁ usedIdx = availIdx from hsettled, serveChains, if_pos rfl,
        begun, if_pos rfl]
      exact ⟨rfl, .inr ⟨availIdx, rfl⟩⟩

theorem enters_iff {availIdx usedIdx : U16} : Enters bus availIdx usedIdx ↔
    ¬Disabled bus.dev.virtio ∧ ringIndices bus.dev.virtio bus = .ok (availIdx, usedIdx) bus := by
  constructor
  · intro enters
    refine ⟨enters.ready, ?_⟩
    rw [ringIndices, bind_ok enters.avail, bind_ok enters.used]
    rfl
  · rintro ⟨ready, run⟩
    obtain ⟨a, bus₁, havail, run⟩ := bind_eq_ok.mp run
    obtain ⟨u, bus₂, hused, run⟩ := bind_eq_ok.mp run
    obtain ⟨hindices, hend⟩ := EStateM.Result.ok.inj run
    cases hindices
    subst hend
    obtain rfl := (readOnly_ringIndex _).state_eq havail
    exact ⟨ready, havail, hused⟩

/-- The rounds of a notify are those that it begins. -/
theorem begins_iff {n : Nat} {p : U16} : Begins queueIdx bus n p ↔
    ∃ head, (notifyRounds queueIdx bus)[n]? = some (p, head) := by
  constructor
  · rintro ⟨availIdx, usedIdx, bus', enters, completed, hp, hmore⟩
    obtain ⟨ready, hindices⟩ := enters_iff.mp enters
    refine ⟨answer (headAt bus.dev.virtio p bus'), ?_⟩
    rw [notifyRounds, if_neg ready, hindices]
    exact (getElem?_begun (Nat.le_of_lt (BitVec.isLt _))).mpr ⟨bus', completed, hp, hmore, rfl⟩
  · rintro ⟨head, h⟩
    rw [notifyRounds] at h
    split at h
    next => cases h
    next ready =>
      split at h
      next availIdx usedIdx bus₁ hindices =>
        obtain rfl := (readOnly_ringIndices _).state_eq hindices
        obtain ⟨bus', completed, hp, hmore, -⟩ :=
          (getElem?_begun (Nat.le_of_lt (BitVec.isLt _))).mp h
        exact ⟨availIdx, usedIdx, bus', enters_iff.mpr ⟨ready, hindices⟩, completed, hp, hmore⟩
      next => cases h

end Notifies

/-! ## Devices side by side -/

/-- The two devices may differ in the ring registers, the selector, the interrupt status and the
cursors of other queues. -/
structure Beside (device device' : VirtIOBlk) : Prop where
  disk : device'.disk = device.disk
  deviceFeatures : device'.deviceFeatures = device.deviceFeatures
  driverFeatures : device'.driverFeatures = device.driverFeatures
  status : device'.status = device.status
  cursor : device'.lastAvailIdx 0 = device.lastAvailIdx 0

/-- The registers of the rings are the same. -/
def SameRegisters (device device' : VirtIOBlk) : Prop :=
  device'.queueReady = device.queueReady ∧ device'.queueNum = device.queueNum ∧
    device'.descAddr = device.descAddr ∧ device'.availAddr = device.availAddr ∧
    device'.usedAddr = device.usedAddr

instance (device device' : VirtIOBlk) : Decidable (SameRegisters device device') :=
  inferInstanceAs (Decidable (_ ∧ _))

theorem Beside.refl (device : VirtIOBlk) : Beside device device := ⟨rfl, rfl, rfl, rfl, rfl⟩

theorem Beside.symm {device device' : VirtIOBlk} (h : Beside device device') :
    Beside device' device :=
  ⟨h.disk.symm, h.deviceFeatures.symm, h.driverFeatures.symm, h.status.symm, h.cursor.symm⟩

theorem Beside.trans {device device' device'' : VirtIOBlk} (h : Beside device device')
    (h' : Beside device' device'') : Beside device device'' :=
  ⟨h'.disk.trans h.disk, h'.deviceFeatures.trans h.deviceFeatures,
    h'.driverFeatures.trans h.driverFeatures, h'.status.trans h.status, h'.cursor.trans h.cursor⟩

theorem beside_settle (device : VirtIOBlk) {queueIdx : U32} (other : queueIdx ≠ 0) (last : U16) :
    Beside device (device.settle queueIdx last) :=
  ⟨rfl, rfl, rfl, rfl, if_neg other.symm⟩

/-- What a notify of queue 0 sees of either device. -/
def Alongside (device device' : VirtIOBlk) : Prop :=
  Beside device device' ∧ SameRegisters device device'

theorem sameRings_alongside : SameRings Alongside where
  disk h := h.1.disk
  setDisk _ h := ⟨⟨rfl, h.1.deviceFeatures, h.1.driverFeatures, h.1.status, h.1.cursor⟩, h.2⟩
  queueReady h := h.2.1
  queueNum h := h.2.2.1
  descAddr h := h.2.2.2.1
  availAddr h := h.2.2.2.2.1
  usedAddr h := h.2.2.2.2.2

section Devices

variable [Host]

theorem agree_headAt {device device' : VirtIOBlk} (related : Alongside device device')
    (last : U16) : Agree (Variant Alongside) (headAt device last) (headAt device' last) := by
  unfold headAt
  rw [sameRings_alongside.queueNum related, sameRings_alongside.availAddr related]
  refine (agree_add _ _).bind fun _ => (agree_mul _ _).bind fun _ => ?_
  exact (agree_add _ _).bind fun _ => (agree_dmaRead _ _).bind fun _ => .pure _

theorem agree_ringIndices {device device' : VirtIOBlk} (related : Alongside device device') :
    Agree (Variant Alongside) (ringIndices device) (ringIndices device') := by
  have hindex (ring : U64) : Agree (Variant Alongside) (ringIndex ring) (ringIndex ring) :=
    (agree_add _ _).bind fun _ => (agree_dmaRead _ _).bind fun _ => .pure _
  unfold ringIndices
  rw [sameRings_alongside.availAddr related, sameRings_alongside.usedAddr related]
  exact (hindex _).bind fun _ => (hindex _).bind fun _ => .pure _

theorem begun_eq {device device' : VirtIOBlk} (related : Alongside device device')
    (availIdx : U16) (fuel : Nat) (last usedIdx : U16) {bus bus' : Bus}
    (h : Variant Alongside bus bus') :
    begun device' availIdx fuel last usedIdx bus' =
      begun device availIdx fuel last usedIdx bus := by
  induction fuel generalizing last usedIdx bus bus' with
  | zero => rfl
  | succ fuel ih =>
      have hhead := (agree_headAt related last _ _ h).answer_eq
      have hserve := agree_serveChain sameRings_alongside related last usedIdx _ _ h
      rw [begun, begun, hhead]
      generalize serveChain device last usedIdx bus = r, serveChain device' last usedIdx bus' = r'
        at hserve
      cases hserve with
      | ok _ h => simp only [ih _ _ h]
      | error _ _ => rfl

/-- A notify of queue 0 begins the same rounds. -/
theorem notifyRounds_eq {bus bus' : Bus} (h : Variant Alongside bus bus') :
    notifyRounds 0 bus' = notifyRounds 0 bus := by
  obtain ⟨device, related, rfl⟩ := h
  have hindices := agree_ringIndices related _ _ ⟨device, related, rfl⟩
  have hdisabled : Disabled device ↔ Disabled bus.dev.virtio := by
    rw [Disabled, sameRings_alongside.queueReady related, sameRings_alongside.queueNum related]
  have hstart (usedIdx : U16) : startOf 0 (bus.withVirtio device) usedIdx = startOf 0 bus usedIdx :=
    congrArg (Option.getD · usedIdx) related.1.cursor
  simp only [notifyRounds, show (bus.withVirtio device).dev.virtio = device from rfl, hdisabled]
  generalize ringIndices bus.dev.virtio bus = r, ringIndices device (bus.withVirtio device) = r'
    at hindices
  cases hindices with
  | ok indices h =>
      dsimp only
      rw [hstart, begun_eq related _ _ _ _ h]
  | error _ _ => rfl

end Devices

end VirtIOBlk

/-! ## Accesses side by side -/

namespace Bus

open VirtIOBlk

/-- The register of the device that an access stores to, and what it stores. -/
def registerStore (bus : Bus) : BusAccess → Option (U64 × U64)
  | .read _ _ => none
  | .write address size value =>
      if size = 4 ∧ bus.locate address 4 = some .virtio then
        some (bus.offset .virtio address, value)
      else none

section Accesses

variable [Host] {bus bus' : Bus}

/-- The machine after an access. -/
def step (bus : Bus) (access : BusAccess) : Bus := finish (perform access bus)

/-- A store to a register of the device. -/
theorem step_registerStore (wf : bus.Wf) (held : bus.virtio = true) {access : BusAccess}
    {offset value : U64} (h : bus.registerStore access = some (offset, value)) :
    bus.step access = finish (VirtIOBlk.write offset 4 value bus) := by
  cases access with
  | read address size => cases h
  | write address size value' =>
      rw [registerStore] at h
      split at h
      next located =>
        obtain ⟨rfl, hlocate⟩ := located
        cases h
        rw [step, perform, bind_apply, write, writeWith_virtio wf.bounded held hlocate]
        cases VirtIOBlk.write (bus.offset .virtio address) 4 value bus with
        | ok _ _ => rfl
        | error _ _ => rfl
      next => cases h

omit [Host] in
theorem registerStore_eq (h : Variant Beside bus bus') (access : BusAccess) :
    bus'.registerStore access = bus.registerStore access := by
  obtain ⟨device, -, rfl⟩ := h
  cases access with
  | read address size => rfl
  | write address size value =>
      simp only [registerStore, locate_withVirtio, offset_withVirtio]

omit [Host] in
theorem variant_refl (bus : Bus) : Variant Beside bus bus := ⟨_, .refl _, rfl⟩

/-- A notify of queue 0 that finds its own rings, or none at all. -/
theorem variant_processQueue (h : Variant Beside bus bus')
    (rings : SameRegisters bus.dev.virtio bus'.dev.virtio ∨
      Disabled bus.dev.virtio ∧ Disabled bus'.dev.virtio) :
    Variant Beside (finish (processQueue 0 bus)) (finish (processQueue 0 bus')) ∧
      notifyRounds 0 bus' = notifyRounds 0 bus := by
  obtain same | ⟨disabled, disabled'⟩ := rings
  · have halong : Variant Alongside bus bus' := by
      obtain ⟨device, related, rfl⟩ := h
      exact ⟨device, ⟨related, same⟩, rfl⟩
    refine ⟨(agree_processQueue sameRings_alongside ?_ ?_ _ _ halong).related.mono ?_,
      notifyRounds_eq halong⟩
    · exact fun related => related.1.cursor
    · intro device device' last related
      exact ⟨⟨related.1.disk, related.1.deviceFeatures, related.1.driverFeatures,
        related.1.status, rfl⟩, related.2⟩
    · exact fun device device' related => related.1
  · rw [processQueue_eq, processQueue_eq, notifyRounds, notifyRounds, if_pos disabled,
      if_pos disabled', if_pos disabled, if_pos disabled']
    exact ⟨h, rfl⟩

/-- Every other register takes a store alike on both sides. -/
theorem agree_writeBeside {offset : U64} (hoffset : offset ≠ 0x050) (size : U8) (value : U64) :
    Agree (Variant Beside) (VirtIOBlk.write offset size value)
      (VirtIOBlk.write offset size value) := by
  have hkeep {f : VirtIOBlk → VirtIOBlk} (h : ∀ device, Beside device (f device)) :
      Agree (Variant Beside) (onVirtio (modify f)) (onVirtio (modify f)) :=
    agree_update fun device device' related => ((h device).symm.trans related).trans (h device')
  unfold VirtIOBlk.write
  refine .ite (.throw _) ?_
  split
  · exact agree_update fun _ _ h => ⟨h.disk, h.deviceFeatures, rfl, h.status, h.cursor⟩
  · exact hkeep fun _ => ⟨rfl, rfl, rfl, rfl, rfl⟩
  · exact hkeep fun _ => ⟨rfl, rfl, rfl, rfl, rfl⟩
  · exact hkeep fun _ => ⟨rfl, rfl, rfl, rfl, rfl⟩
  · exact hkeep fun _ => ⟨rfl, rfl, rfl, rfl, rfl⟩
  · exact hkeep fun _ => ⟨rfl, rfl, rfl, rfl, rfl⟩
  · exact hkeep fun _ => ⟨rfl, rfl, rfl, rfl, rfl⟩
  · exact hkeep fun _ => ⟨rfl, rfl, rfl, rfl, rfl⟩
  · exact hkeep fun _ => ⟨rfl, rfl, rfl, rfl, rfl⟩
  · exact hkeep fun _ => ⟨rfl, rfl, rfl, rfl, rfl⟩
  · exact absurd rfl hoffset
  · exact hkeep fun _ => ⟨rfl, rfl, rfl, rfl, rfl⟩
  · refine agree_update fun device device' h => ?_
    by_cases hzero : value.setWidth 32 = (0 : U32)
    · simp only [hzero, if_true]
      exact ⟨h.disk, h.deviceFeatures, h.driverFeatures, rfl, rfl⟩
    · simp only [hzero, if_false]
      exact ⟨h.disk, h.deviceFeatures, h.driverFeatures, rfl, h.cursor⟩
  · exact .pure _

/-- The registers of a queue. -/
def queueRegisters : List U64 := [0x038, 0x044, 0x080, 0x084, 0x090, 0x094, 0x0a0, 0x0a4]

/-- The selector and the registers of a queue leave the device within the limits. -/
theorem variant_configure {offset : U64} (hoffset : offset ∈ 0x030 :: queueRegisters)
    (value : U64) (bus : Bus) :
    Variant Beside bus (finish (VirtIOBlk.write offset 4 value bus)) := by
  simp only [queueRegisters, List.mem_cons, List.not_mem_nil, or_false] at hoffset
  obtain rfl | rfl | rfl | rfl | rfl | rfl | rfl | rfl | rfl := hoffset
  all_goals
    refine ⟨_, ?_, rfl⟩
    exact ⟨rfl, rfl, rfl, rfl, rfl⟩

/-- The index that an access notifies the device of. -/
def notified (bus : Bus) (access : BusAccess) : Option U32 := do
  let (offset, value) ← bus.registerStore access
  if offset = 0x050 then some (value.setWidth 32) else none

/-- The rounds that an access begins. -/
def roundsOf (bus : Bus) (access : BusAccess) : List (U16 × Except Fault U16) :=
  match bus.notified access with
  | some queueIdx => notifyRounds queueIdx bus
  | none => []

/-- The rounds of a run. -/
def rounds : Bus → List BusAccess → List (U16 × Except Fault U16)
  | _, [] => []
  | bus, access :: accesses => bus.roundsOf access ++ rounds (bus.step access) accesses

theorem variant_write (wf : bus.Wf) (h : Variant Beside bus bus') {address : U64} {size : U8}
    {value : U64} (rings : ∀ q ∈ bus.notified (.write address size value),
      q = 0 ∧ (SameRegisters bus.dev.virtio bus'.dev.virtio ∨
        Disabled bus.dev.virtio ∧ Disabled bus'.dev.virtio)) :
    Variant Beside (finish (write address size value bus))
      (finish (write address size value bus')) := by
  refine variant_writeWith wf h fun hlocate => ?_
  by_cases hnotify : size = 4 ∧ bus.offset .virtio address = 0x050
  · obtain ⟨rfl, hoffset⟩ := hnotify
    have hnotified : bus.notified (.write address 4 value) = some (value.setWidth 32) := by
      rw [notified, registerStore, if_pos ⟨rfl, hlocate⟩, hoffset]
      rfl
    obtain ⟨hzero, hrings⟩ := rings _ hnotified
    rw [hoffset]
    change Variant Beside (finish (processQueue (value.setWidth 32) bus))
      (finish (processQueue (value.setWidth 32) bus'))
    rw [hzero]
    exact (variant_processQueue h hrings).1
  · by_cases hsize : size = 4
    · exact (agree_writeBeside (fun hoffset => hnotify ⟨hsize, hoffset⟩) _ _ _ _ h).related
    · unfold VirtIOBlk.write
      rw [if_pos hsize]
      exact h

theorem keepsShape_perform (access : BusAccess) : KeepsShape (perform access) := by
  cases access with
  | read address size => exact keepsShape_readAt false address size
  | write address size value => exact (keepsShape_write _ _ _).bind fun _ => .readOnly (.pure _)

theorem sameShape_step (bus : Bus) (access : BusAccess) : SameShape bus (bus.step access) :=
  keepsShape_perform access bus

/-! ## Runs with insertions -/

/-- An access of the driver for queue 0 does not notify another queue. -/
def OwnAccess (bus : Bus) (access : BusAccess) : Prop := ∀ q ∈ bus.notified access, q = 0

/-- An access for another queue: a store to the selector, a configuration write made while the
selector names another queue, or a notify with another index. -/
def OtherAccess (bus : Bus) (access : BusAccess) : Prop :=
  ∃ store ∈ bus.registerStore access,
    store.1 = 0x030 ∨ store.1 ∈ queueRegisters ∧ bus.dev.virtio.queueSel ≠ 0 ∨
      store.1 = 0x050 ∧ store.2.setWidth 32 ≠ (0 : U32)

/-- A notify of queue 0 finds its rings in the registers, or no queue set up on either side. -/
def FindsRings (bus bus' : Bus) (access : BusAccess) : Prop :=
  bus'.notified access ≠ none → SameRegisters bus.dev.virtio bus'.dev.virtio ∨
    Disabled bus.dev.virtio ∧ Disabled bus'.dev.virtio

/-- An inserted notify finds nothing to serve. -/
def NotifiesIdle (bus : Bus) (access : BusAccess) : Prop :=
  ∀ queueIdx ∈ bus.notified access, Idle queueIdx bus

instance (bus : Bus) (access : BusAccess) : Decidable (OwnAccess bus access) :=
  Option.decidableForallMem (bus.notified access)

instance (bus : Bus) (access : BusAccess) : Decidable (OtherAccess bus access) :=
  Option.decidableExistsMem (bus.registerStore access)

instance (bus bus' : Bus) (access : BusAccess) : Decidable (FindsRings bus bus' access) :=
  inferInstanceAs (Decidable (_ → _))

instance (bus : Bus) (access : BusAccess) : Decidable (NotifiesIdle bus access) :=
  Option.decidableForallMem (bus.notified access)

theorem own_step (wf : bus.Wf) (h : Variant Beside bus bus') {access : BusAccess}
    (own : OwnAccess bus' access) (finds : FindsRings bus bus' access) :
    Variant Beside (bus.step access) (bus'.step access) ∧
      bus'.roundsOf access = bus.roundsOf access := by
  have hnotified : bus'.notified access = bus.notified access := by
    rw [notified, notified, registerStore_eq h]
  constructor
  · cases access with
    | read address size => exact variant_read wf h address size
    | write address size value =>
        have hfinish (bus : Bus) : bus.step (.write address size value) =
            finish (write address size value bus) := by
          rw [step, perform, bind_apply]
          cases write address size value bus with
          | ok _ _ => rfl
          | error _ _ => rfl
        rw [hfinish, hfinish]
        refine variant_write wf h fun q hq => ?_
        rw [← hnotified] at hq
        exact ⟨own q hq, finds (Option.ne_none_iff_exists'.mpr ⟨q, hq⟩)⟩
  · rw [roundsOf, roundsOf, hnotified]
    cases hq : bus.notified access with
    | none => rfl
    | some queueIdx =>
        obtain rfl := own queueIdx (hnotified.trans hq)
        exact (variant_processQueue h (finds (by rw [hnotified, hq]; exact nofun))).2

theorem other_step (wf : bus.Wf) (held : bus.virtio = true) {access : BusAccess}
    (other : OtherAccess bus access) (idle : NotifiesIdle bus access) :
    Variant Beside bus (bus.step access) ∧ bus.roundsOf access = [] := by
  obtain ⟨⟨offset, value⟩, hstore, hother⟩ := other
  rw [step_registerStore wf held hstore]
  by_cases hnotify : offset = 0x050
  · subst hnotify
    have hnotified : bus.notified access = some (value.setWidth 32) := by
      rw [notified, hstore]
      rfl
    have hother : value.setWidth 32 ≠ (0 : U32) := by
      obtain h | ⟨h, -⟩ | ⟨-, h⟩ := hother
      · exact absurd h (show ¬(0x050 : U64) = 0x030 by decide)
      · exact absurd h (show ¬(0x050 : U64) ∈ queueRegisters by decide)
      · exact h
    obtain ⟨hnone, hdevice⟩ := idle_spec (idle _ hnotified)
    rw [roundsOf, hnotified]
    refine ⟨?_, hnone⟩
    change Variant Beside bus (finish (processQueue (value.setWidth 32) bus))
    obtain h | ⟨last, h⟩ := hdevice
    · rw [h]
      exact variant_refl bus
    · rw [h]
      exact ⟨_, beside_settle _ hother last, rfl⟩
  · have hnotified : bus.notified access = none := by
      rw [notified, hstore]
      exact if_neg hnotify
    rw [roundsOf, hnotified]
    refine ⟨variant_configure ?_ value bus, rfl⟩
    obtain h | ⟨h, -⟩ | ⟨h, -⟩ := hother
    · exact List.mem_cons.mpr (.inl h)
    · exact List.mem_cons_of_mem _ h
    · exact absurd h hnotify

end Accesses

/-- A step of the driver: for queue 0, or for another queue. -/
inductive Action where
  | own (access : BusAccess)
  | other (access : BusAccess)

/-- The accesses for queue 0. -/
def ownPart : List Action → List BusAccess
  | [] => []
  | .own access :: actions => access :: ownPart actions
  | .other _ :: actions => ownPart actions

/-- All accesses in their order. -/
def whole : List Action → List BusAccess
  | [] => []
  | .own access :: actions => access :: whole actions
  | .other access :: actions => access :: whole actions

section Runs

variable [Host]

/-- Each access of the run is one for the queue that it stands for. -/
def Admits : Bus → List Action → Prop
  | _, [] => True
  | bus, .own access :: actions => OwnAccess bus access ∧ Admits (bus.step access) actions
  | bus, .other access :: actions => OtherAccess bus access ∧ Admits (bus.step access) actions

/-- Queue 0 is spared on the whole run, `bus` being the machine without the insertions: its
notifies find its rings, and those of other queues find nothing to serve. -/
def Spares : Bus → Bus → List Action → Prop
  | _, _, [] => True
  | bus, bus', .own access :: actions =>
      FindsRings bus bus' access ∧ Spares (bus.step access) (bus'.step access) actions
  | bus, bus', .other access :: actions =>
      NotifiesIdle bus' access ∧ Spares bus (bus'.step access) actions

instance decidableAdmits : (bus : Bus) → (actions : List Action) → Decidable (Admits bus actions)
  | _, [] => .isTrue trivial
  | bus, .own access :: actions =>
      have := decidableAdmits (bus.step access) actions
      inferInstanceAs (Decidable (_ ∧ _))
  | bus, .other access :: actions =>
      have := decidableAdmits (bus.step access) actions
      inferInstanceAs (Decidable (_ ∧ _))

instance decidableSpares : (bus bus' : Bus) → (actions : List Action) →
    Decidable (Spares bus bus' actions)
  | _, _, [] => .isTrue trivial
  | bus, bus', .own access :: actions =>
      have := decidableSpares (bus.step access) (bus'.step access) actions
      inferInstanceAs (Decidable (_ ∧ _))
  | bus, bus', .other access :: actions =>
      have := decidableSpares bus (bus'.step access) actions
      inferInstanceAs (Decidable (_ ∧ _))

/-- The same chains are executed in the same order, and the same is found behind the run in every
memory, where the used ring is, and on the disk. -/
structure Undisturbed (bus : Bus) (actions : List Action) : Prop where
  rounds : bus.rounds (whole actions) = bus.rounds (ownPart actions)
  memory : ∀ w, (bus.after (whole actions)).memory w = (bus.after (ownPart actions)).memory w
  disk : (bus.after (whole actions)).dev.virtio.disk =
    (bus.after (ownPart actions)).dev.virtio.disk

theorem spares_run {bus bus' : Bus} (wf : bus.Wf) (held : bus.virtio = true)
    (h : Variant Beside bus bus') {actions : List Action} (admits : Admits bus' actions)
    (spares : Spares bus bus' actions) :
    bus'.rounds (whole actions) = bus.rounds (ownPart actions) ∧
      Variant Beside (bus.after (ownPart actions)) (bus'.after (whole actions)) := by
  induction actions generalizing bus bus' with
  | nil => exact ⟨rfl, h⟩
  | cons action actions ih =>
      cases action with
      | own access =>
          obtain ⟨hrelated, hrounds⟩ := own_step wf h admits.1 spares.1
          have shape := sameShape_step bus access
          obtain ⟨hrest, hend⟩ := ih (shape.wf wf) (shape.virtio.trans held) hrelated admits.2
            spares.2
          refine ⟨?_, hend⟩
          rw [whole, ownPart, Bus.rounds, Bus.rounds, hrounds, hrest]
      | other access =>
          have hwf : bus'.Wf ∧ bus'.virtio = true := by
            obtain ⟨device, -, rfl⟩ := h
            exact ⟨wf.withVirtio device, held⟩
          obtain ⟨hrelated, hrounds⟩ := other_step hwf.1 hwf.2 admits.1 spares.1
          obtain ⟨hrest, hend⟩ := ih wf held (h.trans Beside.trans hrelated) admits.2 spares.2
          refine ⟨?_, hend⟩
          rw [whole, ownPart, Bus.rounds, hrounds, List.nil_append, hrest]

/-- Insertions that spare queue 0 leave it undisturbed. -/
theorem spared_undisturbed {bus : Bus} (wf : bus.Wf) (held : bus.virtio = true)
    {actions : List Action} (admits : Admits bus actions) (spares : Spares bus bus actions) :
    Undisturbed bus actions := by
  obtain ⟨hrounds, device, related, hend⟩ := spares_run wf held (variant_refl bus) admits spares
  refine ⟨hrounds, fun w => ?_, ?_⟩
  · rw [hend, memory_withVirtio]
  · rw [hend]
    exact related.disk

end Runs

section Sample

attribute [local instance] Host.dev

/-- A machine with the request of head 0 in its RAM and a new device. -/
def sharedBus : Bus :=
  { queueBus 0 with
    dev := { (queueBus 0).dev with virtio := .new 0 (some [7, 9]) }
    virtio := true, virtioRange := ⟨VIRTIO_DISK_BASE, 0x1000⟩ }

/-- A store to a register of the device. -/
def store (register value : U64) : BusAccess := .write (VIRTIO_DISK_BASE + register) 4 value

/-- The driver sets queue 0 up. -/
def setUp : List Action :=
  [.own (store 0x030 0), .own (store 0x038 4), .own (store 0x090 0x40), .own (store 0x0a0 0x64),
    .own (store 0x044 1)]

/-- The driver publishes head 0. -/
def publish : BusAccess := .write 0x42 2 1

/-- Queue 1 is set up before queue 0, and notified when nothing is outstanding. -/
def servedOnce : List Action :=
  [.other (store 0x030 1), .other (store 0x038 8)] ++ setUp ++
    [.other (store 0x050 1), .own publish, .own (store 0x050 0)]

/-- Queue 1 is notified before head 0 is published, and again when it has been served. -/
def servedTwice : List Action :=
  setUp ++ [.other (store 0x050 1), .own publish, .own (store 0x050 0), .other (store 0x050 1)]

/-- Queue 1 is taken down while head 0 is outstanding. -/
def takenDown : List Action :=
  setUp ++ [.own publish, .other (store 0x030 1), .other (store 0x044 0), .own (store 0x050 0)]

theorem wf_sharedBus : sharedBus.Wf := by
  constructor
  · intro w
    cases w <;> decide
  · intro w ram h
    cases w <;> cases h <;> rfl

theorem spared_undisturbed_servedOnce : Undisturbed sharedBus servedOnce :=
  spared_undisturbed wf_sharedBus rfl (by decide +kernel) (by decide +kernel)

/-- The runs disagree in the positions that they come to. -/
theorem not_undisturbed {bus : Bus} {actions : List Action}
    (h : (bus.rounds (whole actions)).map Prod.fst ≠ (bus.rounds (ownPart actions)).map Prod.fst) :
    ¬Undisturbed bus actions :=
  fun undisturbed => h (congrArg (List.map Prod.fst) undisturbed.rounds)

/-- A notify of another queue executes the chain at position 0 a second time, and taking another
queue down leaves it unexecuted. -/
theorem others_disturb :
    (Admits sharedBus servedTwice ∧ ¬Undisturbed sharedBus servedTwice) ∧
      Admits sharedBus takenDown ∧ ¬Undisturbed sharedBus takenDown := by
  have htwice : (sharedBus.rounds (whole servedTwice)).map Prod.fst ≠
      (sharedBus.rounds (ownPart servedTwice)).map Prod.fst := by decide +kernel
  have hnone : (sharedBus.rounds (whole takenDown)).map Prod.fst ≠
      (sharedBus.rounds (ownPart takenDown)).map Prod.fst := by decide +kernel
  have hadmits : Admits sharedBus servedTwice ∧ Admits sharedBus takenDown := by decide +kernel
  exact ⟨⟨hadmits.1, not_undisturbed htwice⟩, hadmits.2, not_undisturbed hnone⟩

end Sample

end Bus

end Riscvm.Rv64rs
