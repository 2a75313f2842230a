import Riscvm.Foundation.Agree
import Riscvm.Rv64rs.DiskAddressing
import Riscvm.Rv64rs.VirtQueue

/-!
# After a notify that failed

A notify goes through the available ring position by position. The cursor is stored only behind
the loop, so a notify that fails leaves it where it was. Which position the next notify begins
with then depends on where the failing one took its cursor from.
-/

namespace Riscvm.Rv64rs

open Bytes Exec Bus

namespace VirtIOBlk

section Notifies

variable [Host]

/-- The index word of a ring. -/
def ringIndex (ring : U64) : Call Bus U16 := do
  return (← dmaRead (← add ring 2) 2).setWidth 16

/-- A notify that gets as far as its loop, with the indices it has read. -/
structure Enters (bus : Bus) (availIdx usedIdx : U16) : Prop where
  ready : ¬(bus.dev.virtio.queueReady = 0 ∨ bus.dev.virtio.queueNum = 0)
  avail : ringIndex bus.dev.virtio.availAddr bus = .ok availIdx bus
  used : ringIndex bus.dev.virtio.usedAddr bus = .ok usedIdx bus

/-- The position that a notify starts from: the stored cursor, or else the used index. -/
def startOf (queueIdx : U32) (bus : Bus) (usedIdx : U16) : U16 :=
  (bus.dev.virtio.lastAvailIdx queueIdx).getD usedIdx

variable {queueIdx : U32} {device : VirtIOBlk} {availIdx usedIdx last : U16} {bus bus' : Bus}

theorem Enters.run (h : Enters bus availIdx usedIdx) :
    notifyQueue queueIdx bus = (do
      let last ← serveChains bus.dev.virtio availIdx 65536 (startOf queueIdx bus usedIdx) usedIdx
      onVirtio (modify fun device : VirtIOBlk => device.settle queueIdx last)) bus := by
  have hindex {ring : U64} {idx : U16} (hring : ringIndex ring bus = .ok idx bus) :
      ∃ a v, add ring 2 bus = .ok a bus ∧ dmaRead a 2 bus = .ok v bus ∧ v.setWidth 16 = idx := by
    simp only [ringIndex, bind_eq_ok] at hring
    obtain ⟨a, bus₁, hadd, v, bus₂, hread, hvalue⟩ := hring
    have hsame := (readOnly_add ring 2).state_eq hadd
    subst hsame
    obtain ⟨hidx, hend⟩ := EStateM.Result.ok.inj hvalue
    exact ⟨a, v, hadd, hend ▸ hread, hidx⟩
  obtain ⟨a, v, hadd, hread, havail⟩ := hindex h.avail
  obtain ⟨b, w, hadd', hread', hused⟩ := hindex h.used
  rw [notifyQueue_eq, processQueue, get_bind_apply]
  dsimp only
  rw [if_neg h.ready, bind_ok hadd, bind_ok hread, bind_ok hadd', bind_ok hread', havail, hused]
  rfl

theorem Enters.unique (h : Enters bus availIdx usedIdx) {availIdx' usedIdx' : U16}
    (h' : Enters bus availIdx' usedIdx') : availIdx' = availIdx ∧ usedIdx' = usedIdx := by
  have havail := h'.avail.symm.trans h.avail
  have hused := h'.used.symm.trans h.used
  cases havail
  cases hused
  exact ⟨rfl, rfl⟩

/-- From `last` on, `n` rounds of the loop come to their end: their chains are processed and
entered into the used ring. -/
inductive Completes (device : VirtIOBlk) (availIdx : U16) : (last usedIdx : U16) → Bus → Nat → Bus →
    Prop
  | done {last usedIdx : U16} {bus : Bus} : Completes device availIdx last usedIdx bus 0 bus
  | round {last usedIdx : U16} {bus bus' bus'' : Bus} {n : Nat} (more : last ≠ availIdx)
      (served : serveChain device last usedIdx bus = .ok () bus')
      (rest : Completes device availIdx (last + 1) (usedIdx + 1) bus' n bus'') :
      Completes device availIdx last usedIdx bus (n + 1) bus''

omit [Host] in
/-- A round is one position closer to the end. -/
theorem distance_succ (more : last ≠ availIdx) :
    (availIdx - last).toNat = (availIdx - (last + 1)).toNat + 1 := by
  have hne : (availIdx - last).toNat ≠ 0 := by
    intro hzero
    have hsub : availIdx - last = 0 := BitVec.eq_of_toNat_eq hzero
    exact more ((BitVec.sub_eq_iff_eq_add.mp hsub).trans (BitVec.zero_add _)).symm
  bv_omega

omit [Host] in
theorem succ_position (last : U16) (n : Nat) :
    last + 1 + BitVec.ofNat 16 n = last + BitVec.ofNat 16 (n + 1) := by
  rw [BitVec.ofNat_add, BitVec.add_assoc, BitVec.add_comm 1]
  rfl

theorem Completes.le_distance {n : Nat} (h : Completes device availIdx last usedIdx bus n bus') :
    n ≤ (availIdx - last).toNat := by
  induction h with
  | done => exact Nat.zero_le _
  | round more served rest ih =>
      rw [distance_succ more]
      exact Nat.succ_le_succ ih

/-- The loop fails with the round that comes after some that were completed. -/
theorem serveChains_error {fuel : Nat} {e : Fault} (enough : (availIdx - last).toNat ≤ fuel) :
    serveChains device availIdx fuel last usedIdx bus = .error e bus' ↔
      ∃ n bus₁, Completes device availIdx last usedIdx bus n bus₁ ∧
        last + BitVec.ofNat 16 n ≠ availIdx ∧
        serveChain device (last + BitVec.ofNat 16 n) (usedIdx + BitVec.ofNat 16 n) bus₁ =
          .error e bus' := by
  constructor
  · intro run
    induction fuel generalizing last usedIdx bus with
    | zero =>
        have heq : last = availIdx := by bv_omega
        rw [serveChains, if_pos heq] at run
        cases run
    | succ fuel ih =>
        rw [serveChains] at run
        split at run
        next => cases run
        next more =>
          obtain hfail | ⟨_, bus₁, served, hrest⟩ := bind_eq_error.mp run
          · refine ⟨0, bus, .done, by rwa [BitVec.add_zero], ?_⟩
            rwa [BitVec.add_zero, BitVec.add_zero]
          · rw [distance_succ more] at enough
            obtain ⟨n, bus₂, completed, hmore, hfail⟩ := ih (Nat.le_of_succ_le_succ enough) hrest
            refine ⟨n + 1, bus₂, .round more served completed, ?_, ?_⟩
            · rwa [← succ_position]
            · rwa [← succ_position, ← succ_position]
  · rintro ⟨n, bus₁, completed, hmore, hfail⟩
    induction completed generalizing fuel with
    | @done last usedIdx bus =>
        rw [BitVec.add_zero] at hmore
        rw [BitVec.add_zero, BitVec.add_zero] at hfail
        rw [distance_succ hmore] at enough
        obtain ⟨fuel, rfl⟩ : ∃ k, fuel = k + 1 := ⟨fuel - 1, by omega⟩
        rw [serveChains, if_neg hmore, bind_error hfail]
    | @round last usedIdx bus bus₂ bus₃ n more served rest ih =>
        rw [← succ_position] at hmore
        rw [← succ_position, ← succ_position] at hfail
        rw [distance_succ more] at enough
        obtain ⟨fuel, rfl⟩ : ∃ k, fuel = k + 1 := ⟨fuel - 1, by omega⟩
        rw [serveChains, if_neg more, bind_ok served]
        exact ih (Nat.le_of_succ_le_succ enough) hmore hfail

/-- Of the device only the disk may differ. -/
abbrev KeepsQueue {α : Type} (x : Call Bus α) : Prop :=
  Keeps (fun bus bus' => ∃ disk, bus'.dev.virtio = { bus.dev.virtio with disk }) x

omit [Host] in
theorem keepsVirtio_queue {α : Type} {x : Call Bus α} (h : KeepsVirtio x) : KeepsQueue x :=
  h.mono fun _ _ heq => ⟨_, heq⟩

omit [Host] in
theorem keepsQueue_bind {α β : Type} {x : Call Bus α} {f : α → Call Bus β} (first : KeepsQueue x)
    (rest : ∀ a, KeepsQueue (f a)) : KeepsQueue (x >>= f) := by
  refine Keeps.bind ?_ first rest
  rintro bus bus' bus'' ⟨disk, h⟩ ⟨disk', h'⟩
  exact ⟨disk', by rw [h', h]⟩

omit [Host] in
theorem keepsQueue_look {α β : Type} {x : Call Bus α} {f : α → Call Bus β} (first : KeepsVirtio x)
    (rest : ∀ a, KeepsQueue (f a)) : KeepsQueue (x >>= f) :=
  keepsQueue_bind (keepsVirtio_queue first) rest

omit [Host] in
theorem keepsQueue_setDisk (disk : List U8) :
    KeepsQueue (onVirtio (modify fun device => { device with disk })) := fun _ => ⟨disk, rfl⟩

theorem keepsQueue_growDisk (stop : U64) : KeepsQueue (growDisk stop) := by
  refine keepsQueue_look (keepsVirtio_readOnly .get) fun bus => .ite ?_ fun _ => ⟨_, rfl⟩
  exact keepsQueue_look (keepsVirtio_readOnly (Xv6Emulator.readOnly_allocate _)) fun _ =>
    fun _ => ⟨_, rfl⟩

theorem keepsVirtio_collectDescs (descBase : U64) (fuel : Nat) (idx : U16) (seen : List U16)
    (descs : List Desc) : KeepsVirtio (collectDescs descBase fuel idx seen descs) := by
  refine @keeps_collectDescs _ (fun bus bus' => bus'.dev.virtio = bus.dev.virtio) descBase
    (fun _ => rfl) ?_ keepsVirtio_dmaRead fuel idx seen descs
  intro bus bus' bus'' h h'
  exact h'.trans h

theorem keepsQueue_processDescriptorChain (descBase : U64) (head : U16) :
    KeepsQueue (processDescriptorChain descBase head) := by
  have hstatus (address : U64) : KeepsQueue (do dmaWrite address 1 0; return (0 : U32)) :=
    keepsQueue_look (keepsVirtio_dmaWrite _ _ _) fun _ _ => ⟨_, rfl⟩
  have hlook {α β : Type} {x : Call Bus α} {f : α → Call Bus β} (h : ReadOnly x)
      (rest : ∀ a, KeepsQueue (f a)) : KeepsQueue (x >>= f) :=
    keepsQueue_look (keepsVirtio_readOnly h) rest
  refine keepsQueue_look (keepsVirtio_collectDescs _ _ _ _ _) fun descs => ?_
  refine .ite (fun _ => ⟨_, rfl⟩) ?_
  refine hlook (readOnly_index _ _) fun header => hlook (readOnly_index _ _) fun data => ?_
  refine hlook (readOnly_index _ _) fun status => ?_
  refine keepsQueue_look (keepsVirtio_dmaRead _ _) fun kind => ?_
  refine hlook (readOnly_add _ _) fun _ => ?_
  refine keepsQueue_look (keepsVirtio_dmaRead _ _) fun sector => ?_
  refine hlook (readOnly_mul _ _) fun offset => .ite ?_ (.ite ?_ (hstatus _))
  · refine hlook (readOnly_add _ _) fun stop => keepsQueue_bind (keepsQueue_growDisk _) fun _ => ?_
    refine hlook .get fun _ => hlook (readOnly_slice _ _ _) fun chunk => ?_
    refine hlook (Xv6Emulator.readOnly_allocate _) fun _ => ?_
    exact keepsQueue_look (keepsVirtio_writeBytes _ _ _) fun _ => hstatus _
  · refine hlook (Xv6Emulator.readOnly_allocate _) fun _ => ?_
    refine keepsQueue_look (keepsVirtio_readBytes _ _ _) fun chunk => ?_
    refine hlook (readOnly_add _ _) fun stop => keepsQueue_bind (keepsQueue_growDisk _) fun _ => ?_
    refine hlook .get fun _ => ?_
    have hcopy (xs : List U8) (a b : Nat) (ys : List U8) :
        ReadOnly (copyFromSlice xs a b ys : Call Bus (List U8)) :=
      .ite (.pure _) (readOnly_panic _)
    refine hlook (hcopy _ _ _ _) fun disk => ?_
    exact keepsQueue_bind (keepsQueue_setDisk disk) fun _ => hstatus _

theorem keepsQueue_serveChain (device : VirtIOBlk) (last usedIdx : U16) :
    KeepsQueue (serveChain device last usedIdx) := by
  have hlook {α β : Type} {x : Call Bus α} {f : α → Call Bus β} (h : ReadOnly x)
      (rest : ∀ a, KeepsQueue (f a)) : KeepsQueue (x >>= f) :=
    keepsQueue_look (keepsVirtio_readOnly h) rest
  have hwrite (address : U64) (size : U8) (value : U64) :
      KeepsVirtio (dmaWrite address size value) := keepsVirtio_dmaWrite _ _ _
  refine hlook (readOnly_add _ _) fun _ => hlook (readOnly_mul _ _) fun _ => ?_
  refine hlook (readOnly_add _ _) fun _ => keepsQueue_look (keepsVirtio_dmaRead _ _) fun head => ?_
  refine keepsQueue_bind (keepsQueue_processDescriptorChain _ _) fun length => ?_
  refine hlook (readOnly_add _ _) fun _ => hlook (readOnly_mul _ _) fun _ => ?_
  refine hlook (readOnly_add _ _) fun _ => keepsQueue_look (hwrite _ _ _) fun _ => ?_
  refine hlook (readOnly_add _ _) fun _ => keepsQueue_look (hwrite _ _ _) fun _ => ?_
  exact hlook (readOnly_add _ _) fun _ => keepsVirtio_queue (hwrite _ _ _)

theorem keepsQueue_serveChains (device : VirtIOBlk) (availIdx : U16) (fuel : Nat)
    (last usedIdx : U16) : KeepsQueue (serveChains device availIdx fuel last usedIdx) := by
  induction fuel generalizing last usedIdx with
  | zero => exact .ite (fun _ => ⟨_, rfl⟩) fun _ => ⟨_, rfl⟩
  | succ fuel ih =>
      refine .ite (fun _ => ⟨_, rfl⟩) ?_
      exact keepsQueue_bind (keepsQueue_serveChain _ _ _) fun _ => ih _ _

/-- A notify that fails stores no cursor. -/
theorem device_of_notify_error (enters : Enters bus availIdx usedIdx) {e : Fault}
    (run : notifyQueue queueIdx bus = .error e bus') :
    ∃ disk, bus'.dev.virtio = { bus.dev.virtio with disk } := by
  rw [enters.run] at run
  obtain hloop | ⟨last, bus₁, -, hstore⟩ := bind_eq_error.mp run
  · have hkeeps := keepsQueue_serveChains bus.dev.virtio availIdx 65536
      (startOf queueIdx bus usedIdx) usedIdx bus
    rwa [hloop, finish_error] at hkeeps
  · cases hstore

/-- The notify has failed with an error after `m` chains were completed and reported. -/
structure FailsAfter (queueIdx : U32) (bus : Bus) (availIdx usedIdx : U16) (m : Nat)
    (failed : Bus) : Prop where
  enters : Enters bus availIdx usedIdx
  round : ∃ e bus₁,
    Completes bus.dev.virtio availIdx (startOf queueIdx bus usedIdx) usedIdx bus m bus₁ ∧
    startOf queueIdx bus usedIdx + BitVec.ofNat 16 m ≠ availIdx ∧
    serveChain bus.dev.virtio (startOf queueIdx bus usedIdx + BitVec.ofNat 16 m)
      (usedIdx + BitVec.ofNat 16 m) bus₁ = .error (.err e) failed

variable {failed next : Bus} {availIdx' usedIdx' : U16} {m : Nat}

/-- This is how a notify that gets into its loop returns an error. -/
theorem notify_err_iff (enters : Enters bus availIdx usedIdx) :
    (∃ e, notifyQueue queueIdx bus = .error (.err e) failed) ↔
      ∃ m, FailsAfter queueIdx bus availIdx usedIdx m failed := by
  have hloop (e : Fault) : notifyQueue queueIdx bus = .error e failed ↔
      serveChains bus.dev.virtio availIdx 65536 (startOf queueIdx bus usedIdx) usedIdx bus =
        .error e failed := by
    rw [enters.run, bind_eq_error]
    refine ⟨fun h => h.resolve_right ?_, .inl⟩
    rintro ⟨last, bus₁, -, hstore⟩
    cases hstore
  constructor
  · rintro ⟨e, run⟩
    obtain ⟨m, bus₁, round⟩ :=
      (serveChains_error (Nat.le_of_lt (BitVec.isLt _))).mp ((hloop _).mp run)
    exact ⟨m, enters, e, bus₁, round⟩
  · rintro ⟨m, fails⟩
    obtain ⟨e, bus₁, round⟩ := fails.round
    exact ⟨e, (hloop _).mpr
      ((serveChains_error (Nat.le_of_lt (BitVec.isLt _))).mpr ⟨m, bus₁, round⟩)⟩

/-- Round `n` of the notify, counted from 0, is begun at the position `p` of the available ring. -/
def Begins (queueIdx : U32) (bus : Bus) (n : Nat) (p : U16) : Prop :=
  ∃ availIdx usedIdx bus', Enters bus availIdx usedIdx ∧
    Completes bus.dev.virtio availIdx (startOf queueIdx bus usedIdx) usedIdx bus n bus' ∧
    p = startOf queueIdx bus usedIdx + BitVec.ofNat 16 n ∧ p ≠ availIdx

/-- The driver has not set up the queue anew, and the device has not been notified of it. -/
structure Untouched (queueIdx : U32) (device device' : VirtIOBlk) : Prop where
  queueReady : device'.queueReady = device.queueReady
  queueNum : device'.queueNum = device.queueNum
  descAddr : device'.descAddr = device.descAddr
  availAddr : device'.availAddr = device.availAddr
  usedAddr : device'.usedAddr = device.usedAddr
  cursor : device'.lastAvailIdx queueIdx = device.lastAvailIdx queueIdx

/-- From `failed` to `next` the driver has at most published more heads: the notify that failed
has read the index `availIdx` and started from `start`, the next one reads `availIdx'`. Positions
are counted modulo 65536, and all that is outstanding is within one lap. -/
structure Waits (queueIdx : U32) (start availIdx : U16) (failed next : Bus)
    (availIdx' usedIdx' : U16) : Prop where
  untouched : Untouched queueIdx failed.dev.virtio next.dev.virtio
  enters : Enters next availIdx' usedIdx'
  published : ∃ k, availIdx' = availIdx + BitVec.ofNat 16 k ∧ (availIdx - start).toNat + k < 65536

/-- The notify begins with the first position behind the `m` that are reported, and stays between
there and the driver's index. -/
structure Resumes (queueIdx : U32) (start : U16) (m : Nat) (next : Bus) (availIdx' : U16) :
    Prop where
  first : Begins queueIdx next 0 (start + BitVec.ofNat 16 m)
  once : ∀ n p, Begins queueIdx next n p → ∀ j < m, p ≠ start + BitVec.ofNat 16 j
  onward : ∀ n p, Begins queueIdx next n p →
    (p - (start + BitVec.ofNat 16 m)).toNat < (availIdx' - (start + BitVec.ofNat 16 m)).toNat

theorem Begins.position {n : Nat} {p : U16} (h : Begins queueIdx bus n p)
    (enters : Enters bus availIdx usedIdx) :
    p = startOf queueIdx bus usedIdx + BitVec.ofNat 16 n ∧
      n < (availIdx - startOf queueIdx bus usedIdx).toNat := by
  obtain ⟨availIdx', usedIdx', bus', enters', completed, hp, hmore⟩ := h
  obtain ⟨rfl, rfl⟩ := enters.unique enters'
  have hle := completed.le_distance
  refine ⟨hp, Nat.lt_of_le_of_ne hle fun heq => ?_⟩
  rw [hp, heq] at hmore
  exact hmore (by bv_omega)

theorem FailsAfter.lt (fails : FailsAfter queueIdx bus availIdx usedIdx m failed) :
    m < (availIdx - startOf queueIdx bus usedIdx).toNat := by
  obtain ⟨e, bus₁, completed, hmore, -⟩ := fails.round
  exact (Begins.position ⟨_, _, _, fails.enters, completed, rfl, hmore⟩ fails.enters).2

/-- The next notify resumes behind what is reported exactly if it takes its position from the used
ring, where the device has counted the reports, or if there are none. -/
theorem resumes_iff (fails : FailsAfter queueIdx bus availIdx usedIdx m failed)
    (waits : Waits queueIdx (startOf queueIdx bus usedIdx) availIdx failed next availIdx'
      usedIdx') :
    Resumes queueIdx (startOf queueIdx bus usedIdx) m next availIdx' ↔
      match bus.dev.virtio.lastAvailIdx queueIdx with
      | none => usedIdx' = usedIdx + BitVec.ofNat 16 m
      | some _ => m = 0 := by
  obtain ⟨disk, hdevice⟩ := device_of_notify_error fails.enters
    ((notify_err_iff fails.enters).mpr ⟨m, fails⟩).choose_spec
  have hlt := fails.lt
  obtain ⟨k, rfl, hlap⟩ := waits.published
  have hcursor : next.dev.virtio.lastAvailIdx queueIdx = bus.dev.virtio.lastAvailIdx queueIdx := by
    rw [waits.untouched.cursor, hdevice]
  have hstart : startOf queueIdx next usedIdx' =
      (bus.dev.virtio.lastAvailIdx queueIdx).getD usedIdx' := by
    rw [startOf, hcursor]
  have hsame : startOf queueIdx next usedIdx' = startOf queueIdx bus usedIdx + BitVec.ofNat 16 m ↔
      match bus.dev.virtio.lastAvailIdx queueIdx with
      | none => usedIdx' = usedIdx + BitVec.ofNat 16 m
      | some _ => m = 0 := by
    rw [hstart, startOf]
    cases bus.dev.virtio.lastAvailIdx queueIdx with
    | none => exact Iff.rfl
    | some last =>
        change last = last + BitVec.ofNat 16 m ↔ m = 0
        constructor
        · intro heq
          bv_omega
        · rintro rfl
          exact (BitVec.add_zero _).symm
  rw [← hsame]
  constructor
  · intro resumes
    have hfirst := (resumes.first.position waits.enters).1
    rw [BitVec.add_zero] at hfirst
    exact hfirst.symm
  · intro hresume
    have hbehind (n : Nat) (p : U16) (h : Begins queueIdx next n p) :=
      hresume ▸ h.position waits.enters
    generalize startOf queueIdx bus usedIdx = start at *
    refine ⟨⟨_, _, next, waits.enters, .done, ?_, ?_⟩, fun n p h j hj => ?_, fun n p h => ?_⟩
    · rw [hresume, BitVec.add_zero]
    · bv_omega
    · obtain ⟨rfl, hn⟩ := hbehind n p h
      bv_omega
    · obtain ⟨rfl, hn⟩ := hbehind n p h
      bv_omega

/-- A notify of a queue whose rings are in RAM gets into its loop. -/
theorem Pending.enters (wf : bus.Wf) (pending : Pending queueIdx availIdx usedIdx bus) :
    Enters bus availIdx usedIdx := by
  have hindex {ring : U64} {idx : U16} (h : Holds bus (ring.toNat + 2) 2 idx.toNat) :
      ringIndex ring bus = .ok idx bus := by
    obtain ⟨hlt, hholds⟩ := holds_index wf h
    rw [ringIndex, add_bind hlt, hholds.dmaRead_bind wf (by decide),
      setWidth_ofNat_toNat idx (by decide)]
    rfl
  exact ⟨not_or.mpr ⟨pending.ready, pending.queueNum⟩, hindex pending.avail, hindex pending.used⟩

end Notifies

section Sample

attribute [local instance] Host.dev

/-- The machine after the round at `start`, and after the one behind it. -/
def afterOne (bus : Bus) (start usedIdx : U16) : Bus :=
  finish (serveChain bus.dev.virtio start usedIdx bus)

def afterTwo (bus : Bus) (start usedIdx : U16) : Bus :=
  finish (serveChain bus.dev.virtio (start + 1) (usedIdx + 1) (afterOne bus start usedIdx))

/-- The second chain that the device comes to cannot be read. -/
theorem failsAfter_one {bus : Bus} {availIdx usedIdx start : U16} {e : EmuError}
    (enters : Enters bus availIdx usedIdx) (hstart : startOf 0 bus usedIdx = start)
    (more : start ≠ availIdx) (more' : start + 1 ≠ availIdx)
    (served : answer (serveChain bus.dev.virtio start usedIdx bus) = .ok ())
    (fails : answer (serveChain bus.dev.virtio (start + 1) (usedIdx + 1)
      (afterOne bus start usedIdx)) = .error (.err e)) :
    FailsAfter 0 bus availIdx usedIdx 1 (afterTwo bus start usedIdx) := by
  subst hstart
  exact ⟨enters, e, _, .round more (eq_ok_finish served) .done, more', eq_error_finish fails⟩

/-- The index word of the ring lies in RAM. -/
abbrev IndexInRam (bus : Bus) (ring : U64) (idx : U16) : Prop :=
  bus.ramRange.start.toNat ≤ ring.toNat + 2 ∧
    ring.toNat + 2 + 2 ≤ bus.ramRange.start.toNat + bus.ramRange.size.toNat ∧
    leNat (bus.ramBytes (ring.toNat + 2) 2) = idx.toNat

/-- The indices of the rings are computed from RAM. -/
theorem enters_of_rings {bus : Bus} {availIdx usedIdx : U16} (wf : bus.Wf)
    (h : bus.dev.virtio.queueReady ≠ 0 ∧ bus.dev.virtio.queueNum ≠ 0 ∧
      IndexInRam bus bus.dev.virtio.availAddr availIdx ∧
      IndexInRam bus bus.dev.virtio.usedAddr usedIdx) :
    Enters bus availIdx usedIdx := by
  obtain ⟨hready, hnum, ⟨above, below, value⟩, above', below', value'⟩ := h
  exact @Pending.enters _ 0 _ _ _ wf
    ⟨hready, hnum, ⟨.ofRam above below, value⟩, ⟨.ofRam above' below', value'⟩⟩

/-- A queue of four entries with its table at 0, its available ring at 0x40 and its used ring at
0x64. -/
def queueDevice : VirtIOBlk :=
  { new 0 (some [7, 9]) with queueNum := 4, queueReady := 1, availAddr := 0x40, usedAddr := 0x64 }

/-- 144 bytes of RAM with the table, where head 0 asks for two bytes of sector 0, and the available
index. -/
def queueBus (availIdx : Nat) : Bus :=
  { Bus.new { Devices.detached with virtio := queueDevice } with
    ramRange := ⟨0, 0x90⟩
    ram := ⟨leBytes 16 (0x50 + 2 ^ 64 * 16 + 2 ^ 96 * 1 + 2 ^ 112 * 1) ++
      leBytes 16 (0x60 + 2 ^ 64 * 2 + 2 ^ 96 * 3 + 2 ^ 112 * 2) ++
      leBytes 16 (0x62 + 2 ^ 64 * 1 + 2 ^ 96 * 2) ++ leBytes 16 0 ++
      leBytes 16 (2 ^ 16 * availIdx) ++ leBytes 64 0⟩ }

theorem wf_queueBus (availIdx : Nat) : (queueBus availIdx).Wf := by
  constructor
  · intro w
    change ((queueBus 0).range w).start.toNat + ((queueBus 0).range w).size.toNat < 2 ^ 64
    cases w <;> decide
  · intro w ram h
    cases w <;> cases h <;> rfl

/-- The driver of a fresh queue has published head 0, and then one far outside of the table. -/
def freshBus : Bus := (queueBus 2).poke 0x46 (leBytes 2 0xffff)

/-- The driver has done so after a first notify for head 0 alone. -/
def servedBus : Bus :=
  ((finish (notifyQueue 0 (queueBus 1))).poke 0x46 (leBytes 4 0xffff0000)).poke 0x42 (leBytes 2 3)

theorem wf_freshBus : freshBus.Wf := (wf_queueBus 2).poke (.ofRam (by decide) (by decide))

theorem wf_servedBus : servedBus.Wf := by
  have shape : SameShape (queueBus 1) (finish (notifyQueue 0 (queueBus 1))) :=
    keepsShape_virtioWrite _ _ _ (queueBus 1)
  exact ((shape.wf (wf_queueBus 1)).poke
    (.ofRam (by decide +kernel) (by decide +kernel))).poke
    (.ofRam (by decide +kernel) (by decide +kernel))

theorem enters_freshBus : Enters freshBus 2 0 := enters_of_rings wf_freshBus (by decide +kernel)

theorem enters_servedBus : Enters servedBus 3 1 := enters_of_rings wf_servedBus (by decide +kernel)

theorem failsAfter_freshBus : FailsAfter 0 freshBus 2 0 1 (afterTwo freshBus 0 0) :=
  failsAfter_one (e := .noDevice) enters_freshBus rfl (by decide) (by decide) (by decide +kernel)
    (by decide +kernel)

theorem failsAfter_servedBus : FailsAfter 0 servedBus 3 1 1 (afterTwo servedBus 1 1) :=
  failsAfter_one (e := .noDevice) enters_servedBus (by decide +kernel) (by decide) (by decide)
    (by decide +kernel) (by decide +kernel)

theorem wf_afterTwo {bus : Bus} (wf : bus.Wf) (start usedIdx : U16) :
    (afterTwo bus start usedIdx).Wf := by
  have hkeeps (device : VirtIOBlk) (last usedIdx : U16) :
      KeepsShape (serveChain device last usedIdx) := by
    rw [← DmaScript.run_serveChain]
    exact Script.keeps_run SameShape.refl SameShape.trans keepsShape_handle _
  exact ((hkeeps _ _ _ bus).trans (hkeeps _ _ _ (afterOne bus start usedIdx))).wf wf

/-- The first notify of a fresh queue fails at its second chain, and the next one resumes there. -/
theorem resumes_fresh : Resumes 0 0 1 (afterTwo freshBus 0 0) 2 := by
  have enters : Enters (afterTwo freshBus 0 0) 2 1 :=
    enters_of_rings (wf_afterTwo wf_freshBus 0 0) (by decide +kernel)
  have waits : Waits 0 0 2 (afterTwo freshBus 0 0) (afterTwo freshBus 0 0) 2 1 :=
    ⟨⟨rfl, rfl, rfl, rfl, rfl, rfl⟩, enters, 0, by decide, by decide⟩
  exact (resumes_iff failsAfter_freshBus waits).mpr rfl

/-- A later notify reports its first chain and fails at the second. The next notify executes the
first again. -/
theorem begins_again :
    FailsAfter 0 servedBus 3 1 1 (afterTwo servedBus 1 1) ∧
      Waits 0 1 3 (afterTwo servedBus 1 1) (afterTwo servedBus 1 1) 3 2 ∧
      Begins 0 (afterTwo servedBus 1 1) 0 1 ∧ ¬Resumes 0 1 1 (afterTwo servedBus 1 1) 3 := by
  have enters : Enters (afterTwo servedBus 1 1) 3 2 :=
    enters_of_rings (wf_afterTwo wf_servedBus 1 1) (by decide +kernel)
  have begins : Begins 0 (afterTwo servedBus 1 1) 0 1 :=
    ⟨3, 2, _, enters, .done, by decide +kernel, by decide⟩
  refine ⟨failsAfter_servedBus, ⟨⟨rfl, rfl, rfl, rfl, rfl, rfl⟩, enters, 0, by decide, by decide⟩,
    begins, fun resumes => ?_⟩
  exact resumes.once 0 1 begins 0 Nat.one_pos rfl

end Sample

end VirtIOBlk

end Riscvm.Rv64rs
