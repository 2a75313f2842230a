import Riscvm.Foundation.Script
import Riscvm.Rv64rs.Bus

/-!
# The block device as a script

What the device does when it is notified, told as the requests it makes: the bus accesses, the
looks at its own registers and the conditions under which its arithmetic, its allocations and
its slices do not panic. `run_processQueue` says that the script is the device: handled by the
bus it is `process_queue`, call for call.
-/

namespace Riscvm.Rv64rs

open Exec

/-- What the notified device asks for. -/
inductive DmaRequest : Type → Type where
  | device : DmaRequest VirtIOBlk
  | update (f : VirtIOBlk → VirtIOBlk) : DmaRequest Unit
  | read (address : U64) (size : U8) : DmaRequest U64
  | write (address : U64) (size : U8) (value : U64) : DmaRequest Unit
  | require (holds : Bool) (cause : Panic) : DmaRequest Unit

abbrev DmaScript := Script DmaRequest

namespace DmaScript

open Script VirtIOBlk

section Requests

def device : DmaScript VirtIOBlk := request .device

def update (f : VirtIOBlk → VirtIOBlk) : DmaScript Unit := request (.update f)

def read (address : U64) (size : U8) : DmaScript U64 := request (.read address size)

def write (address : U64) (size : U8) (value : U64) : DmaScript Unit :=
  request (.write address size value)

def require (holds : Bool) (cause : Panic) : DmaScript Unit := request (.require holds cause)

variable [Host]

def add (a b : U64) : DmaScript U64 := do
  require (!Host.overflowChecks || decide (a.toNat + b.toNat < 2 ^ 64)) .overflow
  return a + b

def mul (a b : U64) : DmaScript U64 := do
  require (!Host.overflowChecks || decide (a.toNat * b.toNat < 2 ^ 64)) .overflow
  return a * b

def allocate (n : Nat) : DmaScript Unit := do
  require (n < 2 ^ 63) .capacityOverflow
  require (n ≤ Host.memory) .outOfMemory

def index (descs : List Desc) (i : Nat) : DmaScript Desc := do
  require (i < descs.length) .indexOutOfBounds
  return descs.getD i ⟨0, 0, 0⟩

def slice (xs : List U8) (a b : Nat) : DmaScript (List U8) := do
  require (a ≤ b ∧ b ≤ xs.length) .indexOutOfBounds
  return (xs.drop a).take (b - a)

def copyFromSlice (xs : List U8) (a b : Nat) (ys : List U8) : DmaScript (List U8) := do
  require (a ≤ b ∧ b ≤ xs.length ∧ ys.length = b - a) .indexOutOfBounds
  return xs.take a ++ ys ++ xs.drop b

end Requests

/-- Membership among the indices seen so far is decided by comparing words. -/
theorem lawfulBEq_index : LawfulBEq U16 := inferInstance

attribute [local instance] lawfulBEq_index

variable [Host]

def collectDescs (descBase : U64) : (fuel : Nat) → (idx : U16) → (seen : List U16) →
    (descs : List Desc) → DmaScript (List Desc)
  | 0, _, _, descs => do
      require false .outOfFuel
      return descs
  | fuel + 1, idx, seen, descs => do
      if idx ∈ seen then return descs
      else
        let off ← add descBase (← mul (idx.setWidth 64) 16)
        let addr ← read off 8
        let length := (← read (← add off 8) 4).setWidth 32
        let flags := (← read (← add off 12) 2).setWidth 16
        let nxt := (← read (← add off 14) 2).setWidth 16
        let descs := descs ++ [⟨addr, length, flags⟩]
        if flags &&& VIRTQ_DESC_F_NEXT ≠ 0 then collectDescs descBase fuel nxt (idx :: seen) descs
        else return descs

def writeBytes (base : U64) : (i : Nat) → (bytes : List U8) → DmaScript Unit
  | _, [] => return ()
  | i, b :: bytes => do
      write (← add base (BitVec.ofNat 64 i)) 1 (b.setWidth 64)
      writeBytes base (i + 1) bytes

def readBytes (base : U64) : (i n : Nat) → DmaScript (List U8)
  | _, 0 => return []
  | i, n + 1 => do
      let b ← read (← add base (BitVec.ofNat 64 i)) 1
      return b.setWidth 8 :: (← readBytes base (i + 1) n)

def growDisk (stop : U64) : DmaScript Unit := do
  let disk := (← device).disk
  if disk.length < stop.toNat then
    allocate stop.toNat
    update fun device =>
      { device with disk := disk ++ List.replicate (stop.toNat - disk.length) 0 }
  else return ()

def processDescriptorChain (descBase : U64) (head : U16) : DmaScript U32 := do
  let descs ← collectDescs descBase 65537 head [] []
  if descs.length < 3 then return 0
  else
    let header ← index descs 0
    let data ← index descs 1
    let status ← index descs (descs.length - 1)
    let reqType := (← read header.addr 4).setWidth 32
    let sector ← read (← add header.addr 8) 8
    let offset ← mul sector SECTOR_SIZE
    let dataLen := data.length.setWidth 64
    if reqType = VIRTIO_BLK_T_IN then
      let stop ← add offset dataLen
      growDisk stop
      let chunk ← slice (← device).disk offset.toNat stop.toNat
      allocate chunk.length
      writeBytes data.addr 0 chunk
    else if reqType = VIRTIO_BLK_T_OUT then
      allocate dataLen.toNat
      let chunk ← readBytes data.addr 0 dataLen.toNat
      let stop ← add offset dataLen
      growDisk stop
      let disk ← copyFromSlice (← device).disk offset.toNat stop.toNat chunk
      update fun device => { device with disk }
    write status.addr 1 0
    return 0

def serveChain (dev : VirtIOBlk) (last usedIdx : U16) : DmaScript Unit := do
  let slot := last.setWidth 64 % dev.queueNum.setWidth 64
  let ringOff ← add (← add dev.availAddr 4) (← mul slot 2)
  let head := (← read ringOff 2).setWidth 16
  let length ← processDescriptorChain dev.descAddr head
  let usedSlot := usedIdx.setWidth 64 % dev.queueNum.setWidth 64
  let usedElemOff ← add (← add dev.usedAddr 4) (← mul usedSlot 8)
  write usedElemOff 4 (head.setWidth 64)
  write (← add usedElemOff 4) 4 (length.setWidth 64)
  write (← add dev.usedAddr 2) 2 ((usedIdx + 1).setWidth 64)

def serveChains (dev : VirtIOBlk) (availIdx : U16) : (fuel : Nat) → (last usedIdx : U16) →
    DmaScript U16
  | 0, last, _ => do
      require (last = availIdx) .outOfFuel
      return last
  | fuel + 1, last, usedIdx => do
      if last = availIdx then return last
      else
        serveChain dev last usedIdx
        serveChains dev availIdx fuel (last + 1) (usedIdx + 1)

def processQueue (queueIdx : U32) : DmaScript Unit := do
  let dev ← device
  if dev.queueReady = 0 ∨ dev.queueNum = 0 then return ()
  else
    let availIdx := (← read (← add dev.availAddr 2) 2).setWidth 16
    let usedIdxInitial := (← read (← add dev.usedAddr 2) 2).setWidth 16
    let last := (dev.lastAvailIdx queueIdx).getD usedIdxInitial
    let last ← serveChains dev availIdx 65536 last usedIdxInitial
    update fun device =>
      { device with
        lastAvailIdx := fun i => if i = queueIdx then some last else device.lastAvailIdx i
        interruptStatus := device.interruptStatus ||| 1 }

end DmaScript

namespace Bus

variable [Host]

def handle : (β : Type) → DmaRequest β → Call Bus β
  | _, .device => do return (← get).dev.virtio
  | _, .update f => onVirtio (modify f)
  | _, .read address size => dmaRead address size
  | _, .write address size value => dmaWrite address size value
  | _, .require holds cause => if holds then pure () else panic cause

end Bus

namespace DmaScript

open Script

section Requests

variable [Host]

@[simp] theorem run_read (address : U64) (size : U8) :
    (read address size).run Bus.handle = Bus.dmaRead address size := run_request _

@[simp] theorem run_write (address : U64) (size : U8) (value : U64) :
    (write address size value).run Bus.handle = Bus.dmaWrite address size value := run_request _

@[simp] theorem run_update (f : VirtIOBlk → VirtIOBlk) :
    (update f).run Bus.handle = Bus.onVirtio (modify f) := run_request _

@[simp] theorem run_device : device.run Bus.handle = (do return (← get).dev.virtio) :=
  run_request _

@[simp] theorem run_require (holds : Bool) (cause : Panic) :
    (require holds cause).run Bus.handle = if holds then pure () else panic cause := run_request _

/-- A requirement and the value behind it are a checked operator. -/
theorem run_require_pure {α : Type} {p : Prop} [Decidable p] (cause : Panic) (a : α) :
    (do require p cause; return a : DmaScript α).run Bus.handle =
      if p then pure a else panic cause := by
  rw [run_bind, run_require]
  by_cases h : p
  · rw [decide_eq_true h, if_pos rfl, if_pos h]
    rfl
  · rw [decide_eq_false h, if_neg Bool.false_ne_true, if_neg h]
    rfl

/-- An operator panics exactly if its check finds that it would overflow. -/
theorem run_checked {n : Nat} (cause : Panic) (a : U64) :
    (do require (!Host.overflowChecks || decide (n < 2 ^ 64)) cause; return a :
      DmaScript U64).run Bus.handle =
      if Host.overflowChecks && decide (2 ^ 64 ≤ n) then panic cause else pure a := by
  rw [run_bind, run_require]
  have hcheck : (!Host.overflowChecks || decide (n < 2 ^ 64)) =
      !(Host.overflowChecks && decide (2 ^ 64 ≤ n)) := by
    simp only [Bool.not_and, ← decide_not, Nat.not_le]
  rw [hcheck]
  cases Host.overflowChecks && decide (2 ^ 64 ≤ n) <;> rfl

@[simp] theorem run_add (a b : U64) : (add a b).run Bus.handle = Rv64rs.add a b := run_checked _ _

@[simp] theorem run_mul (a b : U64) : (mul a b).run Bus.handle = Rv64rs.mul a b := run_checked _ _

@[simp] theorem run_allocate (n : Nat) : (allocate n).run Bus.handle = Rv64rs.allocate n := by
  unfold allocate Rv64rs.allocate
  rw [run_bind, run_require]
  by_cases h : n < 2 ^ 63
  · rw [decide_eq_true h, if_pos rfl, if_neg (Nat.not_le.mpr h), pure_bind, run_require]
    by_cases hm : n ≤ Host.memory
    · rw [decide_eq_true hm, if_pos rfl, if_neg (Nat.not_lt.mpr hm)]
    · rw [decide_eq_false hm, if_neg Bool.false_ne_true, if_pos (Nat.not_le.mp hm)]
  · rw [decide_eq_false h, if_neg Bool.false_ne_true, if_pos (Nat.not_lt.mp h)]
    rfl

@[simp] theorem run_index (descs : List VirtIOBlk.Desc) (i : Nat) :
    (index descs i).run Bus.handle = Rv64rs.index descs i := by
  refine (run_require_pure _ _).trans ?_
  unfold Rv64rs.index
  by_cases h : i < descs.length
  · rw [if_pos h, List.getD_eq_getElem?_getD, List.getElem?_eq_getElem h, Option.getD_some]
  · rw [if_neg h, List.getElem?_eq_none (Nat.not_lt.mp h)]

@[simp] theorem run_slice (xs : List U8) (a b : Nat) :
    (slice xs a b).run Bus.handle = Rv64rs.slice xs a b :=
  run_require_pure _ _

@[simp] theorem run_copyFromSlice (xs : List U8) (a b : Nat) (ys : List U8) :
    (copyFromSlice xs a b ys).run Bus.handle = Rv64rs.copyFromSlice xs a b ys :=
  run_require_pure _ _

end Requests

variable [Host]

@[simp] theorem run_collectDescs (descBase : U64) (fuel : Nat) (idx : U16) (seen : List U16)
    (descs : List VirtIOBlk.Desc) :
    (collectDescs descBase fuel idx seen descs).run Bus.handle =
      VirtIOBlk.collectDescs descBase fuel idx seen descs := by
  induction fuel generalizing idx seen descs with
  | zero => rfl
  | succ fuel ih =>
      simp only [collectDescs, VirtIOBlk.collectDescs, run_cond, run_bind, run_pure, run_mul,
        run_add, run_read, ih]

@[simp] theorem run_writeBytes (base : U64) (i : Nat) (bytes : List U8) :
    (writeBytes base i bytes).run Bus.handle = VirtIOBlk.writeBytes base i bytes := by
  induction bytes generalizing i with
  | nil => rfl
  | cons b bytes ih =>
      simp only [writeBytes, VirtIOBlk.writeBytes, run_bind, run_add, run_write, ih]

@[simp] theorem run_readBytes (base : U64) (i n : Nat) :
    (readBytes base i n).run Bus.handle = VirtIOBlk.readBytes base i n := by
  induction n generalizing i with
  | zero => rfl
  | succ n ih =>
      simp only [readBytes, VirtIOBlk.readBytes, run_bind, run_pure, run_add, run_read, ih]

@[simp] theorem run_growDisk (stop : U64) :
    (growDisk stop).run Bus.handle = VirtIOBlk.growDisk stop := by
  simp only [growDisk, VirtIOBlk.growDisk, run_bind, run_device, run_cond, run_allocate, run_update,
    run_pure, bind_assoc, pure_bind]

@[simp] theorem run_processDescriptorChain (descBase : U64) (head : U16) :
    (processDescriptorChain descBase head).run Bus.handle =
      VirtIOBlk.processDescriptorChain descBase head := by
  simp only [processDescriptorChain, VirtIOBlk.processDescriptorChain, run_bind, run_device,
    run_cond, run_allocate, run_update, run_pure, bind_assoc, pure_bind, run_collectDescs,
    run_index,
    run_read, run_write, run_add, run_mul, run_growDisk, run_slice, run_writeBytes, run_readBytes,
    run_copyFromSlice]

@[simp] theorem run_serveChain (dev : VirtIOBlk) (last usedIdx : U16) :
    (serveChain dev last usedIdx).run Bus.handle = VirtIOBlk.serveChain dev last usedIdx := by
  simp only [serveChain, VirtIOBlk.serveChain, run_bind, run_add, run_mul, run_read, run_write,
    run_processDescriptorChain]

@[simp] theorem run_serveChains (dev : VirtIOBlk) (availIdx : U16) (fuel : Nat)
    (last usedIdx : U16) : (serveChains dev availIdx fuel last usedIdx).run Bus.handle =
      VirtIOBlk.serveChains dev availIdx fuel last usedIdx := by
  induction fuel generalizing last usedIdx with
  | zero => exact run_require_pure _ _
  | succ fuel ih =>
      simp only [serveChains, VirtIOBlk.serveChains, run_cond, run_bind, run_pure,
        run_serveChain, ih]

/-- The script is the device. -/
theorem run_processQueue (queueIdx : U32) :
    (processQueue queueIdx).run Bus.handle = VirtIOBlk.processQueue queueIdx := by
  simp only [processQueue, VirtIOBlk.processQueue, run_bind, run_device, run_cond, run_pure,
    run_add, run_read, run_serveChains, run_update, bind_assoc, pure_bind]

/-- A requirement does not stand for a second borrow, and a requirement of fuel is met. -/
def Sound : (β : Type) → DmaRequest β → Prop
  | _, .require holds cause => cause ≠ .alreadyBorrowed ∧ (cause = .outOfFuel → holds = true)
  | _, .device | _, .update _ | _, .read _ _ | _, .write _ _ _ => True

/-- Following a chain and moving its data asks for no more than this: the device stores single
bytes. -/
def Bytewise : (β : Type) → DmaRequest β → Prop
  | _, .require holds cause => cause ≠ .alreadyBorrowed ∧ (cause = .outOfFuel → holds = true)
  | _, .write _ size _ => size = 1
  | _, .device | _, .update _ | _, .read _ _ => True

omit [Host] in
theorem Bytewise.sound {β : Type} {r : DmaRequest β} (h : Bytewise β r) : Sound β r := by
  cases r with
  | require holds cause => exact h
  | write address size value => trivial
  | device => trivial
  | update f => trivial
  | read address size => trivial

section Sound

omit [Host] in
theorem bytewise_require {holds : Bool} {cause : Panic}
    (h : cause ≠ .alreadyBorrowed ∧ cause ≠ .outOfFuel) : (require holds cause).All Bytewise :=
  .request ⟨h.1, fun heq => absurd heq h.2⟩

theorem bytewise_add (a b : U64) : (add a b).All Bytewise :=
  (bytewise_require (by decide)).bind fun _ => .pure _

theorem bytewise_mul (a b : U64) : (mul a b).All Bytewise :=
  (bytewise_require (by decide)).bind fun _ => .pure _

theorem bytewise_allocate (n : Nat) : (allocate n).All Bytewise :=
  (bytewise_require (by decide)).bind fun _ => bytewise_require (by decide)

omit [Host] in
theorem bytewise_read (address : U64) (size : U8) : (read address size).All Bytewise :=
  .request trivial

omit [Host] in
theorem bytewise_write (address value : U64) : (write address 1 value).All Bytewise :=
  .request rfl

omit [Host] in
/-- There are only 65536 indices to see. -/
theorem length_seen_le {seen : List U16} (nodup : seen.Nodup) : seen.length ≤ 65536 := by
  have hlt : ∀ n ∈ seen.map BitVec.toNat, n < 65536 := by
    intro n hn
    obtain ⟨idx, -, rfl⟩ := List.mem_map.mp hn
    exact idx.isLt
  have hnodup : (seen.map BitVec.toNat).Nodup :=
    nodup.map fun _ _ h => BitVec.eq_of_toNat_eq h
  have hsubset : seen.map BitVec.toNat ⊆ List.range 65536 :=
    fun n hn => List.mem_range.mpr (hlt n hn)
  have hle := hnodup.length_le_of_subset hsubset
  rwa [List.length_map, List.length_range] at hle

theorem bytewise_collectDescs (descBase : U64) (fuel : Nat) (idx : U16) (seen : List U16)
    (descs : List VirtIOBlk.Desc) (nodup : seen.Nodup) (enough : 65537 ≤ seen.length + fuel) :
    (collectDescs descBase fuel idx seen descs).All Bytewise := by
  induction fuel generalizing idx seen descs with
  | zero =>
      have hle := length_seen_le nodup
      omega
  | succ fuel ih =>
      refine .ite (fun _ => .pure _) fun hnew => ?_
      refine (bytewise_mul _ _).bind fun _ => (bytewise_add _ _).bind fun _ => ?_
      refine (bytewise_read _ _).bind fun _ => ?_
      refine (bytewise_add _ _).bind fun _ => (bytewise_read _ _).bind fun _ => ?_
      refine (bytewise_add _ _).bind fun _ => (bytewise_read _ _).bind fun _ => ?_
      refine (bytewise_add _ _).bind fun _ => (bytewise_read _ _).bind fun _ => ?_
      refine .ite (fun _ => ih _ _ _ (List.nodup_cons.mpr ⟨hnew, nodup⟩) ?_) fun _ => .pure _
      rw [List.length_cons]
      omega

theorem bytewise_writeBytes (base : U64) (i : Nat) (bytes : List U8) :
    (writeBytes base i bytes).All Bytewise := by
  induction bytes generalizing i with
  | nil => exact .pure _
  | cons b bytes ih => exact (bytewise_add _ _).bind fun _ =>
      (bytewise_write _ _).bind fun _ => ih _

theorem bytewise_readBytes (base : U64) (i n : Nat) : (readBytes base i n).All Bytewise := by
  induction n generalizing i with
  | zero => exact .pure _
  | succ n ih =>
      exact (bytewise_add _ _).bind fun _ => (bytewise_read _ _).bind fun _ =>
        (ih _).bind fun _ => .pure _

theorem bytewise_growDisk (stop : U64) : (growDisk stop).All Bytewise := by
  refine .bind (.request trivial) fun device => .ite (fun _ => ?_) fun _ => .pure _
  exact (bytewise_allocate _).bind fun _ => .request trivial

theorem bytewise_processDescriptorChain (descBase : U64) (head : U16) :
    (processDescriptorChain descBase head).All Bytewise := by
  have hindex (descs : List VirtIOBlk.Desc) (i : Nat) : (index descs i).All Bytewise :=
    (bytewise_require (by decide)).bind fun _ => .pure _
  have hrest (status : VirtIOBlk.Desc) :
      (do write status.addr 1 0; return (0 : U32) : DmaScript U32).All Bytewise :=
    (bytewise_write _ _).bind fun _ => .pure _
  refine (bytewise_collectDescs _ _ _ _ _ List.nodup_nil (by decide)).bind fun descs => ?_
  refine .ite (fun _ => .pure _) fun _ => ?_
  refine (hindex _ _).bind fun header => (hindex _ _).bind fun data => ?_
  refine (hindex _ _).bind fun status => (bytewise_read _ _).bind fun reqType => ?_
  refine (bytewise_add _ _).bind fun _ => (bytewise_read _ _).bind fun sector => ?_
  refine (bytewise_mul _ _).bind fun offset => .ite (fun _ => ?_) fun _ =>
    .ite (fun _ => ?_) fun _ => hrest _
  · refine (bytewise_add _ _).bind fun stop => (bytewise_growDisk _).bind fun _ => ?_
    refine .bind (.request trivial) fun device => .bind ?_ fun chunk => ?_
    · exact (bytewise_require (by decide)).bind fun _ => .pure _
    exact (bytewise_allocate _).bind fun _ => (bytewise_writeBytes _ _ _).bind fun _ => hrest _
  · refine (bytewise_allocate _).bind fun _ => (bytewise_readBytes _ _ _).bind fun chunk => ?_
    refine (bytewise_add _ _).bind fun stop => (bytewise_growDisk _).bind fun _ => ?_
    refine .bind (.request trivial) fun device => .bind ?_ fun disk => ?_
    · exact (bytewise_require (by decide)).bind fun _ => .pure _
    exact .bind (.request trivial) fun _ => hrest _

theorem sound_add (a b : U64) : (add a b).All Sound :=
  (bytewise_add a b).mono fun _ _ => Bytewise.sound

theorem sound_mul (a b : U64) : (mul a b).All Sound :=
  (bytewise_mul a b).mono fun _ _ => Bytewise.sound

omit [Host] in
theorem sound_read (address : U64) (size : U8) : (read address size).All Sound :=
  .request trivial

omit [Host] in
theorem sound_write (address : U64) (size : U8) (value : U64) :
    (write address size value).All Sound := .request trivial

theorem sound_processDescriptorChain (descBase : U64) (head : U16) :
    (processDescriptorChain descBase head).All Sound :=
  (bytewise_processDescriptorChain descBase head).mono fun _ _ => Bytewise.sound

theorem sound_serveChain (dev : VirtIOBlk) (last usedIdx : U16) :
    (serveChain dev last usedIdx).All Sound := by
  refine (sound_add _ _).bind fun _ => (sound_mul _ _).bind fun _ =>
    (sound_add _ _).bind fun _ => ?_
  refine (sound_read _ _).bind fun _ => (sound_processDescriptorChain _ _).bind fun _ => ?_
  refine (sound_add _ _).bind fun _ => (sound_mul _ _).bind fun _ =>
    (sound_add _ _).bind fun _ => ?_
  refine (sound_write _ _ _).bind fun _ => (sound_add _ _).bind fun _ => ?_
  exact (sound_write _ _ _).bind fun _ => (sound_add _ _).bind fun _ => sound_write _ _ _

/-- The cursor reaches the index within the fuel, wrapping if need be. -/
theorem sound_serveChains (dev : VirtIOBlk) (availIdx : U16) (fuel : Nat) (last usedIdx : U16)
    (enough : (availIdx - last).toNat ≤ fuel) :
    (serveChains dev availIdx fuel last usedIdx).All Sound := by
  induction fuel generalizing last usedIdx with
  | zero =>
      have hlast : last = availIdx := by
        have hzero : availIdx - last = 0 := BitVec.eq_of_toNat_eq (Nat.le_zero.mp enough)
        exact ((BitVec.sub_eq_iff_eq_add.mp hzero).trans (BitVec.zero_add _)).symm
      exact ⟨⟨by decide, fun _ => decide_eq_true hlast⟩, fun _ => trivial⟩
  | succ fuel ih =>
      refine .ite (fun _ => .pure _) fun hne => (sound_serveChain _ _ _).bind fun _ => ih _ _ ?_
      bv_omega

/-- No notify runs out of fuel: both loops end. -/
theorem sound_processQueue (queueIdx : U32) : (processQueue queueIdx).All Sound := by
  refine .bind (.request trivial) fun dev => .ite (fun _ => .pure _) fun _ => ?_
  refine (sound_add _ _).bind fun _ => (sound_read _ _).bind fun _ => ?_
  refine (sound_add _ _).bind fun _ => (sound_read _ _).bind fun _ => ?_
  refine (sound_serveChains _ _ _ _ _ (Nat.le_of_lt (BitVec.isLt _))).bind fun last => ?_
  exact .request trivial

end Sound

end DmaScript

end Riscvm.Rv64rs
