import Riscvm.Foundation.LastWriter
import Riscvm.Rv64rs.DiskRequests

/-!
# The disk over a history of requests

Serving a request of three descriptors always succeeds, and what it leaves is written down
here: `Request.serve` for the chain, `complete` for the used ring. Over a history of guest
activity and served requests the disk holds at each position what was written there last.
-/

namespace Riscvm.Rv64rs

open Bytes Exec LastWriter Bus

namespace Bus

def withVirtio (bus : Bus) (virtio : VirtIOBlk) : Bus :=
  { bus with dev := { bus.dev with virtio } }

def setDisk (bus : Bus) (disk : List U8) : Bus := bus.withVirtio { bus.dev.virtio with disk }

@[simp] theorem range_withVirtio (bus : Bus) (virtio : VirtIOBlk) (w : Window) :
    (bus.withVirtio virtio).range w = bus.range w := by
  cases w <;> rfl

theorem locate_withVirtio (bus : Bus) (virtio : VirtIOBlk) (address n : U64) :
    (bus.withVirtio virtio).locate address n = bus.locate address n := by
  simp only [locate, range_withVirtio]

theorem offset_withVirtio (bus : Bus) (virtio : VirtIOBlk) (w : Window) (address : U64) :
    (bus.withVirtio virtio).offset w address = bus.offset w address := by
  rw [offset, offset, range_withVirtio]

@[simp] theorem memory_withVirtio (bus : Bus) (virtio : VirtIOBlk) (w : Window) :
    (bus.withVirtio virtio).memory w = bus.memory w := by
  cases w <;> rfl

theorem Wf.withVirtio {bus : Bus} (wf : bus.Wf) (virtio : VirtIOBlk) :
    (bus.withVirtio virtio).Wf := by
  constructor
  · intro w
    rw [range_withVirtio]
    exact wf.bounded w
  · intro w ram h
    rw [range_withVirtio]
    exact wf.length w ram (memory_withVirtio bus virtio w ▸ h)

theorem Wf.setDisk {bus : Bus} (wf : bus.Wf) (disk : List U8) : (bus.setDisk disk).Wf :=
  wf.withVirtio _

theorem InRam.setDisk {bus : Bus} {a n : Nat} (h : bus.InRam a n) (disk : List U8) :
    (bus.setDisk disk).InRam a n :=
  h.congr fun w => range_withVirtio bus _ w

end Bus

namespace VirtIOBlk

/-! ## What a request leaves -/

/-- The disk after `resize`. -/
def grown (disk : List U8) (stop : Nat) : List U8 :=
  disk ++ List.replicate (stop - disk.length) 0

theorem length_grown (disk : List U8) (stop : Nat) : stop ≤ (grown disk stop).length := by
  rw [grown, List.length_append, List.length_replicate]
  omega

namespace Request

/-- The disk after the request. -/
def disk (req : Request) (bus : Bus) : List U8 :=
  let disk := grown bus.dev.virtio.disk (req.offset + req.length)
  if req.reqType = VIRTIO_BLK_T_OUT then
    splice disk req.offset (bus.ramBytes req.data.addr.toNat req.length)
  else disk

/-- The machine after the data has moved. -/
def transfer (req : Request) (bus : Bus) : Bus :=
  let bus' := bus.setDisk (req.disk bus)
  if req.reqType = VIRTIO_BLK_T_IN then
    bus'.poke req.data.addr.toNat (extract (req.disk bus) req.offset req.length)
  else bus'

/-- The machine after the chain has been processed. -/
def serve (req : Request) (bus : Bus) : Bus := (req.transfer bus).poke req.status.addr.toNat [0]

end Request

/-- The place of the entry for `usedIdx` in the used ring. -/
def usedSlot (device : VirtIOBlk) (usedIdx : U16) : Nat :=
  device.usedAddr.toNat + 4 + 8 * (usedIdx.toNat % device.queueNum.toNat)

/-- The machine after `head` has been entered into the used ring. -/
def complete (device : VirtIOBlk) (usedIdx head : U16) (bus : Bus) : Bus :=
  ((bus.poke (device.usedSlot usedIdx) (leBytes 4 head.toNat)).poke
    (device.usedSlot usedIdx + 4) (leBytes 4 0)).poke
    (device.usedAddr.toNat + 2) (leBytes 2 (usedIdx + 1).toNat)

@[simp] theorem complete_dev (device : VirtIOBlk) (usedIdx head : U16) (bus : Bus) :
    (device.complete usedIdx head bus).dev = bus.dev := by
  rw [complete, poke_dev, poke_dev, poke_dev]

/-- No address lies in both of two areas. -/
def Apart (a n b m : Nat) : Prop := ∀ x, a ≤ x → x < a + n → ¬(b ≤ x ∧ x < b + m)

/-- The used ring of the queue. -/
def usedLength (device : VirtIOBlk) : Nat := 4 + 8 * device.queueNum.toNat

section Queue

variable [Host]

/-- The available ring holds at `last` the head of the well-formed request `req`. -/
structure Submitted (device : VirtIOBlk) (last : U16) (req : Request) (bus : Bus) : Prop where
  queueNum : device.queueNum ≠ 0
  head : Holds bus (device.availAddr.toNat + 4 + 2 * (last.toNat % device.queueNum.toNat)) 2
    req.head.toNat
  chain : Chain bus device.descAddr req
  kind : req.reqType = VIRTIO_BLK_T_IN ∨ req.reqType = VIRTIO_BLK_T_OUT
  data : bus.InRam req.data.addr.toNat req.length
  status : bus.InRam req.status.addr.toNat 1
  used : bus.InRam device.usedAddr.toNat device.usedLength
  dataStatus : Apart req.data.addr.toNat req.length req.status.addr.toNat 1
  dataUsed : Apart req.data.addr.toNat req.length device.usedAddr.toNat device.usedLength
  statusUsed : Apart req.status.addr.toNat 1 device.usedAddr.toNat device.usedLength
  fits : req.offset + req.length < 2 ^ 63
  memory : req.offset + req.length ≤ Host.memory

/-! ## Serving a chain -/

section Serving

variable {bus : Bus} {req : Request}

theorem growDisk_apply {stop : U64} (fits : stop.toNat < 2 ^ 63)
    (memory : stop.toNat ≤ Host.memory) :
    growDisk stop bus = .ok () (bus.setDisk (grown bus.dev.virtio.disk stop.toNat)) := by
  rw [growDisk, get_bind_apply]
  rcases Nat.lt_or_ge bus.dev.virtio.disk.length stop.toNat with h | h
  · rw [if_pos h, allocate_of_le fits memory]
    rfl
  · rw [if_neg (Nat.not_lt.mpr h), grown, Nat.sub_eq_zero_of_le h, List.replicate_zero,
      List.append_nil]
    rfl

omit [Host] in
theorem Request.disk_in (hkind : req.reqType = VIRTIO_BLK_T_IN) :
    req.disk bus = grown bus.dev.virtio.disk (req.offset + req.length) := by
  have hne : req.reqType ≠ VIRTIO_BLK_T_OUT := by
    rw [hkind]
    decide
  exact if_neg hne

omit [Host] in
theorem Request.length_chunk (hkind : req.reqType = VIRTIO_BLK_T_IN) :
    (extract (req.disk bus) req.offset req.length).length = req.length := by
  rw [Request.disk_in hkind]
  exact length_extract (length_grown _ _)

omit [Host] in
/-- The position of the request on the disk is computed without overflow. -/
theorem Request.toNat_offset (fits : req.offset + req.length < 2 ^ 63) :
    (req.sector * SECTOR_SIZE).toNat = req.offset ∧
      (req.sector * SECTOR_SIZE + req.data.length.setWidth 64).toNat = req.offset + req.length := by
  have hsize : SECTOR_SIZE.toNat = 512 := rfl
  have hoffset : (req.sector * SECTOR_SIZE).toNat = req.offset := by
    rw [BitVec.toNat_mul, hsize, Nat.mul_comm, Nat.mod_eq_of_lt]
    · rfl
    · rw [Request.offset] at fits
      omega
  have hlength : (req.data.length.setWidth 64).toNat = req.length :=
    BitVec.toNat_setWidth_of_le (by decide)
  refine ⟨hoffset, ?_⟩
  rw [BitVec.toNat_add, hoffset, hlength, Nat.mod_eq_of_lt (by omega)]

omit [Host] in
theorem Request.mul_lt (fits : req.offset + req.length < 2 ^ 63) :
    req.sector.toNat * SECTOR_SIZE.toNat < 2 ^ 64 := by
  rw [Request.offset] at fits
  change req.sector.toNat * 512 < 2 ^ 64
  omega

/-- The header of the request, and room for its data in RAM and on the disk. -/
structure Moves (req : Request) (bus : Bus) : Prop where
  reqType : Holds bus req.header.addr.toNat 4 req.reqType.toNat
  sector : Holds bus (req.header.addr.toNat + 8) 8 req.sector.toNat
  data : bus.InRam req.data.addr.toNat req.length
  status : bus.InRam req.status.addr.toNat 1
  fits : req.offset + req.length < 2 ^ 63
  memory : req.offset + req.length ≤ Host.memory

/-- What a chain of any length puts down as its header, its data and its status. -/
structure Collected (descBase : U64) (req : Request) (bus : Bus) (descs : List Desc) : Prop where
  run : collectDescs descBase 65537 req.head [] [] bus = .ok descs bus
  enough : 3 ≤ descs.length
  header : descs[0]? = some req.header
  data : descs[1]? = some req.data
  status : descs[descs.length - 1]? = some req.status

omit [Host] in
theorem index_bind {α β : Type} {xs : List α} {i : Nat} {x : α} (h : xs[i]? = some x)
    (f : α → Call Bus β) (s : Bus) : (index xs i >>= f) s = f x s := by
  rw [index, h]
  rfl

/-- What is left to do for the request once its header has been read. -/
def Request.tail (req : Request) : Call Bus U32 := do
  let offset ← mul req.sector SECTOR_SIZE
  let dataLen := req.data.length.setWidth 64
  if req.reqType = VIRTIO_BLK_T_IN then
    let stop ← add offset dataLen
    growDisk stop
    let chunk ← slice (← get).dev.virtio.disk offset.toNat stop.toNat
    allocate chunk.length
    writeBytes req.data.addr 0 chunk
  else if req.reqType = VIRTIO_BLK_T_OUT then
    allocate dataLen.toNat
    let chunk ← readBytes req.data.addr 0 dataLen.toNat
    let stop ← add offset dataLen
    growDisk stop
    let disk ← copyFromSlice (← get).dev.virtio.disk offset.toNat stop.toNat chunk
    onVirtio (modify fun device => { device with disk })
  dmaWrite req.status.addr 1 0
  return 0

/-- The chain is followed and its header is read. -/
theorem Collected.run_tail (wf : bus.Wf) {descBase : U64} {descs : List Desc}
    (collected : Collected descBase req bus descs) (moves : Moves req bus) :
    processDescriptorChain descBase req.head bus = req.tail bus := by
  rw [processDescriptorChain, bind_ok collected.run, if_neg (Nat.not_lt.mpr collected.enough),
    index_bind collected.header, index_bind collected.data, index_bind collected.status,
    Holds.header_bind wf moves.reqType moves.sector, setWidth_ofNat_toNat req.reqType (by decide)]
  rfl

/-- Both directions end by storing the status byte. -/
theorem Request.report_eq (wf : bus.Wf) (h : bus.InRam req.status.addr.toNat 1) :
    (do dmaWrite req.status.addr 1 0; return (0 : U32)) bus =
      .ok 0 (bus.poke req.status.addr.toNat [0]) := by
  rw [bind_ok (dmaWrite_ram wf (.inl rfl) h 0)]
  rfl

namespace Moves

variable (moves : Moves req bus)

include moves

theorem sum_lt :
    (req.sector * SECTOR_SIZE).toNat + (req.data.length.setWidth 64).toNat < 2 ^ 64 := by
  have hlength : (req.data.length.setWidth 64).toNat = req.length :=
    BitVec.toNat_setWidth_of_le (by decide)
  have hfits := moves.fits
  rw [(Request.toNat_offset moves.fits).1, hlength]
  omega

/-- The disk grows to the end of the request. -/
theorem growDisk_eq : growDisk (req.sector * SECTOR_SIZE + req.data.length.setWidth 64) bus =
    .ok () (bus.setDisk (grown bus.dev.virtio.disk (req.offset + req.length))) := by
  have hstop := (Request.toNat_offset moves.fits).2
  have hgrow := @growDisk_apply _ bus (req.sector * SECTOR_SIZE + req.data.length.setWidth 64)
    (hstop ▸ moves.fits) (hstop ▸ moves.memory)
  rwa [hstop] at hgrow

theorem allocate_eq {σ : Type} : (allocate req.length : Call σ Unit) = pure () := by
  have hfits := moves.fits
  have hmemory := moves.memory
  exact allocate_of_le (by omega) (by omega)

/-- A read request: the disk is copied into RAM. -/
theorem tail_in (wf : bus.Wf) (hkind : req.reqType = VIRTIO_BLK_T_IN) :
    req.tail bus = .ok 0 (req.serve bus) := by
  obtain ⟨hoffset, hstop⟩ := Request.toNat_offset moves.fits
  have hlong := length_grown bus.dev.virtio.disk (req.offset + req.length)
  have hdisk := @Request.disk_in bus req hkind
  have hchunk := @Request.length_chunk bus req hkind
  have hdata : (bus.setDisk (req.disk bus)).InRam (req.data.addr.toNat + 0)
      (extract (req.disk bus) req.offset req.length).length :=
    hchunk.symm ▸ moves.data.setDisk _
  rw [Request.tail, mul_bind (Request.mul_lt moves.fits)]
  dsimp only
  rw [if_pos hkind, add_bind moves.sum_lt, bind_ok moves.growDisk_eq, get_bind_apply, hoffset,
    hstop, ← hdisk]
  change (slice (req.disk bus) _ _ >>= _) _ = _
  rw [slice_of_le (Nat.le_add_right _ _) (hdisk ▸ hlong), pure_bind_apply, Nat.add_sub_cancel_left]
  change (allocate (extract (req.disk bus) req.offset req.length).length >>= _) _ = _
  rw [hchunk, moves.allocate_eq, pure_bind_apply]
  change (writeBytes _ _ (extract (req.disk bus) req.offset req.length) >>= _) _ = _
  rw [bind_ok (writeBytes_ram (wf.setDisk _) hdata),
    Request.report_eq ((wf.setDisk _).poke hdata) ((moves.status.setDisk _).poke _ _),
    Request.serve, Request.transfer, if_pos hkind]
  rfl

/-- A write request: RAM is copied onto the disk. -/
theorem tail_out (wf : bus.Wf) (hkind : req.reqType = VIRTIO_BLK_T_OUT) :
    req.tail bus = .ok 0 (req.serve bus) := by
  obtain ⟨hoffset, hstop⟩ := Request.toNat_offset moves.fits
  have hlong := length_grown bus.dev.virtio.disk (req.offset + req.length)
  have hlength : (req.data.length.setWidth 64).toNat = req.length :=
    BitVec.toNat_setWidth_of_le (by decide)
  have hne : req.reqType ≠ VIRTIO_BLK_T_IN := by
    rw [hkind]
    decide
  have hdisk : req.disk bus = splice (grown bus.dev.virtio.disk (req.offset + req.length))
      req.offset (bus.ramBytes req.data.addr.toNat req.length) := if_pos hkind
  have hread := length_ramBytes wf moves.data
  rw [Request.tail, mul_bind (Request.mul_lt moves.fits)]
  dsimp only
  rw [if_neg hne, if_pos hkind, hlength, moves.allocate_eq, pure_bind_apply,
    bind_ok (readBytes_ram wf moves.data), add_bind moves.sum_lt, bind_ok moves.growDisk_eq,
    get_bind_apply, hoffset, hstop]
  change (copyFromSlice (grown bus.dev.virtio.disk (req.offset + req.length)) _ _
    (bus.ramBytes req.data.addr.toNat req.length) >>= _) _ = _
  rw [copyFromSlice_of_le hlong (by rw [hread]), pure_bind_apply]
  have hsplice : (grown bus.dev.virtio.disk (req.offset + req.length)).take req.offset ++
      bus.ramBytes req.data.addr.toNat req.length ++
      (grown bus.dev.virtio.disk (req.offset + req.length)).drop (req.offset + req.length) =
      req.disk bus := by
    rw [hdisk, splice, hread]
  rw [hsplice]
  change (do dmaWrite req.status.addr 1 0; return (0 : U32)) (bus.setDisk (req.disk bus)) = _
  rw [Request.report_eq (wf.setDisk _) (moves.status.setDisk _), Request.serve, Request.transfer,
    if_neg hne]

end Moves

/-- Processing the chain of a read or write request. -/
theorem processDescriptorChain_moves (wf : bus.Wf) {descBase : U64} {descs : List Desc}
    (collected : Collected descBase req bus descs) (moves : Moves req bus)
    (kind : req.reqType = VIRTIO_BLK_T_IN ∨ req.reqType = VIRTIO_BLK_T_OUT) :
    processDescriptorChain descBase req.head bus = .ok 0 (req.serve bus) := by
  rw [collected.run_tail wf moves]
  exact kind.elim (moves.tail_in wf) (moves.tail_out wf)

/-- Processing the chain of a well-formed request. -/
theorem processDescriptorChain_apply (wf : bus.Wf) {device : VirtIOBlk} {last : U16}
    (sub : Submitted device last req bus) :
    processDescriptorChain device.descAddr req.head bus = .ok 0 (req.serve bus) := by
  have collected : Collected device.descAddr req bus [req.header, req.data, req.status] :=
    ⟨collectDescs_chain wf sub.chain, Nat.le_refl _, rfl, rfl, rfl⟩
  exact processDescriptorChain_moves wf collected
    ⟨sub.chain.reqType, sub.chain.sector, sub.data, sub.status, sub.fits, sub.memory⟩ sub.kind

/-! ## The used ring -/

omit [Host] in
/-- A slot number of the queue, as the device computes it. -/
theorem toNat_slot (idx : U16) (n : U32) :
    (idx.setWidth 64 % n.setWidth 64 : U64).toNat = idx.toNat % n.toNat := by
  rw [BitVec.toNat_umod, BitVec.toNat_setWidth_of_le (by decide),
    BitVec.toNat_setWidth_of_le (by decide)]

omit [Host] in
theorem slot_lt {device : VirtIOBlk} (h : device.queueNum ≠ 0) (idx : U16) :
    idx.toNat % device.queueNum.toNat < device.queueNum.toNat := by
  apply Nat.mod_lt
  exact Nat.pos_of_ne_zero fun hzero => h (BitVec.eq_of_toNat_eq hzero)

omit [Host] in
theorem Request.transfer_inRam {a n : Nat} (h : bus.InRam a n) : (req.transfer bus).InRam a n := by
  rw [Request.transfer]
  split
  · exact (h.setDisk _).poke _ _
  · exact h.setDisk _

omit [Host] in
theorem Request.serve_inRam {a n : Nat} (h : bus.InRam a n) : (req.serve bus).InRam a n :=
  (Request.transfer_inRam h).poke _ _

theorem Submitted.transfer_wf (wf : bus.Wf) {device : VirtIOBlk} {last : U16}
    (sub : Submitted device last req bus) : (req.transfer bus).Wf := by
  rw [Request.transfer]
  split
  next hkind =>
    have hchunk := @Request.length_chunk bus req hkind
    have hdata : (bus.setDisk (req.disk bus)).InRam req.data.addr.toNat
        (extract (req.disk bus) req.offset req.length).length := hchunk.symm ▸ sub.data.setDisk _
    exact (wf.setDisk _).poke hdata
  next => exact wf.setDisk _

theorem Submitted.serve_wf (wf : bus.Wf) {device : VirtIOBlk} {last : U16}
    (sub : Submitted device last req bus) : (req.serve bus).Wf :=
  (sub.transfer_wf wf).poke (Request.transfer_inRam sub.status)

/-- The place in the available ring that the cursor `last` stands for. -/
def availSlot (device : VirtIOBlk) (last : U16) : Nat :=
  device.availAddr.toNat + 4 + 2 * (last.toNat % device.queueNum.toNat)

omit [Host] in
/-- The entry for `usedIdx` lies in the ring, behind its two counters. -/
theorem usedSlot_le {device : VirtIOBlk} (hnum : device.queueNum ≠ 0) (usedIdx : U16) :
    device.usedAddr.toNat + 4 ≤ device.usedSlot usedIdx ∧
      device.usedSlot usedIdx + 8 ≤ device.usedAddr.toNat + device.usedLength := by
  have hbound := slot_lt hnum usedIdx
  rw [usedSlot, usedLength]
  omega

omit [Host] in
/-- The three stores into the used ring. -/
theorem inRam_complete {device : VirtIOBlk} {head : U16} (hnum : device.queueNum ≠ 0)
    (used : bus.InRam device.usedAddr.toNat device.usedLength) (usedIdx : U16) :
    bus.InRam (device.usedSlot usedIdx) (leBytes 4 head.toNat).length ∧
      bus.InRam (device.usedSlot usedIdx + 4) (leBytes 4 0).length ∧
      bus.InRam (device.usedAddr.toNat + 2) (leBytes 2 (usedIdx + 1).toNat).length := by
  obtain ⟨hlow, hhigh⟩ := usedSlot_le hnum usedIdx
  have hlength : device.usedLength = 4 + 8 * device.queueNum.toNat := rfl
  rw [leBytes_length, leBytes_length, leBytes_length]
  refine ⟨used.sub ?_ ?_, used.sub ?_ ?_, used.sub ?_ ?_⟩ <;> omega

/-- The slot number of an index, as the device computes it. -/
def slotOf (device : VirtIOBlk) (idx : U16) : U64 := idx.setWidth 64 % device.queueNum.setWidth 64

/-- The address of the entry in the available ring is computed without overflow. -/
structure AvailAddress (device : VirtIOBlk) (last : U16) : Prop where
  base : device.availAddr.toNat + (4 : U64).toNat < 2 ^ 64
  index : (device.slotOf last).toNat * (2 : U64).toNat < 2 ^ 64
  sum : (device.availAddr + 4).toNat + (device.slotOf last * 2).toNat < 2 ^ 64
  slot : (device.availAddr + 4 + device.slotOf last * 2).toNat = device.availSlot last

/-- So are those of the entry in the used ring and of the index. -/
structure UsedAddress (device : VirtIOBlk) (usedIdx : U16) : Prop where
  base : device.usedAddr.toNat + (4 : U64).toNat < 2 ^ 64
  index : (device.slotOf usedIdx).toNat * (8 : U64).toNat < 2 ^ 64
  sum : (device.usedAddr + 4).toNat + (device.slotOf usedIdx * 8).toNat < 2 ^ 64
  slot : (device.usedAddr + 4 + device.slotOf usedIdx * 8).toNat = device.usedSlot usedIdx
  lengthSum : (device.usedAddr + 4 + device.slotOf usedIdx * 8).toNat + (4 : U64).toNat < 2 ^ 64
  length : (device.usedAddr + 4 + device.slotOf usedIdx * 8 + 4).toNat = device.usedSlot usedIdx + 4
  idxSum : device.usedAddr.toNat + (2 : U64).toNat < 2 ^ 64
  idx : (device.usedAddr + 2).toNat = device.usedAddr.toNat + 2

omit [Host] in
theorem availAddress {device : VirtIOBlk} {last : U16} (hlt : device.availSlot last + 2 < 2 ^ 64) :
    AvailAddress device last := by
  have hslot : (device.slotOf last).toNat = last.toNat % device.queueNum.toNat := toNat_slot _ _
  have h2 : (2 : U64).toNat = 2 := rfl
  have h4 : (4 : U64).toNat = 4 := rfl
  rw [availSlot] at hlt
  have hbase : (device.availAddr + 4).toNat = device.availAddr.toNat + 4 :=
    BitVec.toNat_add_of_lt (by omega)
  have hprod : (device.slotOf last * 2).toNat = 2 * (last.toNat % device.queueNum.toNat) := by
    rw [BitVec.toNat_mul, hslot, h2, Nat.mod_eq_of_lt (by omega), Nat.mul_comm]
  refine ⟨by omega, by rw [h2]; omega, by omega, ?_⟩
  rw [BitVec.toNat_add_of_lt (by omega), hbase, hprod, availSlot]

omit [Host] in
theorem usedAddress {device : VirtIOBlk} {usedIdx : U16} (hnum : device.queueNum ≠ 0)
    (hlt : device.usedAddr.toNat + device.usedLength < 2 ^ 64) : UsedAddress device usedIdx := by
  have hslot : (device.slotOf usedIdx).toNat = usedIdx.toNat % device.queueNum.toNat :=
    toNat_slot _ _
  have hbound := slot_lt hnum usedIdx
  have h2 : (2 : U64).toNat = 2 := rfl
  have h4 : (4 : U64).toNat = 4 := rfl
  have h8 : (8 : U64).toNat = 8 := rfl
  rw [usedLength] at hlt
  have hbase : (device.usedAddr + 4).toNat = device.usedAddr.toNat + 4 :=
    BitVec.toNat_add_of_lt (by omega)
  have hprod : (device.slotOf usedIdx * 8).toNat = 8 * (usedIdx.toNat % device.queueNum.toNat) := by
    rw [BitVec.toNat_mul, hslot, h8, Nat.mod_eq_of_lt (by omega), Nat.mul_comm]
  have helem : (device.usedAddr + 4 + device.slotOf usedIdx * 8).toNat =
      device.usedSlot usedIdx := by
    rw [BitVec.toNat_add_of_lt (by omega), hbase, hprod, usedSlot]
  have hend : device.usedSlot usedIdx + 8 < 2 ^ 64 := by
    rw [usedSlot]
    omega
  refine ⟨by omega, by rw [h8]; omega, by omega, helem, by omega, ?_, by omega, ?_⟩
  · rw [BitVec.toNat_add_of_lt (by omega), helem, h4]
  · exact BitVec.toNat_add_of_lt (by omega)

/-- The three stores that enter `head` into the used ring. -/
theorem usedStores (wf : bus.Wf) {device : VirtIOBlk} {usedIdx head : U16}
    (hnum : device.queueNum ≠ 0) (used : bus.InRam device.usedAddr.toNat device.usedLength) :
    ∃ bus₁ bus₂, dmaWrite (device.usedAddr + 4 + device.slotOf usedIdx * 8) 4
      (head.setWidth 64) bus =
        .ok () bus₁ ∧
      dmaWrite (device.usedAddr + 4 + device.slotOf usedIdx * 8 + 4) 4
        ((0 : U32).setWidth 64) bus₁ =
        .ok () bus₂ ∧
      dmaWrite (device.usedAddr + 2) 2 ((usedIdx + 1).setWidth 64) bus₂ =
        .ok () (device.complete usedIdx head bus) := by
  have address := @usedAddress device usedIdx hnum (used.lt wf)
  obtain ⟨hhead, hlength, hidx⟩ := @inRam_complete bus device head hnum used usedIdx
  rw [leBytes_length] at hhead hlength hidx
  have wf₁ := @Wf.poke _ _ (leBytes 4 head.toNat) wf hhead
  have wf₂ := @Wf.poke _ _ (leBytes 4 0) wf₁ (hlength.poke _ _)
  have hhead₂ := @dmaWrite_ram _ _ wf (device.usedAddr + 4 + device.slotOf usedIdx * 8) 4
    (by decide) (address.slot ▸ hhead) (head.setWidth 64)
  have hlength₂ := @dmaWrite_ram _ _ wf₁ (device.usedAddr + 4 + device.slotOf usedIdx * 8 + 4) 4
    (by decide) (address.length ▸ hlength.poke _ _) ((0 : U32).setWidth 64)
  have hidx₂ := @dmaWrite_ram _ _ wf₂ (device.usedAddr + 2) 2
    (by decide) (address.idx ▸ (hidx.poke _ _).poke _ _) ((usedIdx + 1).setWidth 64)
  rw [address.slot, BitVec.toNat_setWidth_of_le (by decide)] at hhead₂
  rw [address.length] at hlength₂
  rw [address.idx, BitVec.toNat_setWidth_of_le (by decide)] at hidx₂
  exact ⟨_, _, hhead₂, hlength₂, hidx₂⟩

/-- One round of the loop over the available ring, whatever the chain is. -/
theorem serveChain_complete (wf : bus.Wf) {device : VirtIOBlk} {last usedIdx head : U16}
    {bus₁ : Bus} (hnum : device.queueNum ≠ 0)
    (hhead : Holds bus (device.availSlot last) 2 head.toNat)
    (hchain : processDescriptorChain device.descAddr head bus = .ok 0 bus₁) (wf₁ : bus₁.Wf)
    (used : bus₁.InRam device.usedAddr.toNat device.usedLength) :
    serveChain device last usedIdx bus = .ok () (device.complete usedIdx head bus₁) := by
  have avail := availAddress (hhead.inRam.lt wf)
  have address := @usedAddress device usedIdx hnum (used.lt wf₁)
  obtain ⟨bus₂, bus₃, hentry, hlength, hidx⟩ := usedStores wf₁ hnum used
  rw [← avail.slot] at hhead
  rw [serveChain]
  dsimp only
  rw [add_bind avail.base]
  change (mul (device.slotOf last) 2 >>= _) bus = _
  rw [mul_bind avail.index, add_bind avail.sum, hhead.dmaRead_bind wf (by decide),
    setWidth_ofNat_toNat head (by decide), bind_ok hchain, add_bind address.base]
  change (mul (device.slotOf usedIdx) 8 >>= _) bus₁ = _
  rw [mul_bind address.index, add_bind address.sum, bind_ok hentry, add_bind address.lengthSum]
  refine (bind_ok hlength _).trans ?_
  rw [add_bind address.idxSum]
  exact hidx

/-- One round of the loop over the available ring. -/
theorem serveChain_apply (wf : bus.Wf) {device : VirtIOBlk} {last : U16}
    (sub : Submitted device last req bus) (usedIdx : U16) :
    serveChain device last usedIdx bus =
      .ok () (device.complete usedIdx req.head (req.serve bus)) :=
  serveChain_complete wf sub.queueNum sub.head (processDescriptorChain_apply wf sub)
    (sub.serve_wf wf) (Request.serve_inRam sub.used)

/-! ## What changes -/

omit [Host] in
theorem getD_disk (wf : bus.Wf) (data : bus.InRam req.data.addr.toNat req.length) (i : Nat) :
    (req.disk bus).getD i 0 =
      if req.reqType = VIRTIO_BLK_T_OUT ∧ req.offset ≤ i ∧ i < req.offset + req.length then
        (bus.ramBytes req.data.addr.toNat req.length).getD (i - req.offset) 0
      else bus.dev.virtio.disk.getD i 0 := by
  have hlong := length_grown bus.dev.virtio.disk (req.offset + req.length)
  have hread := length_ramBytes wf data
  rw [Request.disk]
  split
  next hkind =>
    rw [List.getD_eq_getElem?_getD, getElem?_splice (hread.symm ▸ hlong), hread]
    simp only [hkind, true_and]
    split
    next => rw [List.getD_eq_getElem?_getD]
    next => rw [← List.getD_eq_getElem?_getD, grown, getD_pad]
  next hkind => rw [if_neg fun h => hkind h.1, grown, getD_pad]

omit [Host] in
theorem getElem?_disk_in (hkind : req.reqType = VIRTIO_BLK_T_IN) {i : Nat}
    (hi : i < bus.dev.virtio.disk.length) : (req.disk bus)[i]? = bus.dev.virtio.disk[i]? := by
  rw [Request.disk_in hkind, grown, List.getElem?_append_left hi]

omit [Host] in
theorem disk_serve : (req.serve bus).dev.virtio.disk = req.disk bus := by
  rw [Request.serve, poke_dev, Request.transfer]
  split
  next => rw [poke_dev]; rfl
  next => rfl

omit [Host] in
/-- Entering a request into the used ring changes nothing outside it. -/
theorem ramByte_complete {device : VirtIOBlk} {usedIdx head : U16} (wf : bus.Wf)
    (hnum : device.queueNum ≠ 0) (used : bus.InRam device.usedAddr.toNat device.usedLength)
    {x : Nat}
    (outside : ¬(device.usedAddr.toNat ≤ x ∧ x < device.usedAddr.toNat + device.usedLength)) :
    (device.complete usedIdx head bus).ramByte x = bus.ramByte x := by
  obtain ⟨hlow, hhigh⟩ := usedSlot_le hnum usedIdx
  obtain ⟨h₁, h₂, h₃⟩ := inRam_complete hnum used usedIdx
  have wf₁ := wf.poke h₁
  have wf₂ := wf₁.poke (h₂.poke _ _)
  rw [complete, ramByte_poke wf₂ ((h₃.poke _ _).poke _ _), leBytes_length, if_neg (by omega),
    ramByte_poke wf₁ (h₂.poke _ _), leBytes_length, if_neg (by omega),
    ramByte_poke wf h₁, leBytes_length, if_neg (by omega)]

/-- A read request fills the guest's buffer from the disk; nothing else of RAM changes but the
status byte. -/
theorem ramByte_serve (wf : bus.Wf) {device : VirtIOBlk} {last : U16}
    (sub : Submitted device last req bus) {x : Nat}
    (hstatus : x ≠ req.status.addr.toNat) :
    (req.serve bus).ramByte x =
      if req.reqType = VIRTIO_BLK_T_IN ∧ req.data.addr.toNat ≤ x ∧
          x < req.data.addr.toNat + req.length then
        (req.disk bus)[req.offset + (x - req.data.addr.toNat)]?
      else bus.ramByte x := by
  have hout : ¬(req.status.addr.toNat ≤ x ∧ x < req.status.addr.toNat + [(0 : U8)].length) := by
    rw [List.length_singleton]
    omega
  rw [Request.serve, Request.transfer]
  split
  next hkind =>
    have hchunk := @Request.length_chunk bus req hkind
    have hdata : (bus.setDisk (req.disk bus)).InRam req.data.addr.toNat
        (extract (req.disk bus) req.offset req.length).length := hchunk.symm ▸ sub.data.setDisk _
    have wf₁ := (wf.setDisk (req.disk bus)).poke hdata
    rw [ramByte_poke wf₁ ((sub.status.setDisk _).poke _ _), if_neg hout,
      ramByte_poke (wf.setDisk _) hdata, hchunk]
    simp only [hkind, true_and]
    split
    next hin => rw [getElem?_extract (by omega)]
    next => rfl
  next hkind =>
    rw [ramByte_poke (wf.setDisk (req.disk bus)) (sub.status.setDisk _), if_neg hout,
      if_neg fun h => hkind h.1]
    rfl

end Serving

/-! ## Histories -/

/-- Byte `i` of the disk as the machine was started with it. -/
def imageByte (diskImage : Option (List U8)) (i : Nat) : U8 := (diskImage.getD []).getD i 0

/-- The writes up to and including `req`. -/
def Request.record (req : Request) (bus : Bus) (writes : List (Write U8)) : List (Write U8) :=
  if req.reqType = VIRTIO_BLK_T_OUT then
    ⟨req.offset, bus.ramBytes req.data.addr.toNat req.length⟩ :: writes
  else writes

/-- A machine with the disk `diskImage` to which `writes` were submitted: the guest does what it
likes with everything but the disk, and the device serves well-formed requests. -/
inductive History (diskSize : U64) (diskImage : Option (List U8)) : List (Write U8) → Bus → Prop
  | boot {bus : Bus} (wf : bus.Wf) (disk : bus.dev.virtio.disk = (new diskSize diskImage).disk) :
      History diskSize diskImage [] bus
  | guest {writes : List (Write U8)} {bus bus' : Bus} (h : History diskSize diskImage writes bus)
      (wf : bus'.Wf) (disk : bus'.dev.virtio.disk = bus.dev.virtio.disk) :
      History diskSize diskImage writes bus'
  | serve {writes : List (Write U8)} {bus bus' : Bus} {device : VirtIOBlk} {last usedIdx : U16}
      {req : Request} (h : History diskSize diskImage writes bus)
      (sub : Submitted device last req bus)
      (run : serveChain device last usedIdx bus = .ok () bus') :
      History diskSize diskImage (req.record bus writes) bus'

section Run

variable {diskSize : U64} {diskImage : Option (List U8)} {writes : List (Write U8)} {bus : Bus}

omit [Host] in
/-- The disk of a new device. -/
theorem getD_new (i : Nat) : (new diskSize diskImage).disk.getD i 0 = imageByte diskImage i := by
  cases diskImage with
  | none =>
      change (([] : List U8) ++ List.replicate diskSize.toNat 0).getD i 0 = _
      rw [getD_pad]
      rfl
  | some image =>
      change (image ++ List.replicate (diskSize.toNat - image.length) 0).getD i 0 = _
      rw [getD_pad]
      rfl

omit [Host] in
/-- One request keeps the disk in step with the history. -/
theorem reflects_record (wf : bus.Wf) {req : Request}
    (data : bus.InRam req.data.addr.toNat req.length)
    (h : Reflects 0 (imageByte diskImage) writes bus.dev.virtio.disk) :
    Reflects 0 (imageByte diskImage) (req.record bus writes) (req.disk bus) := by
  have hread := length_ramBytes wf data
  rw [Request.record]
  split
  next hkind =>
    refine h.write ?_ ?_
    · rintro i ⟨hlow, hhigh⟩
      rw [getD_disk wf data, if_pos ⟨hkind, hlow, hread ▸ hhigh⟩]
    · intro i hi
      rw [getD_disk wf data, if_neg]
      rintro ⟨-, hlow, hhigh⟩
      exact hi ⟨hlow, hread.symm ▸ hhigh⟩
  next hkind =>
    refine h.congr fun i => ?_
    rw [getD_disk wf data, if_neg fun hi => hkind hi.1]

omit [Host] in
theorem complete_wf {device : VirtIOBlk} {usedIdx head : U16} (wf : bus.Wf)
    (hnum : device.queueNum ≠ 0) (used : bus.InRam device.usedAddr.toNat device.usedLength) :
    (device.complete usedIdx head bus).Wf := by
  obtain ⟨h₁, h₂, h₃⟩ := inRam_complete hnum used usedIdx
  exact ((wf.poke h₁).poke (h₂.poke _ _)).poke ((h₃.poke _ _).poke _ _)

/-- Over any history the disk holds at each position what was written there last. -/
theorem History.reflects (h : History diskSize diskImage writes bus) :
    bus.Wf ∧ Reflects 0 (imageByte diskImage) writes bus.dev.virtio.disk := by
  induction h with
  | boot wf disk =>
      refine ⟨wf, fun i => ?_⟩
      rw [disk, getD_new]
      rfl
  | guest _ wf disk ih =>
      rw [disk]
      exact ⟨wf, ih.2⟩
  | serve _ sub run ih =>
      obtain ⟨wf, hreflects⟩ := ih
      rw [serveChain_apply wf sub] at run
      cases run
      refine ⟨complete_wf (sub.serve_wf wf) sub.queueNum (Request.serve_inRam sub.used), ?_⟩
      rw [complete_dev, disk_serve]
      exact reflects_record wf sub.data hreflects

/-- The addresses that serving the request may change besides its data. -/
def Request.Bookkeeping (req : Request) (device : VirtIOBlk) (x : Nat) : Prop :=
  x = req.status.addr.toNat ∨
    (device.usedAddr.toNat ≤ x ∧ x < device.usedAddr.toNat + device.usedLength)

/-- A write request has moved the guest's bytes to the disk and done nothing else. -/
structure Request.Wrote (req : Request) (device : VirtIOBlk) (bus bus' : Bus) : Prop where
  written : ∀ k < req.length,
    bus'.dev.virtio.disk[req.offset + k]? = bus.ramByte (req.data.addr.toNat + k)
  kept : ∀ i, ¬(req.offset ≤ i ∧ i < req.offset + req.length) →
    bus'.dev.virtio.disk.getD i 0 = bus.dev.virtio.disk.getD i 0
  ram : ∀ x, ¬req.Bookkeeping device x → bus'.ramByte x = bus.ramByte x
  status : bus'.ramByte req.status.addr.toNat = some 0
  memories : ∀ w, (∀ x, bus.windowAt x = some w → ¬req.Bookkeeping device x) →
    bus'.memory w = bus.memory w

/-- A read request has filled the guest's buffer with `content` and done nothing else. -/
structure Request.Filled (req : Request) (device : VirtIOBlk) (content : Nat → U8)
    (bus bus' : Bus) : Prop where
  kept : ∀ i < bus.dev.virtio.disk.length, bus'.dev.virtio.disk[i]? = bus.dev.virtio.disk[i]?
  filled : ∀ k < req.length,
    bus'.ramByte (req.data.addr.toNat + k) = some (content (req.offset + k))
  ram : ∀ x, ¬req.Bookkeeping device x →
    ¬(req.data.addr.toNat ≤ x ∧ x < req.data.addr.toNat + req.length) →
    bus'.ramByte x = bus.ramByte x
  status : bus'.ramByte req.status.addr.toNat = some 0
  memories : ∀ w, (∀ x, bus.windowAt x = some w → ¬req.Bookkeeping device x ∧
      ¬(req.data.addr.toNat ≤ x ∧ x < req.data.addr.toNat + req.length)) →
    bus'.memory w = bus.memory w

section Request

variable {device : VirtIOBlk} {last : U16} {req : Request}

omit [Host] in
theorem range_serve (w : Window) : (req.serve bus).range w = bus.range w := by
  rw [Request.serve, range_poke, Request.transfer]
  split
  next => rw [range_poke, Bus.setDisk, range_withVirtio]
  next => rw [Bus.setDisk, range_withVirtio]

omit [Host] in
/-- A memory stays as it is if neither the data of a read request nor the status byte lies in
it. -/
theorem memory_serve {w : Window}
    (data : req.reqType = VIRTIO_BLK_T_IN → ∀ x, req.data.addr.toNat ≤ x →
      x < req.data.addr.toNat + req.length → bus.windowAt x ≠ some w)
    (status : bus.windowAt req.status.addr.toNat ≠ some w) :
    (req.serve bus).memory w = bus.memory w := by
  have hwindow (x : Nat) : (bus.setDisk (req.disk bus)).windowAt x = bus.windowAt x :=
    windowAt_congr (fun v => range_withVirtio bus _ v) x
  rw [Request.serve, Request.transfer]
  split
  next hkind =>
    have hchunk := @Request.length_chunk bus req hkind
    rw [memory_poke_of_ne (by rwa [windowAt_poke, hwindow]), memory_poke fun x hlow hhigh => ?_,
      Bus.setDisk, memory_withVirtio]
    rw [hwindow]
    exact data hkind x hlow (hchunk ▸ hhigh)
  next => rw [memory_poke_of_ne (by rwa [hwindow]), Bus.setDisk, memory_withVirtio]

omit [Host] in
/-- Entering a request into the used ring leaves the other memories alone. -/
theorem memory_complete {usedIdx head : U16} (hnum : device.queueNum ≠ 0) {w : Window}
    (apart : ∀ x, device.usedAddr.toNat ≤ x → x < device.usedAddr.toNat + device.usedLength →
      bus.windowAt x ≠ some w) :
    (device.complete usedIdx head bus).memory w = bus.memory w := by
  obtain ⟨hlow, hhigh⟩ := usedSlot_le hnum usedIdx
  rw [complete, memory_poke_of_ne, memory_poke_of_ne, memory_poke_of_ne]
  · exact apart _ (by omega) (by omega)
  · rw [windowAt_poke]
    exact apart _ (by omega) (by omega)
  · rw [windowAt_poke, windowAt_poke]
    exact apart _ (by omega) (by omega)

omit [Host] in
/-- What serving a request does to the memories. -/
theorem memory_served (hnum : device.queueNum ≠ 0) (usedIdx : U16) {w : Window}
    (data : req.reqType = VIRTIO_BLK_T_IN → ∀ x, req.data.addr.toNat ≤ x →
      x < req.data.addr.toNat + req.length → bus.windowAt x ≠ some w)
    (other : ∀ x, bus.windowAt x = some w → ¬req.Bookkeeping device x) :
    (device.complete usedIdx req.head (req.serve bus)).memory w = bus.memory w := by
  rw [memory_complete hnum fun x hlow hhigh hw => ?_,
    memory_serve data fun hw => other _ hw (.inl rfl)]
  rw [windowAt_congr range_serve] at hw
  exact other x hw (.inr ⟨hlow, hhigh⟩)

/-- What a served request leaves in RAM, the used ring and the status byte aside. -/
theorem ramByte_served (wf : bus.Wf) (sub : Submitted device last req bus) (usedIdx : U16) {x : Nat}
    (hother : ¬req.Bookkeeping device x) :
    (device.complete usedIdx req.head (req.serve bus)).ramByte x =
      if req.reqType = VIRTIO_BLK_T_IN ∧ req.data.addr.toNat ≤ x ∧
          x < req.data.addr.toNat + req.length then
        (req.disk bus)[req.offset + (x - req.data.addr.toNat)]?
      else bus.ramByte x := by
  rw [ramByte_complete (sub.serve_wf wf) sub.queueNum (Request.serve_inRam sub.used)
    fun h => hother (.inr h), ramByte_serve wf sub fun h => hother (.inl h)]

theorem ramByte_status (wf : bus.Wf) (sub : Submitted device last req bus) (usedIdx : U16) :
    (device.complete usedIdx req.head (req.serve bus)).ramByte req.status.addr.toNat = some 0 := by
  have hout := sub.statusUsed req.status.addr.toNat (Nat.le_refl _) (Nat.lt_succ_self _)
  have wf' := sub.transfer_wf wf
  have hstatus : (req.transfer bus).InRam req.status.addr.toNat [(0 : U8)].length :=
    Request.transfer_inRam sub.status
  rw [ramByte_complete (sub.serve_wf wf) sub.queueNum (Request.serve_inRam sub.used)
    hout, Request.serve, ramByte_poke wf' hstatus, if_pos ⟨Nat.le_refl _, Nat.lt_succ_self _⟩,
    Nat.sub_self]
  rfl

theorem wrote_serve (wf : bus.Wf) (sub : Submitted device last req bus) (usedIdx : U16)
    (hkind : req.reqType = VIRTIO_BLK_T_OUT) :
    req.Wrote device bus (device.complete usedIdx req.head (req.serve bus)) := by
  have hne : req.reqType ≠ VIRTIO_BLK_T_IN := by
    rw [hkind]
    decide
  have hdisk : (device.complete usedIdx req.head (req.serve bus)).dev.virtio.disk =
      req.disk bus := by
    rw [complete_dev, disk_serve]
  have hread := length_ramBytes wf sub.data
  have hlong := length_grown bus.dev.virtio.disk (req.offset + req.length)
  constructor
  · intro k hk
    rw [hdisk, Request.disk, if_pos hkind, getElem?_splice (hread.symm ▸ hlong), hread,
      if_pos ⟨by omega, by omega⟩, Nat.add_sub_cancel_left, getElem?_ramBytes wf sub.data hk]
  · intro i hi
    rw [hdisk, getD_disk wf sub.data, if_neg fun h => hi h.2]
  · intro x hother
    rw [ramByte_served wf sub usedIdx hother, if_neg fun h => hne h.1]
  · exact ramByte_status wf sub usedIdx
  · exact fun w hother => memory_served sub.queueNum usedIdx (fun h => absurd h hne) hother

theorem filled_serve (wf : bus.Wf) (sub : Submitted device last req bus) (usedIdx : U16)
    (hkind : req.reqType = VIRTIO_BLK_T_IN)
    (h : Reflects 0 (imageByte diskImage) writes bus.dev.virtio.disk) :
    req.Filled device (lastWritten (imageByte diskImage) writes) bus
      (device.complete usedIdx req.head (req.serve bus)) := by
  have hdisk : (device.complete usedIdx req.head (req.serve bus)).dev.virtio.disk =
      req.disk bus := by
    rw [complete_dev, disk_serve]
  have hlong := length_grown bus.dev.virtio.disk (req.offset + req.length)
  have hrecord := reflects_record wf sub.data h
  have hsame : req.record bus writes = writes := by
    rw [Request.record, if_neg]
    rw [hkind]
    decide
  rw [hsame] at hrecord
  constructor
  · intro i hi
    rw [hdisk, getElem?_disk_in hkind hi]
  · intro k hk
    -- the buffer is apart from the status byte and the used ring
    have hother : ¬req.Bookkeeping device (req.data.addr.toNat + k) := by
      rintro (hstatus | hused)
      · exact sub.dataStatus (req.data.addr.toNat + k) (by omega) (by omega) ⟨by omega, by omega⟩
      · exact sub.dataUsed (req.data.addr.toNat + k) (by omega) (by omega) hused
    have hlt : req.offset + k < (req.disk bus).length := by
      rw [Request.disk_in hkind]
      omega
    rw [ramByte_served wf sub usedIdx hother, if_pos ⟨hkind, by omega, by omega⟩,
      Nat.add_sub_cancel_left, ← hrecord, List.getD_eq_getElem _ _ hlt,
      List.getElem?_eq_getElem hlt]
  · intro x hother hdata
    rw [ramByte_served wf sub usedIdx hother, if_neg fun h => hdata h.2]
  · exact ramByte_status wf sub usedIdx
  · exact fun w hother => memory_served sub.queueNum usedIdx
      (fun _ x hlow hhigh hw => (hother x hw).2 ⟨hlow, hhigh⟩) fun x hw => (hother x hw).1

end Request

end Run

/-! ## A notify -/

section Notify

variable {diskSize : U64} {diskImage : Option (List U8)} {writes : List (Write U8)} {bus : Bus}

/-- A store of an index to `QUEUE_NOTIFY`. -/
def notifyQueue (queueIdx : U32) : Call Bus Unit := write 0x050 4 (queueIdx.setWidth 64)

theorem notifyQueue_eq (queueIdx : U32) : notifyQueue queueIdx = processQueue queueIdx := by
  have hword : (queueIdx.setWidth 64 : U64).setWidth 32 = queueIdx := by
    rw [BitVec.setWidth_setWidth_of_le _ (by decide), BitVec.setWidth_eq]
  change processQueue ((queueIdx.setWidth 64 : U64).setWidth 32) = processQueue queueIdx
  rw [hword]

/-- The rounds of one notify, each of which finds a well-formed request. -/
inductive Rounds (device : VirtIOBlk) (availIdx : U16) :
    (last usedIdx : U16) → List (Write U8) → Bus → List (Write U8) → Bus → Prop
  | done {usedIdx : U16} {writes : List (Write U8)} {bus : Bus} :
      Rounds device availIdx availIdx usedIdx writes bus writes bus
  | round {last usedIdx : U16} {req : Request} {writes writes' : List (Write U8)} {bus bus' : Bus}
      (more : last ≠ availIdx) (sub : Submitted device last req bus)
      (rest : Rounds device availIdx (last + 1) (usedIdx + 1) (req.record bus writes)
        (device.complete usedIdx req.head (req.serve bus)) writes' bus') :
      Rounds device availIdx last usedIdx writes bus writes' bus'

namespace Rounds

variable {device : VirtIOBlk} {availIdx last usedIdx : U16} {writes' : List (Write U8)} {bus' : Bus}

/-- The loop of `process_queue` goes through the rounds and stops. -/
theorem serveChains (h : Rounds device availIdx last usedIdx writes bus writes' bus') (wf : bus.Wf)
    {fuel : Nat} (enough : (availIdx - last).toNat ≤ fuel) :
    VirtIOBlk.serveChains device availIdx fuel last usedIdx bus = .ok availIdx bus' := by
  induction h generalizing fuel with
  | done =>
      cases fuel with
      | zero => rw [VirtIOBlk.serveChains, if_pos rfl]; rfl
      | succ fuel => rw [VirtIOBlk.serveChains, if_pos rfl]; rfl
  | @round last usedIdx req writes writes' bus bus' more sub rest ih =>
      have hpos : (availIdx - last).toNat ≠ 0 := by
        intro hzero
        have hsub : availIdx - last = 0 := BitVec.eq_of_toNat_eq hzero
        exact more ((BitVec.sub_eq_iff_eq_add.mp hsub).trans (BitVec.zero_add _)).symm
      have hnext : (availIdx - (last + 1)).toNat = (availIdx - last).toNat - 1 := by
        bv_omega
      cases fuel with
      | zero => exact absurd (Nat.le_zero.mp enough) hpos
      | succ fuel =>
          rw [VirtIOBlk.serveChains, if_neg more, bind_ok (serveChain_apply wf sub usedIdx)]
          refine ih ?_ ?_
          · exact complete_wf (sub.serve_wf wf) sub.queueNum (Request.serve_inRam sub.used)
          · omega

theorem history (h : Rounds device availIdx last usedIdx writes bus writes' bus')
    (before : History diskSize diskImage writes bus) : History diskSize diskImage writes' bus' := by
  induction h with
  | done => exact before
  | round _ sub _ ih => exact ih (before.serve sub (serveChain_apply before.reflects.1 sub _))

end Rounds

/-- The counters that a notify starts from. -/
structure Pending (queueIdx : U32) (availIdx usedIdx : U16) (bus : Bus) : Prop where
  ready : bus.dev.virtio.queueReady ≠ 0
  queueNum : bus.dev.virtio.queueNum ≠ 0
  avail : Holds bus (bus.dev.virtio.availAddr.toNat + 2) 2 availIdx.toNat
  used : Holds bus (bus.dev.virtio.usedAddr.toNat + 2) 2 usedIdx.toNat

/-- The device after a notify whose cursor has come to `last`. -/
def settle (device : VirtIOBlk) (queueIdx : U32) (last : U16) : VirtIOBlk :=
  { device with
    lastAvailIdx := fun i => if i = queueIdx then some last else device.lastAvailIdx i
    interruptStatus := device.interruptStatus ||| 1 }

omit [Host] in
/-- The index of a ring is two bytes behind the ring's address, which does not wrap there. -/
theorem holds_index (wf : bus.Wf) {ring : U64} {value : Nat}
    (h : Holds bus (ring.toNat + 2) 2 value) :
    ring.toNat + (2 : U64).toNat < 2 ^ 64 ∧ Holds bus (ring + 2).toNat 2 value := by
  have hlt := h.inRam.lt wf
  have h2 : (2 : U64).toNat = 2 := rfl
  have hsum : (ring + 2).toNat = ring.toNat + 2 := BitVec.toNat_add_of_lt (by omega)
  rw [hsum]
  exact ⟨by omega, h⟩

/-- A notify reads the two counters and goes through the loop. -/
theorem processQueue_apply (wf : bus.Wf) {queueIdx : U32} {availIdx usedIdx last : U16} {bus' : Bus}
    (pending : Pending queueIdx availIdx usedIdx bus)
    (loop : serveChains bus.dev.virtio availIdx 65536
      ((bus.dev.virtio.lastAvailIdx queueIdx).getD usedIdx) usedIdx bus = .ok last bus') :
    processQueue queueIdx bus =
      .ok () (bus'.withVirtio (bus'.dev.virtio.settle queueIdx last)) := by
  obtain ⟨hltAvail, havail⟩ := holds_index wf pending.avail
  obtain ⟨hltUsed, hused⟩ := holds_index wf pending.used
  have hidle : ¬(bus.dev.virtio.queueReady = 0 ∨ bus.dev.virtio.queueNum = 0) :=
    not_or.mpr ⟨pending.ready, pending.queueNum⟩
  rw [processQueue, get_bind_apply]
  dsimp only
  rw [if_neg hidle, add_bind hltAvail, havail.dmaRead_bind wf (by decide),
    add_bind hltUsed, hused.dmaRead_bind wf (by decide)]
  rw [setWidth_ofNat_toNat availIdx (by decide), setWidth_ofNat_toNat usedIdx (by decide),
    bind_ok loop]
  rfl

/-- A notify serves the requests of its rounds one after the other. -/
theorem History.notify (h : History diskSize diskImage writes bus) {queueIdx : U32}
    {availIdx usedIdx : U16} (pending : Pending queueIdx availIdx usedIdx bus)
    {writes' : List (Write U8)} {bus' : Bus}
    (rounds : Rounds bus.dev.virtio availIdx
      ((bus.dev.virtio.lastAvailIdx queueIdx).getD usedIdx) usedIdx writes bus writes' bus') :
    notifyQueue queueIdx bus =
        .ok () (bus'.withVirtio (bus'.dev.virtio.settle queueIdx availIdx)) ∧
      History diskSize diskImage writes'
        (bus'.withVirtio (bus'.dev.virtio.settle queueIdx availIdx)) := by
  obtain ⟨wf, -⟩ := h.reflects
  obtain ⟨wf', -⟩ := (rounds.history h).reflects
  have loop := rounds.serveChains wf (Nat.le_of_lt (BitVec.isLt _))
  rw [notifyQueue_eq]
  exact ⟨processQueue_apply wf pending loop, (rounds.history h).guest (wf'.withVirtio _) rfl⟩

/-- After any history of requests, the next well-formed request is served. A write changes the
disk bytes it names to the guest's bytes, and a read hands the guest what was last written to
the positions it names. A store to `QUEUE_NOTIFY` serves the requests that are pending one after the
other, and what it leaves is such a history again. -/
theorem disk_last_writer_wins (h : History diskSize diskImage writes bus) :
    (∀ {device : VirtIOBlk} {last : U16} {req : Request} (_ : Submitted device last req bus)
        (usedIdx : U16), ∃ bus', serveChain device last usedIdx bus = .ok () bus' ∧
      (req.reqType = VIRTIO_BLK_T_OUT → req.Wrote device bus bus') ∧
      (req.reqType = VIRTIO_BLK_T_IN →
        req.Filled device (lastWritten (imageByte diskImage) writes) bus bus')) ∧
    ∀ {queueIdx : U32} {availIdx usedIdx : U16} (_ : Pending queueIdx availIdx usedIdx bus)
        {writes' : List (Write U8)} {served : Bus} (_ : Rounds bus.dev.virtio availIdx
          ((bus.dev.virtio.lastAvailIdx queueIdx).getD usedIdx) usedIdx writes bus writes' served),
      ∃ bus', notifyQueue queueIdx bus = .ok () bus' ∧
        bus' = served.withVirtio (served.dev.virtio.settle queueIdx availIdx) ∧
        History diskSize diskImage writes' bus' := by
  obtain ⟨wf, hreflects⟩ := h.reflects
  refine ⟨fun sub usedIdx => ⟨_, serveChain_apply wf sub usedIdx, wrote_serve wf sub usedIdx,
    fun hkind => filled_serve wf sub usedIdx hkind hreflects⟩, fun pending _ served rounds => ?_⟩
  obtain ⟨hrun, hhistory⟩ := h.notify pending rounds
  exact ⟨_, hrun, rfl, hhistory⟩

end Notify

end Queue

section Sample

attribute [local instance] Host.dev

/-- A request to read two bytes of sector 0. -/
def sampleRequest : Request where
  head := 0
  header := ⟨0x40, 16, 1⟩
  data := ⟨0x50, 2, 3⟩
  status := ⟨0x52, 1, 2⟩
  reqType := VIRTIO_BLK_T_IN
  sector := 0

/-- A queue of one entry, with its available ring at 0x30 and its used ring at 0x54. -/
def sampleDevice : VirtIOBlk :=
  { new 0 (some [7, 9]) with queueNum := 1, queueReady := 1, availAddr := 0x30, usedAddr := 0x54 }

/-- 96 bytes of RAM with the descriptors of the request, its header and the rings. -/
def sampleBus : Bus :=
  { Bus.new { Devices.detached with virtio := sampleDevice } with
    ramRange := ⟨0, 0x60⟩
    ram := ⟨leBytes 16 (0x40 + 2 ^ 64 * 16 + 2 ^ 96 * 1 + 2 ^ 112 * 1) ++
      leBytes 16 (0x50 + 2 ^ 64 * 2 + 2 ^ 96 * 3 + 2 ^ 112 * 2) ++
      leBytes 16 (0x52 + 2 ^ 64 * 1 + 2 ^ 96 * 2) ++ leBytes 48 (2 ^ 16)⟩ }

/-- The same bytes, with the buffer, the status byte and the used ring in the stack's RAM. -/
def stackBus : Bus :=
  { sampleBus with
    ramRange := ⟨0, 0x50⟩
    ram := ⟨sampleBus.ram.data.take 0x50⟩
    stackRange := ⟨0x50, 0x10⟩
    stack := ⟨sampleBus.ram.data.drop 0x50⟩ }

theorem wf_stackBus : stackBus.Wf := by
  constructor
  · intro w
    cases w <;> decide
  · intro w ram h
    cases w <;> cases h <;> decide

theorem submitted_stackBus : Submitted sampleDevice 0 sampleRequest stackBus where
  queueNum := by decide
  head := ⟨.ofRam (by decide) (by decide), by decide⟩
  chain :=
    { descs := ⟨1, 2, 0,
        ⟨⟨.ofRam (by decide) (by decide), by decide⟩, ⟨.ofRam (by decide) (by decide), by decide⟩,
          ⟨.ofRam (by decide) (by decide), by decide⟩, ⟨.ofRam (by decide) (by decide), by decide⟩⟩,
        ⟨⟨.ofRam (by decide) (by decide), by decide⟩, ⟨.ofRam (by decide) (by decide), by decide⟩,
          ⟨.ofRam (by decide) (by decide), by decide⟩, ⟨.ofRam (by decide) (by decide), by decide⟩⟩,
        ⟨⟨.ofRam (by decide) (by decide), by decide⟩, ⟨.ofRam (by decide) (by decide), by decide⟩,
          ⟨.ofRam (by decide) (by decide), by decide⟩, ⟨.ofRam (by decide) (by decide), by decide⟩⟩,
        by decide, by decide, by decide⟩
      headerNext := by decide
      dataNext := by decide
      statusNext := by decide
      reqType := ⟨.ofRam (by decide) (by decide), by decide⟩
      sector := ⟨.ofRam (by decide) (by decide), by decide⟩ }
  kind := .inl rfl
  data := .ofStack (by decide) (by decide) (by decide)
  status := .ofStack (by decide) (by decide) (by decide)
  used := .ofStack (by decide) (by decide) (by decide)
  dataStatus := by
    intro x _ hx h
    have hdata : x < 0x52 := hx
    exact absurd h.1 (Nat.not_le.mpr hdata)
  dataUsed := by
    intro x _ hx h
    have hdata : x < 0x52 := hx
    have hused : 0x54 ≤ x := h.1
    omega
  statusUsed := by
    intro x _ hx h
    have hstatus : x < 0x53 := hx
    have hused : 0x54 ≤ x := h.1
    omega
  fits := by decide
  memory := by decide

theorem pending_stackBus : Pending 0 1 0 stackBus where
  ready := by decide
  queueNum := by decide
  avail := ⟨.ofRam (by decide) (by decide), by decide⟩
  used := ⟨.ofStack (by decide) (by decide) (by decide), by decide⟩

/-- The guest gets the first two bytes of the image, also where it notifies the device. -/
theorem disk_last_writer_wins_image :
    (∃ bus', serveChain sampleDevice 0 0 stackBus = .ok () bus' ∧
      bus'.ramByte 0x50 = some 7 ∧ bus'.ramByte 0x51 = some 9) ∧
    ∃ bus', notifyQueue 0 stackBus = .ok () bus' ∧ bus'.ramByte 0x50 = some 7 ∧
      bus'.ramByte 0x51 = some 9 ∧ History 0 (some [7, 9]) [] bus' := by
  have boot : History 0 (some [7, 9]) [] stackBus := .boot wf_stackBus rfl
  obtain ⟨serves, notifies⟩ := disk_last_writer_wins boot
  obtain ⟨bus', run, -, filled⟩ := serves submitted_stackBus 0
  refine ⟨⟨bus', run, (filled rfl).filled 0 (by decide), (filled rfl).filled 1 (by decide)⟩, ?_⟩
  obtain ⟨bus', run, rfl, history⟩ :=
    notifies pending_stackBus (.round (by decide) submitted_stackBus .done)
  exact ⟨_, run, by decide +kernel, by decide +kernel, history⟩

end Sample

end VirtIOBlk

end Riscvm.Rv64rs
