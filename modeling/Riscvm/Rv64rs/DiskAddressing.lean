import Riscvm.Rv64rs.Disk
import Riscvm.Rv64rs.Reentrancy

/-!
# Positions on the disk

The device computes the position of a request in 64-bit words. `Request.exact` is the same
request on positions that are natural numbers. The two agree exactly when the end of the access
is a size that a disk can grow to.
-/

namespace Riscvm.Rv64rs

open Bytes Exec Bus

/-- The panics of sums and products, of slices and of growing a vector. -/
def Panic.Addressing : Panic → Prop
  | .overflow | .indexOutOfBounds | .capacityOverflow | .outOfMemory => True
  | .unwrapNone | .alreadyBorrowed | .outOfFuel => False

namespace VirtIOBlk

section Addressing

variable [Host]

/-- The request on a disk whose positions are natural numbers: the bytes from `offset` to
`offset + length` are accessed and no others, and the disk is as long as it has to be for that. -/
def Request.exact (req : Request) : Call Bus U32 := do
  if req.reqType = VIRTIO_BLK_T_IN then
    let disk := grown (← get).dev.virtio.disk (req.offset + req.length)
    modify fun bus => bus.setDisk disk
    writeBytes req.data.addr 0 (extract disk req.offset req.length)
  else
    let chunk ← readBytes req.data.addr 0 req.length
    modify fun bus => bus.setDisk
      (splice (grown bus.dev.virtio.disk (req.offset + req.length)) req.offset chunk)
  dmaWrite req.status.addr 1 0
  return 0

/-- The device has followed the chain and read the header of the request, and so has come from
`bus` to `opened`. -/
structure Opens (descBase : U64) (req : Request) (bus opened : Bus) : Prop where
  chain : ∃ descs followed, collectDescs descBase 65537 req.head [] [] bus = .ok descs followed ∧
    3 ≤ descs.length ∧ descs[0]? = some req.header ∧ descs[1]? = some req.data ∧
    descs[descs.length - 1]? = some req.status ∧
    (do
      let reqType := (← dmaRead req.header.addr 4).setWidth 32
      let sector ← dmaRead (← add req.header.addr 8) 8
      return (reqType, sector)) followed = .ok (req.reqType, req.sector) opened

variable {descBase : U64} {req : Request} {bus opened : Bus}

theorem Opens.run (h : Opens descBase req bus opened) :
    processDescriptorChain descBase req.head bus = req.tail opened := by
  obtain ⟨descs, followed, hrun, hlong, hheader, hdata, hstatus, hread⟩ := h.chain
  simp only [bind_eq_ok] at hread
  obtain ⟨v, bus₁, hkind, a, bus₂, hadd, sector, bus₃, hsector, hpair⟩ := hread
  obtain ⟨hvalues, hend⟩ := EStateM.Result.ok.inj hpair
  obtain ⟨htype, hsector'⟩ := Prod.mk.inj hvalues
  rw [processDescriptorChain, bind_ok hrun, if_neg (Nat.not_lt.mpr hlong), index_bind hheader,
    index_bind hdata, index_bind hstatus, bind_ok hkind, bind_ok hadd, bind_ok hsector,
    htype, hsector', hend]
  rfl

section Keeping

/-- The accesses of the device leave its own state alone. -/
abbrev KeepsVirtio {α : Type} (x : Call Bus α) : Prop :=
  Keeps (fun bus bus' => bus'.dev.virtio = bus.dev.virtio) x

omit [Host] in
theorem keepsVirtio_readOnly {α : Type} {x : Call Bus α} (h : ReadOnly x) : KeepsVirtio x :=
  h.mono fun _ _ heq => by rw [heq]

theorem keepsVirtio_dmaRead (address : U64) (size : U8) : KeepsVirtio (dmaRead address size) := by
  have judgment : Compositional fun _ x => KeepsVirtio x :=
    .keeps (fun _ => rfl) fun heq heq' => heq'.trans heq
  have hzoom {σ : Type} {view : Bus → σ} {put : σ → Bus → Bus} (x : Call σ U64)
      (h : ∀ s bus, (put s bus).dev.virtio = bus.dev.virtio) : KeepsVirtio (zoom view put x) :=
    Keeps.zoom (R := fun _ _ => True) (fun _ => trivial) fun bus s _ => h s bus
  refine judgment.readAt ?_ ?_ ?_ ?_ ?_ ?_ ?_ address
  · exact fun _ => hzoom _ fun _ _ => rfl
  · exact fun _ => hzoom _ fun _ _ => rfl
  · exact fun _ => hzoom _ fun _ _ => rfl
  · exact fun _ => hzoom _ fun _ _ => rfl
  · exact fun _ => hzoom _ fun _ _ => rfl
  · exact fun _ _ => keepsVirtio_readOnly (Plic.readOnly_read _ (readOnly_lineStatus _ _) _ _)
  · exact fun _ => keepsVirtio_readOnly ((VirtIOBlk.readOnly_read _ _).zoom fun _ => rfl)

theorem keepsVirtio_dmaWrite (address : U64) (size : U8) (value : U64) :
    KeepsVirtio (dmaWrite address size value) := by
  have judgment : Compositional fun _ x => KeepsVirtio x :=
    .keeps (fun _ => rfl) fun heq heq' => heq'.trans heq
  have hzoom {σ : Type} {view : Bus → σ} {put : σ → Bus → Bus} (x : Call σ Unit)
      (h : ∀ s bus, (put s bus).dev.virtio = bus.dev.virtio) : KeepsVirtio (zoom view put x) :=
    Keeps.zoom (R := fun _ _ => True) (fun _ => trivial) fun bus s _ => h s bus
  refine judgment.writeWith ?_ ?_ ?_ ?_ ?_ ?_ ?_ address
  · exact fun _ => hzoom _ fun _ _ => rfl
  · exact fun _ => hzoom _ fun _ _ => rfl
  · exact fun _ => hzoom _ fun _ _ => rfl
  · exact fun _ => hzoom _ fun _ _ => rfl
  · exact fun _ => hzoom _ fun _ _ => rfl
  · exact fun _ => hzoom _ fun _ _ => rfl
  · exact fun _ => keepsVirtio_readOnly (readOnly_panic _)

variable (base : U64)

theorem keepsVirtio_writeBytes (i : Nat) (bytes : List U8) :
    KeepsVirtio (writeBytes base i bytes) := by
  induction bytes generalizing i with
  | nil => exact fun _ => rfl
  | cons b bytes ih =>
      refine .bind (fun h h' => h'.trans h) (keepsVirtio_readOnly (readOnly_add _ _)) fun a => ?_
      exact .bind (fun h h' => h'.trans h) (keepsVirtio_dmaWrite _ _ _) fun _ => ih _

theorem keepsVirtio_readBytes (i n : Nat) : KeepsVirtio (readBytes base i n) := by
  induction n generalizing i with
  | zero => exact fun _ => rfl
  | succ n ih =>
      refine .bind (fun h h' => h'.trans h) (keepsVirtio_readOnly (readOnly_add _ _)) fun a => ?_
      refine .bind (fun h h' => h'.trans h) (keepsVirtio_dmaRead _ _) fun b => ?_
      exact .bind (fun h h' => h'.trans h) (ih _) fun _ _ => rfl

theorem length_readBytes {i n : Nat} {chunk : List U8} {bus' : Bus}
    (h : readBytes base i n bus = .ok chunk bus') : chunk.length = n := by
  induction n generalizing i bus bus' chunk with
  | zero =>
      cases h
      rfl
  | succ n ih =>
      simp only [readBytes, bind_eq_ok] at h
      obtain ⟨_, _, -, _, _, -, rest, _, hrest, hchunk⟩ := h
      cases hchunk
      exact congrArg (· + 1) (ih hrest)

end Keeping

/-- A length that a vector can have on this host. -/
def Holdable (n : Nat) : Prop := n < 2 ^ 63 ∧ n ≤ Host.memory

/-- The disk stays a vector of the host. -/
abbrev KeepsHoldable {α : Type} (x : Call Bus α) : Prop :=
  Keeps (fun bus bus' => Holdable bus.dev.virtio.disk.length →
    Holdable bus'.dev.virtio.disk.length) x

section Holding

theorem KeepsVirtio.holdable {α : Type} {x : Call Bus α} (h : KeepsVirtio x) : KeepsHoldable x :=
  h.mono fun _ _ heq hold => heq ▸ hold

theorem keepsHoldable_bind {α β : Type} {x : Call Bus α} {f : α → Call Bus β}
    (first : KeepsHoldable x) (rest : ∀ a, KeepsHoldable (f a)) : KeepsHoldable (x >>= f) :=
  Keeps.bind (fun h h' hold => h' (h hold)) first rest

theorem keepsHoldable_readOnly {α : Type} {x : Call Bus α} (h : ReadOnly x) : KeepsHoldable x :=
  (keepsVirtio_readOnly h).holdable

omit [Host] in
theorem length_grown_eq (disk : List U8) (stop : Nat) :
    (grown disk stop).length = max disk.length stop := by
  rw [grown, List.length_append, List.length_replicate]
  omega

theorem keepsHoldable_growDisk (stop : U64) : KeepsHoldable (growDisk stop) := by
  intro bus hold
  by_cases hroom : Holdable stop.toNat
  · rw [growDisk_apply hroom.1 hroom.2, finish_ok]
    change Holdable (grown bus.dev.virtio.disk stop.toNat).length
    rw [length_grown_eq]
    rcases Nat.le_total bus.dev.virtio.disk.length stop.toNat with h | h
    · rwa [Nat.max_eq_right h]
    · rwa [Nat.max_eq_left h]
  · rw [growDisk, get_bind_apply]
    split
    next h =>
      cases hrun : (allocate stop.toNat : Call Bus Unit) bus with
      | ok u bus' =>
          obtain ⟨hlt, hle, -⟩ := allocate_eq_ok.mp hrun
          exact absurd ⟨hlt, hle⟩ hroom
      | error e bus' =>
          rw [bind_error hrun, finish_error]
          have hsame := Xv6Emulator.readOnly_allocate stop.toNat bus
          rw [hrun, finish_error] at hsame
          rwa [hsame]
    next => exact hold

/-- Whatever the request asks for, the disk only grows as far as the host allows. -/
theorem Request.keepsHoldable_tail (req : Request) : KeepsHoldable req.tail := by
  have hstatus : KeepsHoldable (do dmaWrite req.status.addr 1 0; return (0 : U32)) :=
    keepsHoldable_bind (KeepsVirtio.holdable (keepsVirtio_dmaWrite _ _ _)) fun _ =>
      keepsHoldable_readOnly (.pure _)
  refine keepsHoldable_bind (keepsHoldable_readOnly (readOnly_mul _ _)) fun offset => ?_
  refine .ite ?_ (.ite ?_ hstatus)
  · refine keepsHoldable_bind (keepsHoldable_readOnly (readOnly_add _ _)) fun stop => ?_
    refine keepsHoldable_bind (keepsHoldable_growDisk stop) fun _ => ?_
    refine keepsHoldable_bind (keepsHoldable_readOnly .get) fun bus => ?_
    refine keepsHoldable_bind (keepsHoldable_readOnly (readOnly_slice _ _ _)) fun chunk => ?_
    refine keepsHoldable_bind (keepsHoldable_readOnly (Xv6Emulator.readOnly_allocate _)) fun _ => ?_
    exact keepsHoldable_bind (KeepsVirtio.holdable (keepsVirtio_writeBytes _ _ _)) fun _ => hstatus
  · refine keepsHoldable_bind (keepsHoldable_readOnly (Xv6Emulator.readOnly_allocate _)) fun _ => ?_
    refine keepsHoldable_bind (KeepsVirtio.holdable (keepsVirtio_readBytes _ _ _)) fun chunk => ?_
    refine keepsHoldable_bind (keepsHoldable_readOnly (readOnly_add _ _)) fun stop => ?_
    refine keepsHoldable_bind (keepsHoldable_growDisk stop) fun _ => ?_
    refine Keeps.get_bind_eq fun _ => ?_
    rintro bus' rfl hold
    rw [copyFromSlice]
    split
    next h =>
      obtain ⟨hab, hb, hlength⟩ := h
      refine hstatus (bus'.setDisk _) ?_
      change Holdable (bus'.dev.virtio.disk.take offset.toNat ++ chunk ++
        bus'.dev.virtio.disk.drop stop.toNat).length
      rw [List.length_append, List.length_append, List.length_take, List.length_drop,
        Nat.min_eq_left (Nat.le_trans hab hb)]
      have hsame : offset.toNat + chunk.length + (bus'.dev.virtio.disk.length - stop.toNat) =
          bus'.dev.virtio.disk.length := by omega
      rwa [hsame]
    next => exact hold

omit [Host] in
theorem Request.toNat_length : (req.data.length.setWidth 64 : U64).toNat = req.length :=
  BitVec.toNat_setWidth_of_le (by decide)

/-- Where the end of the access is a size the disk can have, the device works on exact positions. -/
theorem Request.tail_eq (kind : req.reqType = VIRTIO_BLK_T_IN ∨ req.reqType = VIRTIO_BLK_T_OUT)
    (fits : Holdable (req.offset + req.length)) : req.tail bus = req.exact bus := by
  obtain ⟨hoffset, hstop⟩ := Request.toNat_offset fits.1
  have hlength := @Request.toNat_length req
  have hmul : req.sector.toNat * SECTOR_SIZE.toNat < 2 ^ 64 := by
    have hlt := fits.1
    rw [Request.offset] at hlt
    change req.sector.toNat * 512 < 2 ^ 64
    omega
  have hsum : (req.sector * SECTOR_SIZE).toNat + (req.data.length.setWidth 64).toNat < 2 ^ 64 := by
    have hlt := fits.1
    rw [hoffset, hlength]
    omega
  have hgrow (bus : Bus) := @growDisk_apply _ bus
    (req.sector * SECTOR_SIZE + req.data.length.setWidth 64) (hstop ▸ fits.1) (hstop ▸ fits.2)
  rw [hstop] at hgrow
  have hlong (disk : List U8) := length_grown disk (req.offset + req.length)
  have hsize : Holdable req.length := ⟨by have := fits.1; omega, by have := fits.2; omega⟩
  rw [tail, exact, mul_bind hmul]
  dsimp only
  rcases kind with hkind | hkind
  · rw [if_pos hkind, if_pos hkind, add_bind hsum, bind_ok (hgrow bus), get_bind_apply, hoffset,
      hstop]
    change (slice (grown bus.dev.virtio.disk (req.offset + req.length)) _ _ >>= _) _ = _
    rw [slice_of_le (Nat.le_add_right _ _) (hlong _), pure_bind_apply, Nat.add_sub_cancel_left]
    change (allocate (extract (grown bus.dev.virtio.disk (req.offset + req.length)) req.offset
      req.length).length >>= _) _ = _
    rw [length_extract (hlong _), allocate_of_le hsize.1 hsize.2, pure_bind_apply]
    rfl
  · have hne : req.reqType ≠ VIRTIO_BLK_T_IN := by
      rw [hkind]
      decide
    rw [if_neg hne, if_pos hkind, if_neg hne, hlength, allocate_of_le hsize.1 hsize.2,
      pure_bind_apply, bind_apply, bind_apply]
    cases hread : readBytes req.data.addr 0 req.length bus with
    | error e bus' => rfl
    | ok chunk bus' =>
        dsimp only
        rw [add_bind hsum, bind_ok (hgrow bus'), get_bind_apply, hoffset, hstop]
        change (copyFromSlice (grown bus'.dev.virtio.disk (req.offset + req.length)) _ _ chunk
          >>= _) _ = _
        have hchunk := length_readBytes _ hread
        rw [copyFromSlice_of_le (hlong _) (by rw [hchunk]), pure_bind_apply, ← hchunk]
        rfl

theorem finish_status (bus : Bus) :
    (finish ((do dmaWrite req.status.addr 1 0; return (0 : U32) : Call Bus U32) bus)).dev.virtio =
      bus.dev.virtio :=
  Keeps.bind (R := fun bus bus' : Bus => bus'.dev.virtio = bus.dev.virtio) (fun h h' => h'.trans h)
    (keepsVirtio_dmaWrite req.status.addr 1 0) (fun _ _ => rfl) bus

/-- An exact request that gets to the disk leaves it long enough. -/
theorem Request.le_length_exact
    (h : req.reqType = VIRTIO_BLK_T_IN ∨
      ∃ chunk bus', readBytes req.data.addr 0 req.length bus = .ok chunk bus') :
    req.offset + req.length ≤ (finish (req.exact bus)).dev.virtio.disk.length := by
  have hlong := length_grown bus.dev.virtio.disk (req.offset + req.length)
  by_cases hkind : req.reqType = VIRTIO_BLK_T_IN
  · have hkeeps : KeepsVirtio (do
        writeBytes req.data.addr 0 (extract (grown bus.dev.virtio.disk (req.offset + req.length))
          req.offset req.length)
        dmaWrite req.status.addr 1 0
        return (0 : U32)) :=
      Keeps.bind (fun h h' => h'.trans h) (keepsVirtio_writeBytes _ _ _) fun _ => finish_status
    have hend := hkeeps (bus.setDisk (grown bus.dev.virtio.disk (req.offset + req.length)))
    rw [exact, if_pos hkind]
    exact hlong.trans_eq (congrArg (·.disk.length) hend).symm
  · obtain ⟨chunk, bus', hread⟩ := h.resolve_left hkind
    have hlength := length_readBytes _ hread
    have hsame := keepsVirtio_readBytes req.data.addr 0 req.length bus
    rw [hread, finish_ok] at hsame
    rw [exact, if_neg hkind, bind_ok hread, modify_bind_apply]
    refine Nat.le_trans ?_ (congrArg (·.disk.length) (finish_status _)).ge
    change _ ≤
      (splice (grown bus'.dev.virtio.disk (req.offset + req.length)) req.offset chunk).length
    rw [hsame, length_splice (by rw [hlength]; exact hlong)]
    exact hlong

/-- The guest's data cannot be read, and so a request to write comes to an end before the disk. -/
structure Unread (req : Request) (bus : Bus) : Prop where
  kind : req.reqType = VIRTIO_BLK_T_OUT
  buffer : ∃ e bus', readBytes req.data.addr 0 req.length bus = .error e bus'
  room : req.length ≤ Host.memory
  product : Host.overflowChecks = true → req.offset < 2 ^ 64

omit [Host] in
theorem out_ne_in (kind : req.reqType = VIRTIO_BLK_T_OUT) : req.reqType ≠ VIRTIO_BLK_T_IN := by
  rw [kind]
  decide

/-- The product is refused by a checked build only. -/
theorem Request.mul_sector (h : Host.overflowChecks = true → req.offset < 2 ^ 64) :
    (mul req.sector SECTOR_SIZE : Call Bus U64) = pure (req.sector * SECTOR_SIZE) := by
  refine if_neg fun hover => ?_
  obtain ⟨hchecks, hle⟩ := Bool.and_eq_true_iff.mp hover
  have hlt := h hchecks
  have hle : 2 ^ 64 ≤ req.sector.toNat * 512 := of_decide_eq_true hle
  rw [Request.offset] at hlt
  omega

theorem Unread.tail_eq (unread : Unread req bus) : req.tail bus = req.exact bus := by
  obtain ⟨e, bus', hread⟩ := unread.buffer
  have hlt : req.length < 2 ^ 63 := req.data.length.isLt.trans (by decide)
  rw [Request.tail, Request.exact, Request.mul_sector unread.product, pure_bind_apply]
  dsimp only
  rw [if_neg (out_ne_in unread.kind), if_pos unread.kind, if_neg (out_ne_in unread.kind),
    Request.toNat_length, allocate_of_le hlt unread.room, pure_bind_apply, bind_error hread,
    bind_error hread]

/-- Where a request to write does not get to reading the guest's data, it is the addressing that
fails. -/
theorem addressing_of_not_unread (kind : req.reqType = VIRTIO_BLK_T_OUT)
    (buffer : ∃ e bus', readBytes req.data.addr 0 req.length bus = .error e bus')
    (h : ¬Unread req bus) :
    ∃ cause, cause.Addressing ∧ req.tail bus = .error (.panic cause) bus := by
  by_cases hproduct : Host.overflowChecks = true → req.offset < 2 ^ 64
  · have hroom : ¬req.length ≤ Host.memory := fun hroom => h ⟨kind, buffer, hroom, hproduct⟩
    have hlt : req.length < 2 ^ 63 := req.data.length.isLt.trans (by decide)
    have hfull : (allocate req.length : Call Bus Unit) = panic .outOfMemory := by
      rw [allocate, if_neg (Nat.not_le.mpr hlt), if_pos (Nat.not_le.mp hroom)]
    refine ⟨.outOfMemory, trivial, ?_⟩
    rw [Request.tail, Request.mul_sector hproduct, pure_bind_apply]
    dsimp only
    rw [if_neg (out_ne_in kind), if_pos kind, Request.toNat_length, hfull]
    rfl
  · obtain ⟨hchecks, hover⟩ := Classical.not_imp.mp hproduct
    have hpanic : (mul req.sector SECTOR_SIZE : Call Bus U64) = panic .overflow := by
      refine if_pos (Bool.and_eq_true_iff.mpr ⟨hchecks, decide_eq_true ?_⟩)
      rw [Request.offset] at hover
      change 2 ^ 64 ≤ req.sector.toNat * 512
      omega
    refine ⟨.overflow, trivial, ?_⟩
    rw [Request.tail, hpanic]
    rfl

/-- On a machine as it is built, the accesses of the device fail for other reasons. -/
abbrev Calm {α : Type} (x : Call Bus α) : Prop :=
  Safe Booted (fun e => ∀ cause, e = .panic cause → ¬cause.Addressing) x

theorem calm_dmaRead (address : U64) (size : U8) : Calm (dmaRead address size) := by
  intro bus booted
  refine ⟨fun e bus' hrun cause hcause => ?_,
    (keepsShape_readAt true address size bus).booted booted⟩
  by_cases hre : bus.ReadReenters address size
  · rw [dmaRead_reenters booted hre] at hrun
    cases hrun
    cases hcause
    exact id
  · rw [hcause] at hrun
    exact absurd ⟨cause, bus', hrun⟩ (not_panics_dmaRead booted hre)

theorem calm_dmaWrite (address : U64) (size : U8) (value : U64) :
    Calm (dmaWrite address size value) := by
  intro bus booted
  refine ⟨fun e bus' hrun cause hcause => ?_,
    (keepsShape_writeWith (fun _ _ _ => .throw _) address size value bus).booted booted⟩
  by_cases hre : bus.WriteReenters address size
  · rw [dmaWrite_reenters booted value hre] at hrun
    cases hrun
    cases hcause
    exact id
  · rw [hcause] at hrun
    exact absurd ⟨cause, bus', hrun⟩ (not_panics_dmaWrite booted value hre)

omit [Host] in
/-- No window holds the last byte of the address space. -/
theorem lt_of_located (wf : bus.Wf) {address : U64} {w : Window}
    (h : bus.locate address ((1 : U8).setWidth 64) = some w) : address.toNat + 1 < 2 ^ 64 := by
  have hbound := wf.bounded w
  have hin := (contains_of_locate h).2
  exact Nat.lt_of_le_of_lt hin hbound

theorem lt_of_dmaRead (wf : bus.Wf) {address v : U64} {bus' : Bus}
    (h : dmaRead address 1 bus = .ok v bus') : address.toNat + 1 < 2 ^ 64 := by
  rw [dmaRead, readAt_eq wf.bounded] at h
  cases hw : bus.locate address ((1 : U8).setWidth 64) with
  | none =>
      rw [hw] at h
      cases h
  | some w => exact lt_of_located wf hw

theorem lt_of_dmaWrite (wf : bus.Wf) {address value : U64} {bus' : Bus}
    (h : dmaWrite address 1 value bus = .ok () bus') : address.toNat + 1 < 2 ^ 64 := by
  rw [dmaWrite, writeWith_eq wf.bounded] at h
  cases hw : bus.locate address ((1 : U8).setWidth 64) with
  | none =>
      rw [hw] at h
      cases h
  | some w => exact lt_of_located wf hw

/-- The bytes before the next one are there, so its address does not overflow. -/
theorem calm_readBytes {base : U64} {i n : Nat} (h : base.toNat + i < 2 ^ 64) :
    Calm (readBytes base i n) := by
  induction n generalizing i with
  | zero => exact .pure _
  | succ n ih =>
      obtain ⟨hi, haddr⟩ := @toNat_ofNat_index base i h
      intro bus booted
      rw [readBytes, add_of_lt (by rwa [hi]), pure_bind]
      refine (calm_dmaRead _ 1 bus booted).bind fun v bus' hrun booted' => ?_
      have hlt := lt_of_dmaRead booted.wf hrun
      rw [haddr] at hlt
      exact (ih hlt).bind (fun _ => .pure _) bus' booted'

theorem calm_writeBytes {base : U64} {i : Nat} {bytes : List U8} (h : base.toNat + i < 2 ^ 64) :
    Calm (writeBytes base i bytes) := by
  induction bytes generalizing i with
  | nil => exact .pure _
  | cons b bytes ih =>
      obtain ⟨hi, haddr⟩ := @toNat_ofNat_index base i h
      intro bus booted
      rw [writeBytes, add_of_lt (by rwa [hi]), pure_bind]
      refine (calm_dmaWrite _ 1 _ bus booted).bind fun v bus' hrun booted' => ?_
      have hlt := lt_of_dmaWrite booted.wf hrun
      rw [haddr] at hlt
      exact ih hlt bus' booted'

theorem Request.calm_exact (req : Request) : Calm req.exact := by
  have hstatus : Calm (do dmaWrite req.status.addr 1 0; return (0 : U32)) :=
    (calm_dmaWrite _ _ _).bind fun _ => .pure _
  have hset (f : Bus → List U8) : Calm (modify fun bus => bus.setDisk (f bus)) := by
    intro bus booted
    have same : SameShape bus (bus.setDisk (f bus)) :=
      ⟨fun w => by cases w <;> rfl, rfl, rfl, rfl, rfl, fun w => by cases w <;> rfl, rfl, rfl⟩
    exact .ok rfl (same.booted booted)
  refine .ite (.get_bind fun bus => (hset _).bind fun _ => ?_)
    ((calm_readBytes req.data.addr.isLt).bind fun chunk => (hset _).bind fun _ => hstatus)
  exact (calm_writeBytes req.data.addr.isLt).bind fun _ => hstatus

end Holding

section Following

variable {R : Bus → Bus → Prop}

theorem keeps_collectDescs (descBase : U64) (refl : ∀ bus, R bus bus)
    (trans : ∀ {bus bus' bus''}, R bus bus' → R bus' bus'' → R bus bus'')
    (hread : ∀ address size, Keeps R (dmaRead address size)) (fuel : Nat) (idx : U16)
    (seen : List U16) (descs : List Desc) :
    Keeps R (collectDescs descBase fuel idx seen descs) := by
  have hlook {α : Type} {x : Call Bus α} (h : ReadOnly x) : Keeps R x :=
    h.mono fun bus _ heq => heq ▸ refl bus
  induction fuel generalizing idx seen descs with
  | zero => exact hlook (readOnly_panic _)
  | succ fuel ih =>
      refine .ite (.pure refl _) ?_
      refine .bind trans (hlook (readOnly_mul _ _)) fun product => ?_
      have hfield {a b : U64} {size : U8} {β : Type} {f : U64 → Call Bus β}
          (h : ∀ v, Keeps R (f v)) : Keeps R (add a b >>= fun off => dmaRead off size >>= f) :=
        .bind trans (hlook (readOnly_add _ _)) fun _ => .bind trans (hread _ _) h
      refine .bind trans (hlook (readOnly_add _ _)) fun off => .bind trans (hread _ _) fun _ => ?_
      refine hfield fun length => hfield fun flags => hfield fun next => ?_
      exact .ite (ih _ _ _) (.pure refl _)

/-- The machine has kept its layout and the device its state. -/
structure Undisturbed (bus bus' : Bus) : Prop where
  shape : SameShape bus bus'
  virtio : bus'.dev.virtio = bus.dev.virtio

omit [Host] in
theorem Undisturbed.refl (bus : Bus) : Undisturbed bus bus := ⟨.refl bus, rfl⟩

omit [Host] in
theorem Undisturbed.trans {bus bus' bus'' : Bus} (h : Undisturbed bus bus')
    (h' : Undisturbed bus' bus'') : Undisturbed bus bus'' :=
  ⟨h.shape.trans h'.shape, h'.virtio.trans h.virtio⟩

theorem undisturbed_dmaRead (address : U64) (size : U8) :
    Keeps Undisturbed (dmaRead address size) :=
  fun bus => ⟨keepsShape_readAt true address size bus, keepsVirtio_dmaRead address size bus⟩

theorem Opens.undisturbed (h : Opens descBase req bus opened) : Undisturbed bus opened := by
  obtain ⟨descs, followed, hrun, -, -, -, -, hheader⟩ := h.chain
  have hfollowed : Undisturbed bus followed := by
    have hkeeps := keeps_collectDescs descBase Undisturbed.refl Undisturbed.trans
      undisturbed_dmaRead 65537 req.head [] [] bus
    rwa [hrun, finish_ok] at hkeeps
  have hsum (a b : U64) : Keeps Undisturbed (add a b : Call Bus U64) :=
    (readOnly_add a b).mono fun bus _ heq => heq ▸ .refl bus
  have hkeeps : Keeps Undisturbed (do
      let reqType := (← dmaRead req.header.addr 4).setWidth 32
      let sector ← dmaRead (← add req.header.addr 8) 8
      return (reqType, sector) : Call Bus (U32 × U64)) :=
    .bind Undisturbed.trans (undisturbed_dmaRead _ _) fun _ =>
      .bind Undisturbed.trans (hsum _ _) fun _ =>
        .bind Undisturbed.trans (undisturbed_dmaRead _ _) fun _ => .pure Undisturbed.refl _
  have hopened := hkeeps followed
  rw [hheader, finish_ok] at hopened
  exact hfollowed.trans hopened

end Following

/-- Processing the chain amounts to the exact request, and does not fail in computing with
positions and sizes. -/
structure Addresses (req : Request) (bus : Bus) (r : EStateM.Result Fault Bus U32) : Prop where
  exact : r = req.exact bus
  calm : ∀ cause bus', r = .error (.panic cause) bus' → ¬cause.Addressing

/-- The positions on the disk are right just when the end of the access is a size that the disk
can have, requests apart that do not get to the disk as the guest's data cannot be read. -/
theorem addresses_iff (booted : bus.Booted) (hold : Holdable bus.dev.virtio.disk.length)
    (opens : Opens descBase req bus opened)
    (kind : req.reqType = VIRTIO_BLK_T_IN ∨ req.reqType = VIRTIO_BLK_T_OUT) :
    Addresses req opened (processDescriptorChain descBase req.head bus) ↔
      Holdable (req.offset + req.length) ∨ Unread req opened := by
  obtain ⟨same, hdevice⟩ := opens.undisturbed
  rw [opens.run]
  constructor
  · intro addresses
    by_contra hno
    obtain ⟨hfar, hread⟩ := not_or.mp hno
    have hend := req.keepsHoldable_tail opened (hdevice ▸ hold)
    rw [addresses.exact] at hend
    have hsmall : ¬req.offset + req.length ≤ (finish (req.exact opened)).dev.virtio.disk.length :=
      fun hle => hfar ⟨Nat.lt_of_le_of_lt hle hend.1, Nat.le_trans hle hend.2⟩
    rcases kind with hkind | hkind
    · exact hsmall (Request.le_length_exact (.inl hkind))
    · cases hrun : readBytes req.data.addr 0 req.length opened with
      | ok chunk bus' => exact hsmall (Request.le_length_exact (.inr ⟨chunk, bus', hrun⟩))
      | error e bus' =>
          obtain ⟨cause, haddressing, hpanic⟩ :=
            addressing_of_not_unread hkind ⟨e, bus', hrun⟩ hread
          exact addresses.calm cause opened hpanic haddressing
  · intro h
    have hexact : req.tail opened = req.exact opened := by
      rcases h with fits | unread
      · exact Request.tail_eq kind fits
      · exact unread.tail_eq
    refine ⟨hexact, fun cause bus' hpanic => ?_⟩
    rw [hexact] at hpanic
    exact (req.calm_exact opened (same.booted booted)).raises _ bus' hpanic cause rfl

/-- A request in RAM opens. -/
theorem Chain.opens (wf : bus.Wf) (chain : Chain bus descBase req) :
    Opens descBase req bus bus := by
  refine ⟨_, _, collectDescs_chain wf chain, Nat.le_refl _, rfl, rfl, rfl, ?_⟩
  rw [Holds.header_bind wf chain.reqType chain.sector, setWidth_ofNat_toNat req.reqType (by decide)]
  rfl

end Addressing

section Sample

/-- The request of two bytes of the sector. -/
def sectorRequest (sector : U64) : Request := { sampleRequest with sector }

/-- A machine whose driver asks for two bytes of the sector. -/
def sectorBus (sector : U64) : Bus :=
  { Bus.new { Devices.detached with virtio := sampleDevice, plic := Xv6Emulator.plic } with
    ramRange := ⟨0, 0x60⟩
    ram := ⟨sampleBus.ram.data.take 0x48 ++ leBytes 8 sector.toNat ++ leBytes 16 0⟩
    clint := true, uart := true, plic := true, virtio := true }

theorem booted_sectorBus (sector : U64) : (sectorBus sector).Booted := by
  refine ⟨⟨fun w => ?_, fun w ram h => ?_⟩, rfl, rfl, rfl, rfl, rfl, Nat.zero_le _⟩
  · cases w with
    | ram => exact (by decide : 0 + 0x60 < 2 ^ 64)
    | stack | bootloader | clint | uart | plic | virtio => exact Nat.two_pow_pos 64
  · cases w <;> cases h <;> rfl

theorem chain_sectorBus {sector : U64} (h : sector = 0 ∨ sector = 2 ^ 55) :
    Chain (sectorBus sector) 0 (sectorRequest sector) := by
  have holds {a n v : Nat} (ha : a + n ≤ 0x60)
      (hv : leNat ((sectorBus sector).ramBytes a n) = v) : Holds (sectorBus sector) a n v :=
    ⟨.ofRam (Nat.zero_le _) ha, hv⟩
  have desc_at {a : Nat} {desc : Desc} {next : U16} (ha : a + 16 ≤ 0x60)
      (haddr : leNat ((sectorBus sector).ramBytes a 8) = desc.addr.toNat)
      (hlength : leNat ((sectorBus sector).ramBytes (a + 8) 4) = desc.length.toNat)
      (hflags : leNat ((sectorBus sector).ramBytes (a + 12) 2) = desc.flags.toNat)
      (hnext : leNat ((sectorBus sector).ramBytes (a + 14) 2) = next.toNat) :
      DescAt (sectorBus sector) a desc next :=
    ⟨holds (by omega) haddr, holds (by omega) hlength, holds (by omega) hflags,
      holds (by omega) hnext⟩
  rcases h with rfl | rfl
  all_goals
    exact {
      descs := ⟨1, 2, 0, desc_at (by decide) (by decide) (by decide) (by decide) (by decide),
        desc_at (by decide) (by decide) (by decide) (by decide) (by decide),
        desc_at (by decide) (by decide) (by decide) (by decide) (by decide),
        by decide, by decide, by decide⟩
      headerNext := by decide
      dataNext := by decide
      statusNext := by decide
      reqType := holds (by decide) (by decide)
      sector := holds (by decide) (by decide) }

section Checked

attribute [local instance] Host.dev

/-- The first bytes of the disk can be asked for. -/
theorem addresses_iff_first :
    Addresses (sectorRequest 0) (sectorBus 0) (processDescriptorChain 0 0 (sectorBus 0)) ↔
      Holdable ((sectorRequest 0).offset + (sectorRequest 0).length) ∨
        Unread (sectorRequest 0) (sectorBus 0) :=
  addresses_iff (booted_sectorBus 0) ⟨by decide, by decide⟩
    ((chain_sectorBus (.inl rfl)).opens (booted_sectorBus 0).wf) (.inl rfl)

end Checked

/-- The request for sector 2⁵⁵, on a host of 4 GiB with and without overflow checks. -/
def farRun (overflowChecks : Bool) : EStateM.Result Fault Bus U32 :=
  @processDescriptorChain ⟨overflowChecks, 2 ^ 32⟩ 0 (sectorRequest (2 ^ 55)).head
    (sectorBus (2 ^ 55))

/-- Sector 2⁵⁵ begins at byte 2⁶⁴ of the disk. A checked build panics on the product, a release
build hands the guest the first byte of the disk. -/
theorem sector_wraps :
    ¬@Addresses ⟨true, 2 ^ 32⟩ (sectorRequest (2 ^ 55)) (sectorBus (2 ^ 55)) (farRun true) ∧
      ¬@Addresses ⟨false, 2 ^ 32⟩ (sectorRequest (2 ^ 55)) (sectorBus (2 ^ 55)) (farRun false) ∧
      (finish (farRun false)).ramByte 0x50 = some 7 := by
  have hrun (overflowChecks : Bool) : farRun overflowChecks =
      @Request.tail ⟨overflowChecks, 2 ^ 32⟩ (sectorRequest (2 ^ 55)) (sectorBus (2 ^ 55)) :=
    @Opens.run ⟨overflowChecks, 2 ^ 32⟩ _ _ _ _ (@Chain.opens ⟨overflowChecks, 2 ^ 32⟩ 0 _ _
      (booted_sectorBus (2 ^ 55)).wf (chain_sectorBus (.inr rfl)))
  have hchecked : @Request.tail ⟨true, 2 ^ 32⟩ (sectorRequest (2 ^ 55)) (sectorBus (2 ^ 55)) =
      .error (.panic .overflow) (sectorBus (2 ^ 55)) := rfl
  have hdisk : (finish (@Request.tail ⟨false, 2 ^ 32⟩ (sectorRequest (2 ^ 55))
      (sectorBus (2 ^ 55)))).dev.virtio.disk.length = 2 := by
    decide +kernel
  rw [hrun, hrun]
  refine ⟨fun h => ?_, fun h => ?_, ?_⟩
  · exact @Addresses.calm ⟨true, 2 ^ 32⟩ _ _ _ h .overflow _ hchecked trivial
  · have hlong := @Request.le_length_exact ⟨false, 2 ^ 32⟩ (sectorRequest (2 ^ 55))
      (sectorBus (2 ^ 55)) (.inl rfl)
    rw [← @Addresses.exact ⟨false, 2 ^ 32⟩ _ _ _ h, hdisk] at hlong
    exact absurd hlong (by decide)
  · decide +kernel

end Sample

end VirtIOBlk

end Riscvm.Rv64rs
