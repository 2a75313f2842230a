import Riscvm.Rv64rs.Disk
import Riscvm.Rv64rs.QueueScript

/-!
# Entries of the virtqueue

The driver publishes heads in the available ring, the device enters them into the used ring.
Three counters of 16 bits stand for how far each has come. Over any run they count the same
entries modulo 65536, and a notify enters exactly the heads that are still outstanding, in the
order they were published.
-/

namespace Riscvm.Rv64rs

open Bytes Exec Bus

namespace VirtIOBlk

/-! ## What a chain may touch -/

/-- Outside `region` RAM is as before, and of the device only the disk may differ. -/
structure Touched (region : Nat → Prop) (bus bus' : Bus) : Prop where
  wf : bus'.Wf
  ranges : ∀ w, bus'.range w = bus.range w
  ram : ∀ x, ¬region x → bus'.ramByte x = bus.ramByte x
  device : ∃ disk, bus'.dev.virtio = { bus.dev.virtio with disk }

namespace Touched

variable {region : Nat → Prop} {bus bus' bus'' : Bus} {a n v : Nat}

theorem refl (wf : bus.Wf) : Touched region bus bus := ⟨wf, fun _ => rfl, fun _ _ => rfl, _, rfl⟩

theorem trans (h : Touched region bus bus') (h' : Touched region bus' bus'') :
    Touched region bus bus'' := by
  obtain ⟨disk, hdevice⟩ := h.device
  obtain ⟨disk', hdevice'⟩ := h'.device
  refine ⟨h'.wf, fun w => (h'.ranges w).trans (h.ranges w), fun x hout => ?_, disk', ?_⟩
  · rw [h'.ram x hout, h.ram x hout]
  · rw [hdevice', hdevice]

theorem mono {region' : Nat → Prop} (h : Touched region bus bus')
    (sub : ∀ x, region x → region' x) : Touched region' bus bus' :=
  ⟨h.wf, h.ranges, fun x hout => h.ram x fun hin => hout (sub x hin), h.device⟩

theorem poke (wf : bus.Wf) {bytes : List U8} (h : bus.InRam a bytes.length)
    (hregion : ∀ x, a ≤ x → x < a + bytes.length → region x) :
    Touched region bus (bus.poke a bytes) := by
  refine ⟨wf.poke h, range_poke bus a bytes, fun x hout => ?_, bus.dev.virtio.disk, ?_⟩
  · rw [ramByte_poke wf h, if_neg fun hin => hout (hregion x hin.1 hin.2)]
  · rw [poke_dev]

theorem setDisk (wf : bus.Wf) (disk : List U8) : Touched region bus (bus.setDisk disk) :=
  ⟨wf.setDisk disk, fun w => range_withVirtio bus _ w, fun _ _ => rfl, disk, rfl⟩

theorem inRam (h : Touched region bus bus') (hb : bus.InRam a n) : bus'.InRam a n :=
  hb.congr h.ranges

theorem ramBytes (h : Touched region bus bus') (wf : bus.Wf) (hb : bus.InRam a n)
    (apart : ∀ x, a ≤ x → x < a + n → ¬region x) : bus'.ramBytes a n = bus.ramBytes a n := by
  apply List.ext_getElem?
  intro i
  rcases Nat.lt_or_ge i n with hi | hi
  · rw [getElem?_ramBytes h.wf (h.inRam hb) hi, getElem?_ramBytes wf hb hi]
    exact h.ram (a + i) (apart (a + i) (by omega) (by omega))
  · rw [List.getElem?_eq_none, List.getElem?_eq_none]
    · rwa [length_ramBytes wf hb]
    · rwa [length_ramBytes h.wf (h.inRam hb)]

theorem holds (h : Touched region bus bus') (wf : bus.Wf) (hb : Holds bus a n v)
    (apart : ∀ x, a ≤ x → x < a + n → ¬region x) : Holds bus' a n v :=
  ⟨h.inRam hb.inRam, (congrArg leNat (h.ramBytes wf hb.inRam apart)).trans hb.value⟩

end Touched

/-! ## Chains of any shape -/

section Chains

variable {bus bus' : Bus} {region writable : Nat → Prop}

/-- The descriptors on the way from `idx` in a table of `n`, up to one without a successor or
one seen before. -/
inductive Follows (bus : Bus) (descBase : U64) (n : Nat) : U16 → List U16 → List Desc → Prop
  | seen {idx : U16} {seen : List U16} (old : idx ∈ seen) : Follows bus descBase n idx seen []
  | last {idx next : U16} {seen : List U16} {desc : Desc} (new : idx ∉ seen) (low : idx.toNat < n)
      (desc_at : DescAt bus (descBase.toNat + 16 * idx.toNat) desc next)
      (flag : desc.flags &&& VIRTQ_DESC_F_NEXT = 0) : Follows bus descBase n idx seen [desc]
  | next {idx next : U16} {seen : List U16} {desc : Desc} {descs : List Desc} (new : idx ∉ seen)
      (low : idx.toNat < n) (desc_at : DescAt bus (descBase.toNat + 16 * idx.toNat) desc next)
      (flag : desc.flags &&& VIRTQ_DESC_F_NEXT ≠ 0)
      (rest : Follows bus descBase n next (idx :: seen) descs) :
      Follows bus descBase n idx seen (desc :: descs)

/-- The device collects what it follows; there are only so many indices that the loop may see
before it stops. -/
theorem Follows.collectDescs [Host] (wf : bus.Wf) {descBase : U64} {n : Nat} {idx : U16}
    {seen : List U16} {descs : List Desc} (h : Follows bus descBase n idx seen descs)
    (nodup : seen.Nodup) {fuel : Nat} (enough : 65537 ≤ seen.length + fuel) (before : List Desc) :
    VirtIOBlk.collectDescs descBase fuel idx seen before bus = .ok (before ++ descs) bus := by
  have hle := DmaScript.length_seen_le nodup
  induction h generalizing fuel before with
  | @seen idx seen old =>
      obtain ⟨fuel, rfl⟩ : ∃ k, fuel = k + 1 := ⟨fuel - 1, by omega⟩
      rw [VirtIOBlk.collectDescs, if_pos old, List.append_nil]
      rfl
  | @last idx next seen desc new low desc_at flag =>
      obtain ⟨fuel, rfl⟩ : ∃ k, fuel = k + 1 := ⟨fuel - 1, by omega⟩
      rw [collectDescs_step wf new desc_at, if_neg (not_not_intro flag)]
      rfl
  | @next idx next seen desc descs new low desc_at flag rest ih =>
      obtain ⟨fuel, rfl⟩ : ∃ k, fuel = k + 1 := ⟨fuel - 1, by omega⟩
      have nodup' := List.nodup_cons.mpr ⟨new, nodup⟩
      have hlength : (idx :: seen).length = seen.length + 1 := rfl
      rw [collectDescs_step wf new desc_at, if_pos flag,
        ih nodup' (by omega) _ (DmaScript.length_seen_le nodup'), List.append_assoc]
      rfl

theorem DescAt.touched (touched : Touched region bus bus') (wf : bus.Wf) {a : Nat} {desc : Desc}
    {next : U16} (h : DescAt bus a desc next) (apart : ∀ x, a ≤ x → x < a + 16 → ¬region x) :
    DescAt bus' a desc next :=
  ⟨touched.holds wf h.addr fun x hlow hhigh => apart x hlow (by omega),
    touched.holds wf h.length fun x hlow hhigh => apart x (by omega) (by omega),
    touched.holds wf h.flags fun x hlow hhigh => apart x (by omega) (by omega),
    touched.holds wf h.next fun x hlow hhigh => apart x (by omega) (by omega)⟩

/-- A chain stays as it is while nothing touches the table. -/
theorem Follows.touched (touched : Touched region bus bus') (wf : bus.Wf) {descBase : U64} {n : Nat}
    {idx : U16} {seen : List U16} {descs : List Desc} (h : Follows bus descBase n idx seen descs)
    (apart : ∀ x, descBase.toNat ≤ x → x < descBase.toNat + 16 * n → ¬region x) :
    Follows bus' descBase n idx seen descs := by
  induction h with
  | seen old => exact .seen old
  | last new low desc_at flag =>
      exact .last new low (desc_at.touched touched wf fun x hlow hhigh =>
        apart x (by omega) (by omega)) flag
  | next new low desc_at flag rest ih =>
      exact .next new low (desc_at.touched touched wf fun x hlow hhigh =>
        apart x (by omega) (by omega)) flag ih

/-- The request of a chain: its data and its status byte lie in `region`, its header is apart from
all that may be written. -/
structure Buffers [Host] (region writable : Nat → Prop) (req : Request) (descs : List Desc)
    (bus : Bus) : Prop where
  header : descs[0]? = some req.header
  data : descs[1]? = some req.data
  status : descs[descs.length - 1]? = some req.status
  moves : Moves req bus
  headerOut : ∀ x, req.header.addr.toNat ≤ x → x < req.header.addr.toNat + 16 → ¬writable x
  dataIn : ∀ x, req.data.addr.toNat ≤ x → x < req.data.addr.toNat + req.length → region x
  statusIn : region req.status.addr.toNat

/-- The chain that begins at `head` lies in the table; if it is long enough for a request, then
it makes one. -/
def Requested [Host] (descBase : U64) (n : Nat) (region writable : Nat → Prop) (head : U16)
    (bus : Bus) : Prop :=
  ∃ descs, Follows bus descBase n head [] descs ∧
    (3 ≤ descs.length → ∃ req : Request, req.head = head ∧ Buffers region writable req descs bus)

variable [Host] {req : Request} {descs : List Desc} {descBase : U64} {n : Nat} {head : U16}

theorem Moves.touched (touched : Touched region bus bus') (wf : bus.Wf) (h : Moves req bus)
    (apart : ∀ x, req.header.addr.toNat ≤ x → x < req.header.addr.toNat + 16 → ¬region x) :
    Moves req bus' :=
  ⟨touched.holds wf h.reqType fun x hlow hhigh => apart x hlow (by omega),
    touched.holds wf h.sector fun x hlow hhigh => apart x (by omega) (by omega),
    touched.inRam h.data, touched.inRam h.status, h.fits, h.memory⟩

/-- What is requested does not change while table and headers are left alone. -/
theorem Requested.touched (touched : Touched writable bus bus') (wf : bus.Wf)
    (h : Requested descBase n region writable head bus)
    (table : ∀ x, descBase.toNat ≤ x → x < descBase.toNat + 16 * n → ¬writable x) :
    Requested descBase n region writable head bus' := by
  obtain ⟨descs, follows, hbuffers⟩ := h
  refine ⟨descs, follows.touched touched wf table, fun hlong => ?_⟩
  obtain ⟨req, hhead, buffers⟩ := hbuffers hlong
  have moves := buffers.moves.touched touched wf buffers.headerOut
  exact ⟨req, hhead, { buffers with moves }⟩

theorem Buffers.touched_serve (wf : bus.Wf) (h : Buffers region writable req descs bus) :
    Touched region bus (req.serve bus) := by
  have hstatus {bus' : Bus} (touched : Touched region bus bus') :
      Touched region bus (bus'.poke req.status.addr.toNat [0]) := by
    refine touched.trans (.poke touched.wf (touched.inRam h.moves.status) fun x hlow hhigh => ?_)
    have hx : x = req.status.addr.toNat := Nat.le_antisymm (Nat.lt_succ_iff.mp hhigh) hlow
    exact hx ▸ h.statusIn
  have hdisk : Touched region bus (bus.setDisk (req.disk bus)) := .setDisk wf _
  rw [Request.serve, Request.transfer]
  split
  next hkind =>
    have hchunk := @Request.length_chunk bus req hkind
    refine hstatus (hdisk.trans (.poke hdisk.wf (hchunk.symm ▸ hdisk.inRam h.moves.data) ?_))
    rw [hchunk]
    exact h.dataIn
  next => exact hstatus hdisk

/-- A request of another type only has its status byte set. -/
theorem processDescriptorChain_other (wf : bus.Wf) (collected : Collected descBase req bus descs)
    (moves : Moves req bus) (hin : req.reqType ≠ VIRTIO_BLK_T_IN)
    (hout : req.reqType ≠ VIRTIO_BLK_T_OUT) :
    processDescriptorChain descBase req.head bus = .ok 0 (bus.poke req.status.addr.toNat [0]) := by
  rw [collected.run_tail wf moves, Request.tail, mul_bind (Request.mul_lt moves.fits)]
  dsimp only
  rw [if_neg hin, if_neg hout]
  have hwrite := dmaWrite_ram wf (.inl rfl) moves.status 0
  exact (bind_ok hwrite _).trans rfl

/-- A requested chain is processed, and only its own buffers change. -/
theorem Requested.process (wf : bus.Wf) (h : Requested descBase n region writable head bus) :
    ∃ bus', processDescriptorChain descBase head bus = .ok 0 bus' ∧ Touched region bus bus' := by
  obtain ⟨descs, follows, hbuffers⟩ := h
  have run : collectDescs descBase 65537 head [] [] bus = .ok descs bus :=
    follows.collectDescs wf List.nodup_nil (Nat.le_refl _) []
  rcases Nat.lt_or_ge descs.length 3 with hshort | hlong
  · refine ⟨bus, ?_, .refl wf⟩
    rw [processDescriptorChain, bind_ok run, if_pos hshort]
    rfl
  · obtain ⟨req, rfl, buffers⟩ := hbuffers hlong
    have collected : Collected descBase req bus descs :=
      ⟨run, hlong, buffers.header, buffers.data, buffers.status⟩
    by_cases hin : req.reqType = VIRTIO_BLK_T_IN
    · exact ⟨_, processDescriptorChain_moves wf collected buffers.moves (.inl hin),
        buffers.touched_serve wf⟩
    · by_cases hout : req.reqType = VIRTIO_BLK_T_OUT
      · exact ⟨_, processDescriptorChain_moves wf collected buffers.moves (.inr hout),
          buffers.touched_serve wf⟩
      · refine ⟨_, processDescriptorChain_other wf collected buffers.moves hin hout, ?_⟩
        refine .poke wf buffers.moves.status fun x hlow hhigh => ?_
        have hx : x = req.status.addr.toNat := Nat.le_antisymm (Nat.lt_succ_iff.mp hhigh) hlow
        exact hx ▸ buffers.statusIn

end Chains

/-! ## The heads entered into the used ring -/

/-- A store of four bytes to the first word of an entry of the used ring: where, and what. -/
def entry (device : VirtIOBlk) : (β : Type) → DmaRequest β → Option (Nat × U64)
  | _, .write address size value =>
      if size = 4 ∧ ∃ k < device.queueNum.toNat,
          address.toNat = device.usedAddr.toNat + 4 + 8 * k then
        some (address.toNat, value)
      else none
  | _, .device | _, .update _ | _, .read _ _ | _, .require _ _ => none

section Entries

variable {device : VirtIOBlk}

theorem entry_bytewise {β : Type} {r : DmaRequest β} (h : DmaScript.Bytewise β r) :
    entry device β r = none := by
  cases r with
  | write address size value =>
      have hsize : size = 1 := h
      refine if_neg fun hentry => ?_
      rw [hsize] at hentry
      exact absurd hentry.1 (by decide)
  | device => rfl
  | update f => rfl
  | read address size => rfl
  | require holds cause => rfl

theorem entry_head {address : U64} {usedIdx : U16} (hnum : device.queueNum ≠ 0) (head : U16)
    (h : address.toNat = device.usedSlot usedIdx) :
    entry device Unit (.write address 4 (head.setWidth 64)) =
      some (device.usedSlot usedIdx, head.setWidth 64) := by
  refine (if_pos ⟨rfl, _, slot_lt hnum usedIdx, h⟩).trans ?_
  rw [h]

theorem entry_length {address value : U64} {usedIdx : U16}
    (h : address.toNat = device.usedSlot usedIdx + 4) :
    entry device Unit (.write address 4 value) = none := by
  refine if_neg ?_
  rintro ⟨-, k, -, hk⟩
  rw [h, usedSlot] at hk
  omega

theorem entry_idx {address value : U64} : entry device Unit (.write address 2 value) = none := rfl

variable [Host] {bus : Bus}

/-- A step that stores single bytes at most enters nothing. -/
theorem log_skip {α β : Type} {script : DmaScript α} {bus' : Bus} {a : α}
    (h : script.All DmaScript.Bytewise) (run : script.run Bus.handle bus = .ok a bus')
    (f : α → DmaScript β) :
    (script >>= f).log (entry device) Bus.handle bus =
      (f a).log (entry device) Bus.handle bus' := by
  rw [Script.log_bind run, Script.log_eq_nil (h.mono fun _ _ => entry_bytewise)]
  rfl

theorem log_add {β : Type} {a b : U64} (h : a.toNat + b.toNat < 2 ^ 64) (f : U64 → DmaScript β) :
    (DmaScript.add a b >>= f).log (entry device) Bus.handle bus =
      (f (a + b)).log (entry device) Bus.handle bus := by
  refine log_skip (DmaScript.bytewise_add a b) ?_ f
  rw [DmaScript.run_add, add_of_lt h]
  rfl

theorem log_mul {β : Type} {a b : U64} (h : a.toNat * b.toNat < 2 ^ 64) (f : U64 → DmaScript β) :
    (DmaScript.mul a b >>= f).log (entry device) Bus.handle bus =
      (f (a * b)).log (entry device) Bus.handle bus := by
  refine log_skip (DmaScript.bytewise_mul a b) ?_ f
  rw [DmaScript.run_mul, mul_of_lt h]
  rfl

theorem log_read {β : Type} (wf : bus.Wf) {address : U64} {size : U8} {v : Nat}
    (width : Ram.Width size) (h : Holds bus address.toNat size.toNat v) (f : U64 → DmaScript β) :
    (DmaScript.read address size >>= f).log (entry device) Bus.handle bus =
      (f (BitVec.ofNat 64 v)).log (entry device) Bus.handle bus := by
  refine log_skip (DmaScript.bytewise_read address size) ?_ f
  rw [DmaScript.run_read, dmaRead_ram wf width h.inRam, h.value]

theorem log_write {β : Type} {address value : U64} {size : U8} {bus' : Bus}
    (h : dmaWrite address size value bus = .ok () bus') (f : Unit → DmaScript β) :
    (DmaScript.write address size value >>= f).log (entry device) Bus.handle bus =
      (entry device Unit (.write address size value)).toList ++
        (f ()).log (entry device) Bus.handle bus' := by
  have run : (DmaScript.write address size value).run Bus.handle bus = .ok () bus' := by
    rw [DmaScript.run_write, h]
  exact (Script.log_bind run).trans (congrArg (· ++ _) (Script.log_request h))

/-- A round enters the one head it took from the available ring, at the place of the used index. -/
theorem log_serveChain (wf : bus.Wf) {last usedIdx head : U16} {bus₁ : Bus}
    (hnum : device.queueNum ≠ 0) (hhead : Holds bus (device.availSlot last) 2 head.toNat)
    (hchain : processDescriptorChain device.descAddr head bus = .ok 0 bus₁) (wf₁ : bus₁.Wf)
    (used : bus₁.InRam device.usedAddr.toNat device.usedLength) :
    (DmaScript.serveChain device last usedIdx).log (entry device) Bus.handle bus =
      [(device.usedSlot usedIdx, head.setWidth 64)] := by
  have avail := availAddress (hhead.inRam.lt wf)
  have address := @usedAddress device usedIdx hnum (used.lt wf₁)
  obtain ⟨bus₂, bus₃, hentry, hlength, hidx⟩ := @usedStores _ bus₁ wf₁ device usedIdx head hnum used
  rw [← avail.slot] at hhead
  rw [← DmaScript.run_processDescriptorChain] at hchain
  rw [DmaScript.serveChain]
  dsimp only
  rw [log_add avail.base]
  change Script.log _ _ (DmaScript.mul (device.slotOf last) 2 >>= _) bus = _
  rw [log_mul avail.index, log_add avail.sum, log_read wf (by decide) hhead,
    setWidth_ofNat_toNat head (by decide),
    log_skip (DmaScript.bytewise_processDescriptorChain _ _) hchain, log_add address.base]
  change Script.log _ _ (DmaScript.mul (device.slotOf usedIdx) 8 >>= _) bus₁ = _
  rw [log_mul address.index, log_add address.sum, log_write hentry,
    entry_head hnum head address.slot,
    log_add address.lengthSum]
  refine congrArg (Option.toList (some (device.usedSlot usedIdx, head.setWidth 64)) ++ ·)
    ((log_write hlength _).trans ?_)
  rw [entry_length address.length, log_add address.idxSum]
  exact (Script.log_request hidx).trans (congrArg _ entry_idx)

end Entries

/-! ## A whole notify -/

/-- The place in the available ring of the head of number `k`, counted from the first. -/
def ringSlot (device : VirtIOBlk) (k : Nat) : Nat :=
  device.availAddr.toNat + 4 + 2 * (k % device.queueNum.toNat)

/-- What the device writes: the buffers and its used ring. -/
def Writable (device : VirtIOBlk) (region : Nat → Prop) (x : Nat) : Prop :=
  region x ∨ (device.usedAddr.toNat ≤ x ∧ x < device.usedAddr.toNat + device.usedLength)

/-- The place in the used ring of the entry of number `k`, counted from the first. -/
def usedEntry (device : VirtIOBlk) (k : Nat) : Nat :=
  device.usedAddr.toNat + 4 + 8 * (k % device.queueNum.toNat)

/-- What the rounds from the entry of number `k` on write, if they are `n`: the buffers, the used
index and their entries. -/
def Entered (device : VirtIOBlk) (region : Nat → Prop) (k n x : Nat) : Prop :=
  region x ∨ (device.usedAddr.toNat + 2 ≤ x ∧ x < device.usedAddr.toNat + 4) ∨
    ∃ j < n, device.usedEntry (k + j) ≤ x ∧ x < device.usedEntry (k + j) + 8

/-- The used ring is in RAM, apart from the buffers; the table and the available ring are apart from
what the device writes. -/
structure Placed (device : VirtIOBlk) (region : Nat → Prop) (bus : Bus) : Prop where
  used : bus.InRam device.usedAddr.toNat device.usedLength
  buffers : ∀ x, device.usedAddr.toNat ≤ x → x < device.usedAddr.toNat + device.usedLength →
    ¬region x
  table : ∀ x, device.descAddr.toNat ≤ x →
    x < device.descAddr.toNat + 16 * device.queueNum.toNat → ¬Writable device region x
  avail : ∀ x, device.availAddr.toNat ≤ x →
    x < device.availAddr.toNat + (4 + 2 * device.queueNum.toNat) → ¬Writable device region x

/-- The available ring holds `head` at place `k`, and its chain is a request. -/
structure Outstanding [Host] (device : VirtIOBlk) (region : Nat → Prop) (bus : Bus) (k : Nat)
    (head : U16) : Prop where
  slot : Holds bus (device.ringSlot k) 2 head.toNat
  requested : Requested device.descAddr device.queueNum.toNat region
    (Writable device region) head bus

section Loop

variable {device : VirtIOBlk} {region : Nat → Prop} {bus bus' : Bus}

/-- Heads that may be outstanding together have slots of their own. -/
theorem slot_ne {i k : Nat} (hlt : i < k) (hclose : k < i + device.queueNum.toNat) :
    i % device.queueNum.toNat ≠ k % device.queueNum.toNat := by
  intro h
  have hdvd : device.queueNum.toNat ∣ k - i := (Nat.modEq_iff_dvd' (Nat.le_of_lt hlt)).mp h
  have hle := Nat.le_of_dvd (Nat.sub_pos_of_lt hlt) hdvd
  omega

/-- Counting modulo 65536 does not change the slot. -/
theorem availSlot_ofNat (hdvd : device.queueNum.toNat ∣ 65536) (k : Nat) :
    device.availSlot (BitVec.ofNat 16 k) = device.ringSlot k := by
  rw [availSlot, ringSlot, BitVec.toNat_ofNat, Nat.mod_mod_of_dvd _ hdvd]

theorem ringSlot_lt (hnum : device.queueNum ≠ 0) (k : Nat) :
    device.availAddr.toNat + 4 ≤ device.ringSlot k ∧
      device.ringSlot k + 2 ≤ device.availAddr.toNat + (4 + 2 * device.queueNum.toNat) := by
  have hpos : 0 < device.queueNum.toNat :=
    Nat.pos_of_ne_zero fun hzero => hnum (BitVec.eq_of_toNat_eq hzero)
  have hlt := Nat.mod_lt k hpos
  rw [ringSlot]
  omega

theorem Placed.touched (h : Placed device region bus)
    (touched : Touched (Writable device region) bus bus') : Placed device region bus' :=
  ⟨touched.inRam h.used, h.buffers, h.table, h.avail⟩

/-- Counting modulo 65536 does not change the entry. -/
theorem usedSlot_ofNat (hdvd : device.queueNum.toNat ∣ 65536) (k : Nat) :
    device.usedSlot (BitVec.ofNat 16 k) = device.usedEntry k := by
  rw [usedSlot, usedEntry, BitVec.toNat_ofNat, Nat.mod_mod_of_dvd _ hdvd]

theorem usedEntry_lt (hnum : device.queueNum ≠ 0) (k : Nat) :
    device.usedAddr.toNat + 4 ≤ device.usedEntry k ∧
      device.usedEntry k + 8 ≤ device.usedAddr.toNat + device.usedLength := by
  have hpos : 0 < device.queueNum.toNat :=
    Nat.pos_of_ne_zero fun hzero => hnum (BitVec.eq_of_toNat_eq hzero)
  have hlt := Nat.mod_lt k hpos
  rw [usedEntry, usedLength]
  omega

theorem Entered.writable {k n x : Nat} (hnum : device.queueNum ≠ 0)
    (h : Entered device region k n x) : Writable device region x := by
  have hlength : device.usedLength = 4 + 8 * device.queueNum.toNat := rfl
  obtain hregion | ⟨hlow, hhigh⟩ | ⟨j, -, hlow, hhigh⟩ := h
  · exact .inl hregion
  · exact .inr ⟨by omega, by omega⟩
  · obtain ⟨habove, hbelow⟩ := usedEntry_lt hnum (k + j)
    exact .inr ⟨by omega, by omega⟩

/-- Entries of different numbers below one another have places of their own. -/
theorem usedEntry_apart {i k x : Nat} (hlt : i < k) (hclose : k < i + device.queueNum.toNat)
    (hlow : device.usedEntry i ≤ x) (hhigh : x < device.usedEntry i + 8) :
    ¬(device.usedEntry k ≤ x ∧ x < device.usedEntry k + 8) := by
  have hne := slot_ne hlt hclose
  rw [usedEntry] at *
  omega

variable [Host]

theorem Outstanding.touched {k : Nat} {head : U16} (h : Outstanding device region bus k head)
    (touched : Touched (Writable device region) bus bus') (wf : bus.Wf)
    (placed : Placed device region bus) (hnum : device.queueNum ≠ 0) :
    Outstanding device region bus' k head := by
  obtain ⟨hlow, hhigh⟩ := ringSlot_lt hnum k
  exact ⟨touched.holds wf h.slot fun x hx hx' => placed.avail x (by omega) (by omega),
    h.requested.touched touched wf placed.table⟩

omit [Host] in
/-- A number is held where it was stored. -/
theorem holds_poke (wf : bus.Wf) {a n v : Nat} (h : bus.InRam a n) (hv : v < 256 ^ n) :
    Holds (bus.poke a (leBytes n v)) a n v := by
  have hlength := leBytes_length n v
  have hin : bus.InRam a (leBytes n v).length := hlength.symm ▸ h
  have hbytes : (bus.poke a (leBytes n v)).ramBytes a n = leBytes n v := by
    apply List.ext_getElem?
    intro i
    rcases Nat.lt_or_ge i n with hi | hi
    · rw [getElem?_ramBytes (wf.poke hin) (h.poke _ _) hi, ramByte_poke wf hin,
        if_pos ⟨by omega, by omega⟩, Nat.add_sub_cancel_left]
    · rw [List.getElem?_eq_none, List.getElem?_eq_none]
      · rwa [hlength]
      · rwa [length_ramBytes (wf.poke hin) (h.poke _ _)]
  refine ⟨h.poke _ _, ?_⟩
  rw [hbytes, leNat_leBytes, Nat.mod_eq_of_lt hv]

omit [Host] in
/-- Entering a head touches its entry and the index, and both are held there afterwards. -/
theorem complete_spec (wf : bus.Wf) (hnum : device.queueNum ≠ 0)
    (used : bus.InRam device.usedAddr.toNat device.usedLength) (usedIdx head : U16) :
    Touched (fun x => (device.usedAddr.toNat + 2 ≤ x ∧ x < device.usedAddr.toNat + 4) ∨
        (device.usedSlot usedIdx ≤ x ∧ x < device.usedSlot usedIdx + 8)) bus
      (device.complete usedIdx head bus) ∧
    Holds (device.complete usedIdx head bus) (device.usedSlot usedIdx) 4 head.toNat ∧
    Holds (device.complete usedIdx head bus) (device.usedSlot usedIdx + 4) 4 0 ∧
    Holds (device.complete usedIdx head bus) (device.usedAddr.toNat + 2) 2
      (usedIdx + 1).toNat := by
  obtain ⟨hlow, hhigh⟩ := usedSlot_le hnum usedIdx
  obtain ⟨h₁, h₂, h₃⟩ := @inRam_complete bus device head hnum used usedIdx
  rw [leBytes_length] at h₁ h₂ h₃
  have hpoke {bus : Bus} (wf : bus.Wf) {a n : Nat} (v : Nat) (h : bus.InRam a n) :
      Touched (fun x => a ≤ x ∧ x < a + n) bus (bus.poke a (leBytes n v)) := by
    have hlength := leBytes_length n v
    exact .poke wf (hlength.symm ▸ h) fun x hx hx' => ⟨hx, hlength ▸ hx'⟩
  have t₁ := hpoke wf head.toNat h₁
  have t₂ := hpoke t₁.wf 0 (t₁.inRam h₂)
  have t₃ := hpoke t₂.wf (usedIdx + 1).toNat (t₂.inRam (t₁.inRam h₃))
  have hentry := holds_poke wf h₁ (show head.toNat < 256 ^ 4 by have := head.isLt; omega)
  have hlength := holds_poke t₁.wf (t₁.inRam h₂) (show 0 < 256 ^ 4 by decide)
  have hidx := holds_poke t₂.wf (t₂.inRam (t₁.inRam h₃)) (BitVec.isLt (usedIdx + 1))
  refine ⟨?_, ?_, ?_, hidx⟩
  · refine (t₁.mono fun x hx => .inr ?_).trans ((t₂.mono fun x hx => .inr ?_).trans
      (t₃.mono fun x hx => .inl ?_)) <;> omega
  · refine t₃.holds t₂.wf (t₂.holds t₁.wf hentry fun x hx hx' hin => ?_) fun x hx hx' hin => ?_
    all_goals omega
  · exact t₃.holds t₂.wf hlength fun x hx hx' hin => by omega

/-- The entry of number `k` holds `head`, and the length 0 behind it. -/
structure Entry (device : VirtIOBlk) (bus : Bus) (k : Nat) (head : U16) : Prop where
  head : Holds bus (device.usedEntry k) 4 head.toNat
  length : Holds bus (device.usedEntry k + 4) 4 0

omit [Host] in
theorem Entry.touched {k : Nat} {head : U16} {written : Nat → Prop} (h : Entry device bus k head)
    (touched : Touched written bus bus') (wf : bus.Wf)
    (apart : ∀ x, device.usedEntry k ≤ x → x < device.usedEntry k + 8 → ¬written x) :
    Entry device bus' k head :=
  ⟨touched.holds wf h.head fun x hx hx' => apart x hx (by omega),
    touched.holds wf h.length fun x hx hx' => apart x (by omega) (by omega)⟩

/-- One round serves the next outstanding head, and enters it at the next place. -/
theorem serveChain_outstanding (wf : bus.Wf) (hdvd : device.queueNum.toNat ∣ 65536)
    (hnum : device.queueNum ≠ 0) (placed : Placed device region bus) {k : Nat} {head : U16}
    (h : Outstanding device region bus k head) :
    ∃ bus', serveChain device (BitVec.ofNat 16 k) (BitVec.ofNat 16 k) bus = .ok () bus' ∧
      Touched (Entered device region k 1) bus bus' ∧ Entry device bus' k head ∧
      Holds bus' (device.usedAddr.toNat + 2) 2 (BitVec.ofNat 16 (k + 1)).toNat ∧
      (DmaScript.serveChain device (BitVec.ofNat 16 k) (BitVec.ofNat 16 k)).log (entry device)
        Bus.handle bus = [(device.usedEntry k, head.setWidth 64)] := by
  obtain ⟨bus₁, hchain, touched⟩ := h.requested.process wf
  have used := touched.inRam placed.used
  have hslot := h.slot
  rw [← availSlot_ofNat hdvd] at hslot
  have hsucc : BitVec.ofNat 16 (k + 1) = BitVec.ofNat 16 k + 1 := BitVec.ofNat_add k 1
  have hround := @serveChain_complete _ _ wf device _ (BitVec.ofNat 16 k) head _ hnum hslot hchain
    touched.wf used
  have hlog := @log_serveChain device _ _ wf _ (BitVec.ofNat 16 k) head _ hnum hslot hchain
    touched.wf used
  obtain ⟨hring, hhead, hlength, hidx⟩ :=
    complete_spec touched.wf hnum used (BitVec.ofNat 16 k) head
  rw [usedSlot_ofNat hdvd] at hlog hring hhead hlength
  rw [hsucc]
  refine ⟨_, hround, (touched.mono fun x => .inl).trans (hring.mono ?_), ⟨hhead, hlength⟩, hidx,
    hlog⟩
  rintro x (hx | hx)
  · exact .inr (.inl hx)
  · exact .inr (.inr ⟨0, Nat.one_pos, hx⟩)

omit [Host] in
/-- Two counts that differ by less than 65536 are different counters. -/
theorem ofNat_ne {k m : Nat} (hlt : k < m) (hclose : m < k + 65536) :
    BitVec.ofNat 16 k ≠ BitVec.ofNat 16 m := by
  intro h
  have hmod := congrArg BitVec.toNat h
  rw [BitVec.toNat_ofNat, BitVec.toNat_ofNat] at hmod
  omega

omit [Host] in
theorem Entered.cons {k n x : Nat} (h : Entered device region k 1 x ∨
    Entered device region (k + 1) n x) : Entered device region k (n + 1) x := by
  obtain (hregion | hidx | ⟨j, hj, hx⟩) | (hregion | hidx | ⟨j, hj, hx⟩) := h
  · exact .inl hregion
  · exact .inr (.inl hidx)
  · exact .inr (.inr ⟨j, by omega, hx⟩)
  · exact .inl hregion
  · exact .inr (.inl hidx)
  · rw [Nat.add_assoc, Nat.add_comm 1 j] at hx
    exact .inr (.inr ⟨j + 1, by omega, hx⟩)

/-- The loop serves all the outstanding heads in their order, each once, and enters each at its
place. -/
theorem serveChains_outstanding (hdvd : device.queueNum.toNat ∣ 65536) (hnum : device.queueNum ≠ 0)
    (hsmall : device.queueNum.toNat ≤ 32768) {heads : List U16} {k fuel : Nat} (wf : bus.Wf)
    (placed : Placed device region bus)
    (outstanding : ∀ j head, heads[j]? = some head → Outstanding device region bus (k + j) head)
    (usedIdx : Holds bus (device.usedAddr.toNat + 2) 2 (BitVec.ofNat 16 k).toNat)
    (few : heads.length ≤ device.queueNum.toNat) (enough : heads.length ≤ fuel) :
    ∃ bus', serveChains device (BitVec.ofNat 16 (k + heads.length)) fuel (BitVec.ofNat 16 k)
        (BitVec.ofNat 16 k) bus = .ok (BitVec.ofNat 16 (k + heads.length)) bus' ∧
      Touched (Entered device region k heads.length) bus bus' ∧
      (∀ j head, heads[j]? = some head → Entry device bus' (k + j) head) ∧
      Holds bus' (device.usedAddr.toNat + 2) 2 (BitVec.ofNat 16 (k + heads.length)).toNat ∧
      (DmaScript.serveChains device (BitVec.ofNat 16 (k + heads.length)) fuel (BitVec.ofNat 16 k)
        (BitVec.ofNat 16 k)).log (entry device) Bus.handle bus =
          heads.mapIdx fun j head => (device.usedEntry (k + j), head.setWidth 64) := by
  induction heads generalizing k fuel bus with
  | nil =>
      refine ⟨bus, ?_, .refl wf, nofun, usedIdx, ?_⟩
      · cases fuel with
        | zero => exact congrFun (if_pos rfl) bus
        | succ fuel => exact congrFun (if_pos rfl) bus
      · cases fuel with
        | zero =>
            have hnone : (DmaScript.serveChains device (BitVec.ofNat 16 (k + 0)) 0
                (BitVec.ofNat 16 k)
                (BitVec.ofNat 16 k)).All fun _ r => entry device _ r = none :=
              ⟨rfl, fun _ => trivial⟩
            exact Script.log_eq_nil hnone bus
        | succ fuel => exact congrArg (Script.log (entry device) Bus.handle · bus) (if_pos rfl)
  | cons head heads ih =>
      obtain ⟨fuel, rfl⟩ : ∃ f, fuel = f + 1 :=
        ⟨fuel - 1, by rw [List.length_cons] at enough; omega⟩
      rw [List.length_cons] at few enough
      obtain ⟨bus₁, hround, touched₁, entered₁, usedIdx₁, hlog⟩ :=
        serveChain_outstanding wf hdvd hnum placed (outstanding 0 head rfl)
      rw [Nat.add_zero] at hround touched₁ entered₁ usedIdx₁ hlog
      have touched : Touched (Writable device region) bus bus₁ :=
        touched₁.mono fun x => Entered.writable hnum
      have houtstanding : ∀ j head', heads[j]? = some head' →
          Outstanding device region bus₁ (k + 1 + j) head' := by
        intro j head' hhead
        have hindex : k + 1 + j = k + (j + 1) := by omega
        rw [hindex]
        exact (outstanding (j + 1) head' hhead).touched touched wf placed hnum
      obtain ⟨bus', hloop, touched', entered', usedIdx', hlog'⟩ :=
        ih touched.wf (placed.touched touched) houtstanding usedIdx₁ (by omega)
          (show heads.length ≤ fuel by omega)
      have hcount : k + (heads.length + 1) = k + 1 + heads.length := by omega
      have hne : BitVec.ofNat 16 k ≠ BitVec.ofNat 16 (k + 1 + heads.length) :=
        ofNat_ne (by omega) (by omega)
      have hsucc : BitVec.ofNat 16 k + 1 = BitVec.ofNat 16 (k + 1) := (BitVec.ofNat_add k 1).symm
      -- the later rounds leave the first entry alone, as there are not more of them than entries
      have hfirst : Entry device bus' k head := by
        refine entered₁.touched touched' touched.wf fun x hx hx' hin => ?_
        obtain ⟨habove, hbelow⟩ := usedEntry_lt hnum k
        obtain hregion | hidx | ⟨j, hj, hplace⟩ := hin
        · exact placed.buffers x (by omega) (by omega) hregion
        · omega
        · exact usedEntry_apart (by omega) (by omega) hx hx' hplace
      rw [List.length_cons, hcount]
      refine ⟨bus', ?_, ?_, ?_, usedIdx', ?_⟩
      · rw [serveChains, if_neg hne, bind_ok hround, hsucc]
        exact hloop
      · exact (touched₁.mono fun x hx => .cons (.inl hx)).trans
          (touched'.mono fun x hx => .cons (.inr hx))
      · rintro (_ | j) head' hhead
        · cases hhead
          exact hfirst
        · have hindex : k + (j + 1) = k + 1 + j := by omega
          rw [hindex]
          exact entered' j head' hhead
      · rw [← DmaScript.run_serveChain] at hround
        rw [DmaScript.serveChains, if_neg hne, Script.log_bind hround, hlog, hsucc, hlog',
          List.mapIdx_cons]
        simp only [Nat.add_zero, Nat.add_assoc, Nat.add_comm 1, List.singleton_append]

end Loop

/-! ## Runs of driver and device -/

/-- The registers of queue 0 are the same. -/
structure SameQueue (device device' : VirtIOBlk) : Prop where
  queueReady : device'.queueReady = device.queueReady
  queueNum : device'.queueNum = device.queueNum
  descAddr : device'.descAddr = device.descAddr
  availAddr : device'.availAddr = device.availAddr
  usedAddr : device'.usedAddr = device.usedAddr
  cursor : device'.lastAvailIdx 0 = device.lastAvailIdx 0

/-- The rings when `published` are all the heads published so far and `entered` all those
entered: each index counts one of the two modulo 65536, what lies between is in its slots, and
there are at most as many of these as the queue has entries. -/
structure Counts (published entered : List U16) (bus : Bus) : Prop where
  availIdx : Holds bus (bus.dev.virtio.availAddr.toNat + 2) 2
    (BitVec.ofNat 16 published.length).toNat
  usedIdx : Holds bus (bus.dev.virtio.usedAddr.toNat + 2) 2 (BitVec.ofNat 16 entered.length).toNat
  slots : ∀ i head, entered.length ≤ i → published[i]? = some head →
    Holds bus (bus.dev.virtio.ringSlot i) 2 head.toNat
  room : published.length ≤ entered.length + bus.dev.virtio.queueNum.toNat

section Runs

variable [Host]

/-- A store of 0 to `QUEUE_NOTIFY`. -/
def notify : Call Bus Unit := write 0x050 4 0

/-- The entries that a notify stores into the used ring, in order. -/
def entries (bus : Bus) : List (Nat × U64) :=
  (DmaScript.processQueue 0).log (entry bus.dev.virtio) Bus.handle bus

omit [Host] in
/-- The index that the used ring holds. -/
def usedIndex (bus : Bus) : Nat := leNat (bus.ramBytes (bus.dev.virtio.usedAddr.toNat + 2) 2)

omit [Host] in
/-- The heads that the driver finds in the used ring of `bus'`, from the index in `bus` up to that
in `bus'`. -/
def completed (bus bus' : Bus) : List U16 :=
  (List.range ((usedIndex bus' + 65536 - usedIndex bus) % 65536)).map fun j =>
    BitVec.ofNat 16 (leNat (bus'.ramBytes (bus'.dev.virtio.usedEntry (usedIndex bus + j)) 4))

/-- The heads published and not yet entered ask for requests whose buffers are `region`. -/
structure Serviceable (published entered : List U16) (region : Nat → Prop) (bus : Bus) : Prop where
  placed : Placed bus.dev.virtio region bus
  requested : ∀ head ∈ published.drop entered.length,
    Requested bus.dev.virtio.descAddr bus.dev.virtio.queueNum.toNat region
      (Writable bus.dev.virtio region) head bus

/-- A run of driver and device from the queue made ready after a reset: the heads published, the
heads found in the used ring behind each notify, and the machine. A step of the driver stores heads
in free slots, advances the index past some of them, or does anything else that leaves queue and
indices alone. -/
inductive Run : (published entered : List U16) → Bus → Prop
  | ready {bus : Bus} (wf : bus.Wf) (size : ∃ k ≤ 15, bus.dev.virtio.queueNum.toNat = 2 ^ k)
      (ready : bus.dev.virtio.queueReady ≠ 0) (reset : bus.dev.virtio.lastAvailIdx 0 = none)
      (counts : Counts [] [] bus) : Run [] [] bus
  | driver {published entered heads : List U16} {bus bus' : Bus} (h : Run published entered bus)
      (wf : bus'.Wf) (queue : SameQueue bus.dev.virtio bus'.dev.virtio)
      (counts : Counts (published ++ heads) entered bus') : Run (published ++ heads) entered bus'
  | notify {published entered : List U16} {region : Nat → Prop} {bus bus' : Bus}
      (h : Run published entered bus) (serviceable : Serviceable published entered region bus)
      (run : notify bus = .ok () bus') : Run published (entered ++ completed bus bus') bus'

/-- What holds all along a run. -/
structure Invariant (published entered : List U16) (bus : Bus) : Prop where
  wf : bus.Wf
  size : ∃ k ≤ 15, bus.dev.virtio.queueNum.toNat = 2 ^ k
  ready : bus.dev.virtio.queueReady ≠ 0
  cursor : (bus.dev.virtio.lastAvailIdx 0).getD (BitVec.ofNat 16 entered.length) =
    BitVec.ofNat 16 entered.length
  counts : Counts published entered bus
  begun : entered <+: published

variable {published entered : List U16} {region : Nat → Prop} {bus bus' : Bus}

omit [Host] in
theorem Invariant.queueNum (h : Invariant published entered bus) :
    bus.dev.virtio.queueNum ≠ 0 ∧ bus.dev.virtio.queueNum.toNat ∣ 65536 ∧
      bus.dev.virtio.queueNum.toNat ≤ 32768 := by
  obtain ⟨k, hk, hsize⟩ := h.size
  have hle : 2 ^ k ≤ 2 ^ 15 := Nat.pow_le_pow_right (by decide) hk
  refine ⟨fun hzero => ?_, ?_, ?_⟩
  · rw [hzero] at hsize
    exact absurd hsize.symm (Nat.two_pow_pos k).ne'
  · rw [hsize]
    exact Nat.pow_dvd_pow 2 (show k ≤ 16 by omega)
  · rw [hsize]
    exact hle

omit [Host] in
theorem Holds.withVirtio {a n v : Nat} (h : Holds bus a n v) (device : VirtIOBlk) :
    Holds (bus.withVirtio device) a n v :=
  ⟨h.inRam.congr fun w => range_withVirtio bus device w, h.value⟩

/-- A notify enters what its loop enters. -/
theorem entries_apply (wf : bus.Wf) {availIdx usedIdx last : U16}
    (pending : Pending 0 availIdx usedIdx bus)
    (loop : serveChains bus.dev.virtio availIdx 65536
      ((bus.dev.virtio.lastAvailIdx 0).getD usedIdx) usedIdx bus = .ok last bus') :
    entries bus = (DmaScript.serveChains bus.dev.virtio availIdx 65536
      ((bus.dev.virtio.lastAvailIdx 0).getD usedIdx) usedIdx).log (entry bus.dev.virtio)
        Bus.handle bus := by
  obtain ⟨hltAvail, havail⟩ := holds_index wf pending.avail
  obtain ⟨hltUsed, hused⟩ := holds_index wf pending.used
  have hidle : ¬(bus.dev.virtio.queueReady = 0 ∨ bus.dev.virtio.queueNum = 0) :=
    not_or.mpr ⟨pending.ready, pending.queueNum⟩
  have hdevice : DmaScript.device.run Bus.handle bus = .ok bus.dev.virtio bus := rfl
  rw [← DmaScript.run_serveChains] at loop
  have hbytewise : DmaScript.device.All DmaScript.Bytewise := .request trivial
  rw [entries, DmaScript.processQueue, log_skip hbytewise hdevice, if_neg hidle,
    log_add hltAvail, log_read wf (by decide) havail, log_add hltUsed,
    log_read wf (by decide) hused]
  rw [setWidth_ofNat_toNat availIdx (by decide), setWidth_ofNat_toNat usedIdx (by decide)]
  exact (Script.log_bind loop).trans (List.append_nil _)

omit [Host] in
theorem usedIndex_eq {v : Nat} (h : Holds bus (bus.dev.virtio.usedAddr.toNat + 2) 2
    (BitVec.ofNat 16 v).toNat) : usedIndex bus = v % 65536 := by
  rw [usedIndex, h.value, BitVec.toNat_ofNat]

omit [Host] in
/-- The driver finds the heads that are there, from the index on that it knows. -/
theorem completed_eq {heads : List U16} (hdvd : bus'.dev.virtio.queueNum.toNat ∣ 65536)
    {k : Nat} (before : usedIndex bus = k % 65536)
    (after : usedIndex bus' = (k + heads.length) % 65536) (few : heads.length < 65536)
    (ring : ∀ j head, heads[j]? = some head → Entry bus'.dev.virtio bus' (k + j) head) :
    completed bus bus' = heads := by
  have hcount : (usedIndex bus' + 65536 - usedIndex bus) % 65536 = heads.length := by omega
  rw [completed, hcount, before]
  refine List.ext_getElem (by rw [List.length_map, List.length_range]) fun j hj hj' => ?_
  have hplace : bus'.dev.virtio.usedEntry (k % 65536 + j) = bus'.dev.virtio.usedEntry (k + j) := by
    rw [usedEntry, usedEntry, Nat.add_mod, Nat.mod_mod_of_dvd _ hdvd, ← Nat.add_mod]
  have hentry := ring j heads[j] (List.getElem?_eq_getElem hj')
  rw [List.getElem_map, List.getElem_range, hplace, hentry.head.value, BitVec.ofNat_toNat,
    BitVec.setWidth_eq]

/-- What a notify does that serves all that is outstanding: behind it the driver finds these heads
in the used ring, in order; each lies where its number belongs, with the length 0, and has been
stored there by the one store that went to the entry; and both indices stand at the number of
heads published. -/
structure EntersAll (published entered : List U16) (bus bus' : Bus) : Prop where
  run : VirtIOBlk.notify bus = .ok () bus'
  completed : entered ++ completed bus bus' = published
  ring : ∀ k head, entered.length ≤ k → published[k]? = some head →
    Entry bus.dev.virtio bus' k head
  script : (DmaScript.processQueue 0).run Bus.handle bus = .ok () bus'
  stores : entries bus = (published.drop entered.length).mapIdx fun j head =>
    (bus.dev.virtio.usedEntry (entered.length + j), head.setWidth 64)
  availIdx : Holds bus' (bus'.dev.virtio.availAddr.toNat + 2) 2 (published.length % 65536)
  usedIdx : Holds bus' (bus'.dev.virtio.usedAddr.toNat + 2) 2 (published.length % 65536)

/-- A notify enters exactly what is outstanding. -/
theorem Invariant.notify (h : Invariant published entered bus)
    (serviceable : Serviceable published entered region bus) :
    ∃ bus', EntersAll published entered bus bus' ∧ Invariant published published bus' := by
  obtain ⟨hnum, hdvd, hsmall⟩ := h.queueNum
  obtain ⟨wf, hsize, hready, hcursor, counts, rest, rfl⟩ := h
  have hroom := counts.room
  rw [List.length_append] at hroom
  have hdrop : (entered ++ rest).drop entered.length = rest := List.drop_left
  have houtstanding : ∀ j head, rest[j]? = some head →
      Outstanding bus.dev.virtio region bus (entered.length + j) head := by
    intro j head hhead
    refine ⟨counts.slots _ _ (Nat.le_add_right _ _) ?_, serviceable.requested head ?_⟩
    · rw [List.getElem?_append_right (Nat.le_add_right _ _), Nat.add_sub_cancel_left, hhead]
    · rw [hdrop]
      exact List.mem_of_getElem? hhead
  obtain ⟨bus', hloop, hentered, hring, husedIdx, hlog⟩ := serveChains_outstanding hdvd hnum hsmall
    wf serviceable.placed houtstanding counts.usedIdx (by omega)
    (show rest.length ≤ 65536 by omega)
  have touched : Touched (Writable bus.dev.virtio region) bus bus' :=
    hentered.mono fun x => Entered.writable hnum
  have pending : Pending 0 (BitVec.ofNat 16 (entered.length + rest.length))
      (BitVec.ofNat 16 entered.length) bus := by
    refine ⟨hready, hnum, ?_, counts.usedIdx⟩
    rw [← List.length_append]
    exact counts.availIdx
  have hlast : serveChains bus.dev.virtio (BitVec.ofNat 16 (entered.length + rest.length)) 65536
      ((bus.dev.virtio.lastAvailIdx 0).getD (BitVec.ofNat 16 entered.length))
      (BitVec.ofNat 16 entered.length) bus =
      .ok (BitVec.ofNat 16 (entered.length + rest.length)) bus' := by
    rw [hcursor]
    exact hloop
  have hentries : entries bus = rest.mapIdx fun j head =>
      (bus.dev.virtio.usedEntry (entered.length + j), head.setWidth 64) := by
    rw [entries_apply wf pending hlast, hcursor]
    exact hlog
  have hrun := processQueue_apply wf pending hlast
  obtain ⟨disk, hdevice⟩ := touched.device
  rw [hdevice] at hrun
  have havail := touched.holds wf counts.availIdx fun x hlow hhigh =>
    serviceable.placed.avail x (by omega) (by omega)
  have hcompleted : completed bus (bus'.withVirtio (VirtIOBlk.settle { bus.dev.virtio with disk } 0
      (BitVec.ofNat 16 (entered.length + rest.length)))) = rest :=
    completed_eq hdvd (usedIndex_eq counts.usedIdx) (usedIndex_eq (husedIdx.withVirtio _))
      (by omega) fun j head hhead =>
        ⟨(hring j head hhead).head.withVirtio _, (hring j head hhead).length.withVirtio _⟩
  rw [← List.length_append] at husedIdx
  refine ⟨_, ⟨hrun, congrArg (entered ++ ·) hcompleted, fun k head hk hhead => ?_, ?_, ?_, ?_, ?_⟩,
    touched.wf.withVirtio _, hsize, hready, ?_, ⟨havail.withVirtio _, husedIdx.withVirtio _,
    fun i head hi hhead => ?_, Nat.le_add_right _ _⟩, List.prefix_refl _⟩
  · obtain ⟨j, rfl⟩ := Nat.exists_eq_add_of_le hk
    rw [List.getElem?_append_right hk, Nat.add_sub_cancel_left] at hhead
    have hentry := hring j head hhead
    exact ⟨hentry.head.withVirtio _, hentry.length.withVirtio _⟩
  · rw [DmaScript.run_processQueue]
    exact hrun
  · rw [hentries, hdrop]
  · rw [BitVec.toNat_ofNat] at havail
    exact havail.withVirtio _
  · rw [BitVec.toNat_ofNat] at husedIdx
    exact husedIdx.withVirtio _
  · rw [List.length_append]
    rfl
  · rw [List.getElem?_eq_none hi] at hhead
    cases hhead

/-- A run keeps driver and device in step. -/
theorem Run.invariant (h : Run published entered bus) : Invariant published entered bus := by
  induction h with
  | ready wf size ready reset counts =>
      refine ⟨wf, size, ready, ?_, counts, List.prefix_refl _⟩
      rw [reset]
      rfl
  | driver h wf queue counts ih =>
      refine ⟨wf, ?_, ?_, ?_, counts, ih.begun.trans (List.prefix_append _ _)⟩
      · rw [queue.queueNum]
        exact ih.size
      · rw [queue.queueReady]
        exact ih.ready
      · rw [queue.cursor]
        exact ih.cursor
  | notify h serviceable run ih =>
      obtain ⟨bus₁, enters, after⟩ := ih.notify serviceable
      cases enters.run.symm.trans run
      exact enters.completed.symm ▸ after

/-- The available ring is in RAM, apart from the used ring. -/
structure Rings (device : VirtIOBlk) (bus : Bus) : Prop where
  avail : bus.InRam device.availAddr.toNat (4 + 2 * device.queueNum.toNat)
  apart : Apart device.availAddr.toNat (4 + 2 * device.queueNum.toNat) device.usedAddr.toNat
    device.usedLength

omit [Host] in
/-- What the driver stores in the available ring leaves the used ring alone. -/
theorem Rings.usedIdx {device : VirtIOBlk} (rings : Rings device bus) {region : Nat → Prop}
    (touched : Touched region bus bus') (wf : bus.Wf) {v : Nat}
    (hregion : ∀ x, region x →
      device.availAddr.toNat ≤ x ∧ x < device.availAddr.toNat + (4 + 2 * device.queueNum.toNat))
    (h : Holds bus (device.usedAddr.toNat + 2) 2 v) :
    Holds bus' (device.usedAddr.toNat + 2) 2 v := by
  refine touched.holds wf h fun x hlow hhigh hin => ?_
  obtain ⟨havail, havail'⟩ := hregion x hin
  have hlength : device.usedLength = 4 + 8 * device.queueNum.toNat := rfl
  exact rings.apart x havail havail' ⟨by omega, by omega⟩

/-- The driver may store any head in a free slot. -/
theorem Run.store (h : Run published entered bus) (rings : Rings bus.dev.virtio bus) {k : Nat}
    (free : published.length ≤ k) (low : k < entered.length + bus.dev.virtio.queueNum.toNat)
    (head : U16) :
    Run published entered (bus.poke (bus.dev.virtio.ringSlot k) (leBytes 2 head.toNat)) := by
  have invariant := h.invariant
  have counts := invariant.counts
  obtain ⟨hnum, -, -⟩ := invariant.queueNum
  obtain ⟨hlow, hhigh⟩ := ringSlot_lt hnum k
  have hlength := leBytes_length 2 head.toNat
  have touched : Touched
      (fun x => bus.dev.virtio.ringSlot k ≤ x ∧ x < bus.dev.virtio.ringSlot k + 2) bus
      (bus.poke (bus.dev.virtio.ringSlot k) (leBytes 2 head.toNat)) := by
    refine .poke invariant.wf ?_ fun x hx hx' => ⟨hx, by omega⟩
    rw [hlength]
    exact rings.avail.sub (by omega) (by omega)
  have havail : Holds (bus.poke (bus.dev.virtio.ringSlot k) (leBytes 2 head.toNat))
      (bus.dev.virtio.availAddr.toNat + 2) 2 (BitVec.ofNat 16 published.length).toNat :=
    touched.holds invariant.wf counts.availIdx fun x hx hx' hin => by omega
  have hused := rings.usedIdx touched invariant.wf
      (fun x hin => ⟨by omega, by omega⟩) counts.usedIdx
  have hslots : ∀ i head', entered.length ≤ i → published[i]? = some head' →
      Holds (bus.poke (bus.dev.virtio.ringSlot k) (leBytes 2 head.toNat))
        (bus.dev.virtio.ringSlot i) 2 head'.toNat := by
    intro i head' hi hhead
    obtain ⟨hlt, -⟩ := List.getElem?_eq_some_iff.mp hhead
    have hne := @slot_ne bus.dev.virtio i k (by omega) (by omega)
    refine touched.holds invariant.wf (counts.slots i head' hi hhead) fun x hx hx' hin => ?_
    rw [ringSlot] at hx hx' hin
    omega
  have run := @Run.driver _ _ _ [] _ _ h touched.wf ⟨rfl, rfl, rfl, rfl, rfl, rfl⟩
  rw [List.append_nil] at run
  exact run ⟨havail, hused, hslots, counts.room⟩

/-- The driver may advance the index past heads that it has stored, by any amount. -/
theorem Run.advance (h : Run published entered bus) (rings : Rings bus.dev.virtio bus)
    {heads : List U16}
    (stored : ∀ j head, heads[j]? = some head →
      Holds bus (bus.dev.virtio.ringSlot (published.length + j)) 2 head.toNat)
    (room : (published ++ heads).length ≤ entered.length + bus.dev.virtio.queueNum.toNat) :
    Run (published ++ heads) entered (bus.poke (bus.dev.virtio.availAddr.toNat + 2)
      (leBytes 2 (BitVec.ofNat 16 (published ++ heads).length).toNat)) := by
  have invariant := h.invariant
  have counts := invariant.counts
  obtain ⟨hnum, -, -⟩ := invariant.queueNum
  have hidx : bus.InRam (bus.dev.virtio.availAddr.toNat + 2) 2 :=
    rings.avail.sub (by omega) (by omega)
  have hlength := leBytes_length 2 (BitVec.ofNat 16 (published ++ heads).length).toNat
  have touched : Touched
      (fun x => bus.dev.virtio.availAddr.toNat + 2 ≤ x ∧ x < bus.dev.virtio.availAddr.toNat + 2 + 2)
      bus (bus.poke (bus.dev.virtio.availAddr.toNat + 2)
        (leBytes 2 (BitVec.ofNat 16 (published ++ heads).length).toNat)) := by
    refine .poke invariant.wf ?_ fun x hx hx' => ⟨hx, by omega⟩
    rw [hlength]
    exact hidx
  have hused := rings.usedIdx touched invariant.wf
      (fun x hin => ⟨by omega, by omega⟩) counts.usedIdx
  have hslots : ∀ i head, entered.length ≤ i → (published ++ heads)[i]? = some head →
      Holds (bus.poke (bus.dev.virtio.availAddr.toNat + 2)
        (leBytes 2 (BitVec.ofNat 16 (published ++ heads).length).toNat))
        (bus.dev.virtio.ringSlot i) 2 head.toNat := by
    intro i head hi hhead
    have hslot : Holds bus (bus.dev.virtio.ringSlot i) 2 head.toNat := by
      rcases Nat.lt_or_ge i published.length with hlt | hge
      · exact counts.slots i head hi (List.getElem?_append_left hlt ▸ hhead)
      · rw [List.getElem?_append_right hge] at hhead
        have hsum : published.length + (i - published.length) = i := Nat.add_sub_cancel' hge
        exact hsum ▸ stored _ head hhead
    obtain ⟨hlow, hhigh⟩ := ringSlot_lt hnum i
    exact touched.holds invariant.wf hslot fun x hx hx' hin => by omega
  exact h.driver touched.wf ⟨rfl, rfl, rfl, rfl, rfl, rfl⟩
    ⟨holds_poke invariant.wf hidx (BitVec.isLt _), hused, hslots, room⟩

/-- The driver stores a head in the slot of number `k` and advances the index past it. -/
def publish (k : Nat) (head : U16) (bus : Bus) : Bus :=
  (bus.poke (bus.dev.virtio.ringSlot k) (leBytes 2 head.toNat)).poke
    (bus.dev.virtio.availAddr.toNat + 2) (leBytes 2 (BitVec.ofNat 16 (k + 1)).toNat)

theorem Run.publish (h : Run published entered bus) (rings : Rings bus.dev.virtio bus)
    (room : published.length < entered.length + bus.dev.virtio.queueNum.toNat) (head : U16) :
    Run (published ++ [head]) entered (VirtIOBlk.publish published.length head bus) := by
  have invariant := h.invariant
  obtain ⟨hnum, -, -⟩ := invariant.queueNum
  obtain ⟨hlow, hhigh⟩ := ringSlot_lt hnum published.length
  have hslot : bus.InRam (bus.dev.virtio.ringSlot published.length) 2 :=
    rings.avail.sub (by omega) (by omega)
  have rings' : Rings bus.dev.virtio (bus.poke (bus.dev.virtio.ringSlot published.length)
      (leBytes 2 head.toNat)) :=
    ⟨rings.avail.poke _ _, rings.apart⟩
  have stored := h.store rings (Nat.le_refl _) room head
  have run := @Run.advance _ _ _ _ stored rings' [head] ?_ ?_
  · rw [List.length_append, List.length_singleton] at run
    exact run
  · rintro (_ | j) head' hhead
    · cases hhead
      exact holds_poke invariant.wf hslot (BitVec.isLt _)
    · cases hhead
  · rw [List.length_append, List.length_singleton]
    exact room

/-- At every point of a run the heads that the used ring has shown so far are the first ones
published, each once and in order, and the next notify enters all the others: it leaves the two
indices equal. -/
theorem exactly_once (h : Run published entered bus) :
    entered <+: published ∧
      ∀ region, Serviceable published entered region bus →
        ∃ bus', EntersAll published entered bus bus' := by
  have invariant := h.invariant
  refine ⟨invariant.begun, fun region serviceable => ?_⟩
  obtain ⟨bus', enters, -⟩ := invariant.notify serviceable
  exact ⟨bus', enters⟩

end Runs

section Sample

attribute [local instance] Host.dev

/-- A queue of eight entries, with its table at 0, its available ring at 0x80 and its used ring at
0x94. -/
def ringDevice : VirtIOBlk :=
  { new 0 (some [7, 9]) with queueNum := 8, queueReady := 1, availAddr := 0x80, usedAddr := 0x94 }

/-- The request of head 0: two bytes of sector 0, wanted at 0xf8. -/
def readRequest : Request where
  head := 0
  header := ⟨0xd8, 16, 1⟩
  data := ⟨0xf8, 2, 3⟩
  status := ⟨0xfc, 1, 2⟩
  reqType := VIRTIO_BLK_T_IN
  sector := 0

/-- The request of head 3: the two bytes at 0xfa, to be written to sector 0. -/
def writeRequest : Request where
  head := 3
  header := ⟨0xe8, 16, 1⟩
  data := ⟨0xfa, 2, 1⟩
  status := ⟨0xfd, 1, 2⟩
  reqType := VIRTIO_BLK_T_OUT
  sector := 0

/-- 256 bytes of RAM with the two chains, and nothing published. -/
def ringBus : Bus :=
  { Bus.new { Devices.detached with virtio := ringDevice } with
    ramRange := ⟨0, 0x100⟩
    ram := ⟨leBytes 16 (0xd8 + 2 ^ 64 * 16 + 2 ^ 96 * 1 + 2 ^ 112 * 1) ++
      leBytes 16 (0xf8 + 2 ^ 64 * 2 + 2 ^ 96 * 3 + 2 ^ 112 * 2) ++
      leBytes 16 (0xfc + 2 ^ 64 * 1 + 2 ^ 96 * 2) ++
      leBytes 16 (0xe8 + 2 ^ 64 * 16 + 2 ^ 96 * 1 + 2 ^ 112 * 4) ++
      leBytes 16 (0xfa + 2 ^ 64 * 2 + 2 ^ 96 * 1 + 2 ^ 112 * 5) ++
      leBytes 16 (0xfd + 2 ^ 64 * 1 + 2 ^ 96 * 2) ++ leBytes 136 0 ++ leBytes 16 1 ++
      leBytes 8 0x0605⟩ }

/-- What stands in the table and in the headers: where, in how many bytes, and the number. -/
def queueContents : List (Nat × Nat × Nat) :=
  [(0x00, 8, 0xd8), (0x08, 4, 16), (0x0c, 2, 1), (0x0e, 2, 1), (0x10, 8, 0xf8), (0x18, 4, 2),
    (0x1c, 2, 3), (0x1e, 2, 2), (0x20, 8, 0xfc), (0x28, 4, 1), (0x2c, 2, 2), (0x2e, 2, 0),
    (0x30, 8, 0xe8), (0x38, 4, 16), (0x3c, 2, 1), (0x3e, 2, 4), (0x40, 8, 0xfa), (0x48, 4, 2),
    (0x4c, 2, 1), (0x4e, 2, 5), (0x50, 8, 0xfd), (0x58, 4, 1), (0x5c, 2, 2), (0x5e, 2, 0),
    (0xd8, 4, 0), (0xe0, 8, 0), (0xe8, 4, 1), (0xf0, 8, 0)]

/-- The queue with its two chains is in its place. -/
def InPlace (bus : Bus) : Prop :=
  (bus.dev.virtio.queueNum = 8 ∧ bus.dev.virtio.descAddr = 0 ∧ bus.dev.virtio.availAddr = 0x80 ∧
    bus.dev.virtio.usedAddr = 0x94) ∧
  (bus.ramRange.start = 0 ∧ bus.ramRange.size = 0x100) ∧
  ∀ c ∈ queueContents, leNat (bus.ramBytes c.1 c.2.1) = c.2.2

instance : DecidablePred InPlace := fun _ => inferInstanceAs (Decidable (_ ∧ _ ∧ _))

/-- The buffers and the status bytes of the two requests. -/
def queueRegion (x : Nat) : Prop := 0xf8 ≤ x ∧ x < 0xfe

namespace InPlace

variable {bus : Bus}

theorem inRam (h : InPlace bus) {a n : Nat} (hlt : a + n ≤ 0x100) : bus.InRam a n := by
  obtain ⟨-, ⟨hstart, hsize⟩, -⟩ := h
  refine .ofRam ?_ ?_
  · rw [hstart]
    exact Nat.zero_le a
  · rw [hstart, hsize]
    exact (Nat.zero_add _).symm ▸ hlt

theorem holds (h : InPlace bus) {a n v : Nat} (hc : (a, n, v) ∈ queueContents) :
    Holds bus a n v := by
  have hlt : ∀ c ∈ queueContents, c.1 + c.2.1 ≤ 0x100 := by decide
  exact ⟨h.inRam (hlt _ hc), h.2.2 _ hc⟩

theorem not_writable (h : InPlace bus) {x : Nat} (hx : x < 0x94) :
    ¬Writable bus.dev.virtio queueRegion x := by
  obtain ⟨⟨-, -, -, hused⟩, -, -⟩ := h
  rintro (hregion | ⟨hlow, -⟩)
  · have hlow : 0xf8 ≤ x := hregion.1
    omega
  · rw [hused] at hlow
    have hlow : 0x94 ≤ x := hlow
    omega

theorem header_not_writable (h : InPlace bus) {x : Nat} (hlow : 0xd8 ≤ x) (hhigh : x < 0xf8) :
    ¬Writable bus.dev.virtio queueRegion x := by
  obtain ⟨⟨hnum, -, -, hused⟩, -, -⟩ := h
  rintro (hregion | ⟨-, hlt⟩)
  · have hlow : 0xf8 ≤ x := hregion.1
    omega
  · rw [usedLength, hnum, hused] at hlt
    have hlt : x < 0x94 + (4 + 8 * 8) := hlt
    omega

theorem rings (h : InPlace bus) : Rings bus.dev.virtio bus := by
  obtain ⟨hnum, -, havail, hused⟩ := id h.1
  constructor
  · rw [havail, hnum]
    exact h.inRam (by decide)
  · rw [havail, hnum, hused]
    intro x _ hx ⟨hx', _⟩
    have hx : x < 0x80 + (4 + 2 * 8) := hx
    have hx' : 0x94 ≤ x := hx'
    omega

theorem placed (h : InPlace bus) : Placed bus.dev.virtio queueRegion bus := by
  obtain ⟨hnum, hdesc, havail, hused⟩ := id h.1
  refine ⟨?_, fun x _ hx hregion => ?_, fun x _ hx => h.not_writable ?_,
    fun x _ hx => h.not_writable ?_⟩
  · rw [usedLength, hused, hnum]
    exact h.inRam (by decide)
  · rw [usedLength, hnum, hused] at hx
    have hx : x < 0x94 + (4 + 8 * 8) := hx
    have hlow : 0xf8 ≤ x := hregion.1
    omega
  · rw [hdesc, hnum] at hx
    exact Nat.lt_of_lt_of_le hx (by decide)
  · rw [havail, hnum] at hx
    exact Nat.lt_of_lt_of_le hx (by decide)

theorem reads (h : InPlace bus) :
    Requested 0 8 queueRegion (Writable bus.dev.virtio queueRegion) 0 bus := by
  have follows : Follows bus 0 8 0 []
      [readRequest.header, readRequest.data, readRequest.status] := by
    refine @Follows.next _ _ _ _ 1 _ _ _ (by decide) (by decide) ?_ (by decide)
      (@Follows.next _ _ _ _ 2 _ _ _ (by decide) (by decide) ?_ (by decide)
        (@Follows.last _ _ _ _ 0 _ _ (by decide) (by decide) ?_ (by decide))) <;>
      exact ⟨h.holds (by decide), h.holds (by decide), h.holds (by decide), h.holds (by decide)⟩
  refine ⟨_, follows, fun _ => ⟨readRequest, rfl, ⟨rfl, rfl, rfl, ?_, ?_, ?_, ?_⟩⟩⟩
  · exact ⟨h.holds (by decide), h.holds (by decide), h.inRam (by decide), h.inRam (by decide),
      by decide, by decide⟩
  · intro x hlow hhigh
    exact h.header_not_writable hlow (Nat.lt_of_lt_of_le hhigh (by decide))
  · intro x hlow hhigh
    exact ⟨hlow, Nat.lt_of_lt_of_le hhigh (by decide)⟩
  · exact ⟨by decide, by decide⟩

theorem writes (h : InPlace bus) :
    Requested 0 8 queueRegion (Writable bus.dev.virtio queueRegion) 3 bus := by
  have follows : Follows bus 0 8 3 []
      [writeRequest.header, writeRequest.data, writeRequest.status] := by
    refine @Follows.next _ _ _ _ 4 _ _ _ (by decide) (by decide) ?_ (by decide)
      (@Follows.next _ _ _ _ 5 _ _ _ (by decide) (by decide) ?_ (by decide)
        (@Follows.last _ _ _ _ 0 _ _ (by decide) (by decide) ?_ (by decide))) <;>
      exact ⟨h.holds (by decide), h.holds (by decide), h.holds (by decide), h.holds (by decide)⟩
  refine ⟨_, follows, fun _ => ⟨writeRequest, rfl, ⟨rfl, rfl, rfl, ?_, ?_, ?_, ?_⟩⟩⟩
  · exact ⟨h.holds (by decide), h.holds (by decide), h.inRam (by decide), h.inRam (by decide),
      by decide, by decide⟩
  · intro x hlow hhigh
    exact h.header_not_writable (Nat.le_trans (by decide) hlow)
      (Nat.lt_of_lt_of_le hhigh (by decide))
  · intro x hlow hhigh
    exact ⟨Nat.le_trans (by decide) hlow, Nat.lt_of_lt_of_le hhigh (by decide)⟩
  · exact ⟨by decide, by decide⟩

theorem serviceable (h : InPlace bus) {published entered : List U16}
    (heads : ∀ head ∈ published.drop entered.length, head = 0 ∨ head = 3) :
    Serviceable published entered queueRegion bus := by
  refine ⟨h.placed, fun head hhead => ?_⟩
  obtain ⟨hnum, hdesc, -, -⟩ := h.1
  rw [hnum, hdesc]
  obtain rfl | rfl := heads head hhead
  · exact h.reads
  · exact h.writes

theorem room (h : InPlace bus) {published entered : List U16}
    (hlt : published.length < entered.length + 8) :
    published.length < entered.length + bus.dev.virtio.queueNum.toNat := by
  rw [h.1.1]
  exact hlt

end InPlace

theorem wf_ringBus : ringBus.Wf := by
  constructor
  · intro w
    cases w <;> decide
  · intro w ram h
    cases w <;> cases h
    all_goals decide +kernel

/-- The driver publishes both heads. -/
def firstBatch : Bus := publish 1 3 (publish 0 0 ringBus)

/-- The device has served them. -/
def servedBatch : Bus := finish (notify firstBatch)

/-- The driver publishes them again. -/
def secondBatch : Bus := publish 3 0 (publish 2 3 servedBatch)

theorem inPlace_ringBus : InPlace ringBus ∧ InPlace (publish 0 0 ringBus) ∧
    InPlace firstBatch := by
  decide +kernel

theorem inPlace_servedBatch : InPlace servedBatch ∧ InPlace (publish 2 3 servedBatch) ∧
    InPlace secondBatch := by
  decide +kernel

theorem run_ringBus : Run [] [] ringBus :=
  .ready wf_ringBus ⟨3, by decide, by decide⟩ (by decide) (by decide)
    ⟨⟨.ofRam (by decide) (by decide), by decide⟩, ⟨.ofRam (by decide) (by decide), by decide⟩,
      nofun, by decide⟩

theorem run_firstBatch : Run [0, 3] [] firstBatch := by
  obtain ⟨hstart, hfirst, -⟩ := inPlace_ringBus
  have first : Run [0] [] (publish 0 0 ringBus) :=
    run_ringBus.publish hstart.rings (hstart.room (by decide)) 0
  exact first.publish hfirst.rings (hfirst.room (by decide)) 3

theorem run_servedBatch : Run [0, 3] [0, 3] servedBatch := by
  have heads : ∀ head ∈ ([0, 3] : List U16), head = 0 ∨ head = 3 := by
    rintro head (_ | ⟨_, _ | ⟨_, ⟨⟩⟩⟩)
    · exact .inl rfl
    · exact .inr rfl
  have serviceable : Serviceable [0, 3] [] queueRegion firstBatch :=
    inPlace_ringBus.2.2.serviceable heads
  obtain ⟨bus', enters, -⟩ := run_firstBatch.invariant.notify serviceable
  have served := Run.notify run_firstBatch serviceable enters.run
  rw [enters.completed] at served
  have hfinish : servedBatch = bus' := by rw [servedBatch, enters.run, finish_ok]
  exact hfinish ▸ served

theorem run_secondBatch : Run [0, 3, 3, 0] [0, 3] secondBatch := by
  obtain ⟨hserved, hthird, -⟩ := inPlace_servedBatch
  have third : Run [0, 3, 3] [0, 3] (publish 2 3 servedBatch) :=
    run_servedBatch.publish hserved.rings (hserved.room (by decide)) 3
  exact third.publish hthird.rings (hthird.room (by decide)) 0

/-- The second notify enters the two heads that are outstanding behind the two of the first. -/
theorem exactly_once_queue : [0, 3] <+: ([0, 3, 3, 0] : List U16) ∧
    ∃ bus', EntersAll [0, 3, 3, 0] [0, 3] secondBatch bus' := by
  have heads : ∀ head ∈ ([3, 0] : List U16), head = 0 ∨ head = 3 := by
    rintro head (_ | ⟨_, _ | ⟨_, ⟨⟩⟩⟩)
    · exact .inr rfl
    · exact .inl rfl
  obtain ⟨hbegins, hnotify⟩ := exactly_once run_secondBatch
  exact ⟨hbegins, hnotify queueRegion (inPlace_servedBatch.2.2.serviceable heads)⟩

end Sample

end VirtIOBlk

end Riscvm.Rv64rs
