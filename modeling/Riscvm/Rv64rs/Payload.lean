import Riscvm.Rv64rs.AddressMap
import Riscvm.Rv64rs.Disk
import Riscvm.Rv64rs.QueueScript

/-!
# What the device moves for a chain

The device moves the payload of a request byte by byte and then stores the status byte; every
other access that it makes for a chain is wider. So the trace of its one-byte accesses shows
what was carried out. The chain may have any shape and may lie anywhere on the bus.
-/

namespace Riscvm.Rv64rs

open Bytes Exec Bus

namespace VirtIOBlk

/-! ## Chains in guest memory -/

section Chains

variable [Host]

/-- What the device finds at an address. -/
def word (bus : Bus) (address : U64) (size : U8) : Option U64 :=
  match dmaRead address size bus with
  | .ok value _ => some value
  | .error _ _ => none

/-- A descriptor and the index behind it, at `address`. -/
structure DescWords (bus : Bus) (address : U64) (desc : Desc) (next : U16) : Prop where
  addr : word bus address 8 = some desc.addr
  length : (word bus (address + 8) 4).map (BitVec.setWidth 32) = some desc.length
  flags : (word bus (address + 12) 2).map (BitVec.setWidth 16) = some desc.flags
  next : (word bus (address + 14) 2).map (BitVec.setWidth 16) = some next

/-- The descriptors on the way from `idx` in the table at `descBase`, up to one without a
successor or one seen before. -/
inductive ChainFrom (bus : Bus) (descBase : U64) : U16 → List U16 → List Desc → Prop
  | seen {idx : U16} {seen : List U16} (old : idx ∈ seen) : ChainFrom bus descBase idx seen []
  | last {idx next : U16} {seen : List U16} {desc : Desc} (new : idx ∉ seen)
      (words : DescWords bus (descBase + idx.setWidth 64 * 16) desc next)
      (flag : desc.flags &&& VIRTQ_DESC_F_NEXT = 0) : ChainFrom bus descBase idx seen [desc]
  | next {idx next : U16} {seen : List U16} {desc : Desc} {descs : List Desc} (new : idx ∉ seen)
      (words : DescWords bus (descBase + idx.setWidth 64 * 16) desc next)
      (flag : desc.flags &&& VIRTQ_DESC_F_NEXT ≠ 0)
      (rest : ChainFrom bus descBase next (idx :: seen) descs) :
      ChainFrom bus descBase idx seen (desc :: descs)

variable {bus bus' : Bus}

/-- Only a one-byte read can change anything. -/
theorem word_of_read {address value : U64} {size : U8} (wide : size ≠ 1)
    (h : dmaRead address size bus = .ok value bus') :
    word bus address size = some value ∧ bus' = bus := by
  refine ⟨?_, (readOnly_readAt true address wide).state_eq h⟩
  rw [word, h]

theorem mul_eq_ok {σ : Type} {a b c : U64} {s t : σ} (h : (mul a b : Call σ U64) s = .ok c t) :
    c = a * b := by
  unfold mul at h
  split at h
  · cases h
  · cases h
    rfl

/-- What the loop collects is the chain. -/
theorem chain_of_collectDescs {descBase : U64} {fuel : Nat} {idx : U16} {seen : List U16}
    {before descs : List Desc}
    (h : collectDescs descBase fuel idx seen before bus = .ok descs bus') :
    bus' = bus ∧ ∃ found, descs = before ++ found ∧ ChainFrom bus descBase idx seen found := by
  induction fuel generalizing idx seen before with
  | zero => cases h
  | succ fuel ih =>
      rw [collectDescs, run_ite] at h
      by_cases hseen : idx ∈ seen
      · rw [if_pos hseen] at h
        cases h
        exact ⟨rfl, [], (List.append_nil _).symm, .seen hseen⟩
      rw [if_neg hseen] at h
      simp only [bind_eq_ok] at h
      obtain ⟨offset, s₁, hmul, off, s₂, hoff, addr, s₃, haddr, off₈, s₄, hoff₈, length, s₅,
        hlength, off₁₂, s₆, hoff₁₂, flags, s₇, hflags, off₁₄, s₈, hoff₁₄, nxt, s₉, hnxt, h⟩ := h
      obtain rfl := (readOnly_mul _ _).state_eq hmul
      obtain rfl := (readOnly_add _ _).state_eq hoff
      obtain ⟨haddr, rfl⟩ := word_of_read (by decide) haddr
      obtain rfl := (readOnly_add _ _).state_eq hoff₈
      obtain ⟨hlength, rfl⟩ := word_of_read (by decide) hlength
      obtain rfl := (readOnly_add _ _).state_eq hoff₁₂
      obtain ⟨hflags, rfl⟩ := word_of_read (by decide) hflags
      obtain rfl := (readOnly_add _ _).state_eq hoff₁₄
      obtain ⟨hnxt, rfl⟩ := word_of_read (by decide) hnxt
      rw [mul_eq_ok hmul] at hoff
      rw [add_eq_ok hoff] at haddr hoff₈ hoff₁₂ hoff₁₄
      rw [add_eq_ok hoff₈] at hlength
      rw [add_eq_ok hoff₁₂] at hflags
      rw [add_eq_ok hoff₁₄] at hnxt
      have words : DescWords _ (descBase + idx.setWidth 64 * 16)
          ⟨addr, length.setWidth 32, flags.setWidth 16⟩ (nxt.setWidth 16) :=
        ⟨haddr, congrArg (Option.map _) hlength, congrArg (Option.map _) hflags,
          congrArg (Option.map _) hnxt⟩
      rw [run_ite] at h
      by_cases hflag : (flags.setWidth 16 : U16) &&& VIRTQ_DESC_F_NEXT ≠ 0
      · rw [if_pos hflag] at h
        obtain ⟨hbus, found, rfl, chain⟩ := ih h
        exact ⟨hbus, _ :: found, List.append_assoc _ _ _, .next hseen words hflag chain⟩
      · rw [if_neg hflag] at h
        cases h
        exact ⟨rfl, _, rfl, .last hseen words (Decidable.not_not.mp hflag)⟩

end Chains

/-! ## Moves -/

/-- A byte that the device stores in guest memory or loads from it. -/
inductive ByteMove where
  | toGuest (address : U64) (byte : U8)
  | fromGuest (address : U64) (byte : U8)
  deriving DecidableEq, Repr

/-- The byte that a request moves, if it is a one-byte access. -/
def moved : (β : Type) → DmaRequest β → β → Option ByteMove
  | _, .read address size, value =>
      if size = 1 then some (.fromGuest address (value.setWidth 8)) else none
  | _, .write address size value, _ =>
      if size = 1 then some (.toGuest address (value.setWidth 8)) else none
  | _, .device, _ | _, .update _, _ | _, .require _ _, _ => none

/-- A request that moves no byte. -/
def Quiet (β : Type) (r : DmaRequest β) : Prop := ∀ b : β, moved β r b = none

section Device

variable [Host] {bus bus' : Bus}

/-- The block device is as it was. -/
def KeepsDevice {α : Type} (x : Call Bus α) : Prop :=
  Keeps (fun s t : Bus => t.dev.virtio = s.dev.virtio) x

namespace KeepsDevice

variable {α β τ : Type} {x : Call Bus α}

omit [Host] in
theorem bind {f : α → Call Bus β} (first : KeepsDevice x) (rest : ∀ a, KeepsDevice (f a)) :
    KeepsDevice (x >>= f) := Keeps.bind (fun h h' => h'.trans h) first rest

omit [Host] in
theorem ite {p : Prop} [Decidable p] {y : Call Bus α} (hx : KeepsDevice x) (hy : KeepsDevice y) :
    KeepsDevice (if p then x else y) := Keeps.ite hx hy

omit [Host] in
theorem readOnly (h : ReadOnly x) : KeepsDevice x := h.mono fun _ _ h => by rw [h]

omit [Host] in
theorem zoom {view : Bus → τ} {put : τ → Bus → Bus} (y : Call τ α)
    (apart : ∀ bus c, (put c bus).dev.virtio = bus.dev.virtio) : KeepsDevice (zoom view put y) :=
  Keeps.zoom (R := fun _ _ => True) (fun _ => trivial) fun bus c _ => apart bus c

end KeepsDevice

theorem KeepsDevice.compositional : Compositional fun _ x => KeepsDevice x :=
  .keeps (fun _ => rfl) fun h h' => h'.trans h

theorem keepsDevice_dmaWrite (address : U64) (size : U8) (value : U64) :
    KeepsDevice (dmaWrite address size value) := by
  refine KeepsDevice.compositional.writeWith ?_ ?_ ?_ ?_ ?_ ?_ ?_ address
  · exact fun _ => .zoom _ fun _ _ => rfl
  · exact fun _ => .zoom _ fun _ _ => rfl
  · exact fun _ => .zoom _ fun _ _ => rfl
  · exact fun _ => .zoom _ fun _ _ => rfl
  · exact fun _ => .zoom _ fun _ _ => rfl
  · exact fun _ => .zoom _ fun _ _ => rfl
  · exact fun _ => .readOnly (readOnly_panic _)

theorem keepsDevice_dmaRead (address : U64) (size : U8) : KeepsDevice (dmaRead address size) := by
  refine KeepsDevice.compositional.readAt ?_ ?_ ?_ ?_ ?_ ?_ ?_ address
  · exact fun _ => .zoom _ fun _ _ => rfl
  · exact fun _ => .zoom _ fun _ _ => rfl
  · exact fun _ => .zoom _ fun _ _ => rfl
  · exact fun _ => .zoom _ fun _ _ => rfl
  · exact fun _ => .zoom _ fun _ _ => rfl
  · exact fun bus _ => .readOnly (Plic.readOnly_read _ (readOnly_lineStatus _ _) _ _)
  · exact fun _ => .readOnly ((VirtIOBlk.readOnly_read _ _).zoom fun _ => rfl)

omit [Host] in
theorem KeepsDevice.eq {α : Type} {x : Call Bus α} (h : KeepsDevice x) {a : α}
    (run : x bus = .ok a bus') :
    bus'.dev.virtio = bus.dev.virtio := by
  have := h bus
  rwa [run] at this

end Device

end VirtIOBlk

namespace DmaScript

open Script VirtIOBlk

/-! ## Requests of no note -/

theorem quiet_request {holds : Bool} {cause : Panic} : (require holds cause).All Quiet :=
  .request fun _ => rfl

theorem quiet_device : device.All Quiet := .request fun _ => rfl

theorem quiet_update (f : VirtIOBlk → VirtIOBlk) : (update f).All Quiet := .request fun _ => rfl

theorem quiet_read (address : U64) {size : U8} (wide : size ≠ 1) : (read address size).All Quiet :=
  .request fun _ => if_neg wide

theorem quiet_write (address value : U64) {size : U8} (wide : size ≠ 1) :
    (write address size value).All Quiet :=
  .request fun _ => if_neg wide

theorem quiet_index (descs : List Desc) (i : Nat) : (index descs i).All Quiet :=
  quiet_request.bind fun _ => .pure _

theorem quiet_slice (xs : List U8) (a b : Nat) : (slice xs a b).All Quiet :=
  quiet_request.bind fun _ => .pure _

theorem quiet_copyFromSlice (xs : List U8) (a b : Nat) (ys : List U8) :
    (copyFromSlice xs a b ys).All Quiet :=
  quiet_request.bind fun _ => .pure _

variable [Host]

theorem quiet_add (a b : U64) : (add a b).All Quiet := quiet_request.bind fun _ => .pure _

theorem quiet_mul (a b : U64) : (mul a b).All Quiet := quiet_request.bind fun _ => .pure _

theorem quiet_allocate (n : Nat) : (allocate n).All Quiet :=
  quiet_request.bind fun _ => quiet_request

theorem quiet_collectDescs (descBase : U64) (fuel : Nat) (idx : U16) (seen : List U16)
    (descs : List Desc) : (collectDescs descBase fuel idx seen descs).All Quiet := by
  induction fuel generalizing idx seen descs with
  | zero => exact quiet_request.bind fun _ => .pure _
  | succ fuel ih =>
      refine .ite (fun _ => .pure _) fun _ => ?_
      refine (quiet_mul _ _).bind fun _ => (quiet_add _ _).bind fun _ => ?_
      refine (quiet_read _ (by decide)).bind fun _ => (quiet_add _ _).bind fun _ => ?_
      refine (quiet_read _ (by decide)).bind fun _ => (quiet_add _ _).bind fun _ => ?_
      refine (quiet_read _ (by decide)).bind fun _ => (quiet_add _ _).bind fun _ => ?_
      refine (quiet_read _ (by decide)).bind fun _ => ?_
      exact .ite (fun _ => ih _ _ _) fun _ => .pure _

theorem quiet_growDisk (stop : U64) : (growDisk stop).All Quiet :=
  quiet_device.bind fun _ =>
    .ite (fun _ => (quiet_allocate _).bind fun _ => quiet_update _) fun _ => .pure _

/-! ## The moves of a transfer -/

/-- The addresses from `base + i` on, as many as there are bytes. -/
def span (base : U64) (i n : Nat) : List U64 :=
  (List.range' i n).map fun k => base + BitVec.ofNat 64 k

omit [Host] in
theorem span_succ (base : U64) (i n : Nat) :
    span base i (n + 1) = (base + BitVec.ofNat 64 i) :: span base (i + 1) n := by
  rw [span, List.range'_succ, List.map_cons]
  rfl

omit [Host] in
theorem length_span (base : U64) (i n : Nat) : (span base i n).length = n := by
  rw [span, List.length_map, List.length_range']

variable {bus bus' : Bus}

theorem trace_writeBytes {base : U64} {i : Nat} {bytes : List U8}
    (h : (writeBytes base i bytes).run Bus.handle bus = .ok () bus') :
    (writeBytes base i bytes).trace moved Bus.handle bus =
        List.zipWith .toGuest (span base i bytes.length) bytes ∧
      bus'.dev.virtio = bus.dev.virtio := by
  induction bytes generalizing i bus with
  | nil =>
      cases h
      exact ⟨rfl, rfl⟩
  | cons b bytes ih =>
      obtain ⟨address, bus₁, hadd, hbyte, htrace⟩ := trace_skip (quiet_add _ _) h
      rw [run_add] at hadd
      obtain rfl := (readOnly_add _ _).state_eq hadd
      rw [run_bind, bind_eq_ok] at hbyte
      obtain ⟨_, bus₂, hwrite, hrest⟩ := hbyte
      obtain ⟨hmoves, hdevice⟩ := ih hrest
      rw [run_write] at hwrite
      refine ⟨?_, hdevice.trans ((keepsDevice_dmaWrite _ _ _).eq hwrite)⟩
      rw [writeBytes, htrace, trace_bind ((congrFun (run_write _ _ _) _).trans hwrite), hmoves,
        DmaScript.write, trace_request hwrite, List.length_cons, span_succ, List.zipWith_cons_cons,
        add_eq_ok hadd]
      have hbyte : (b.setWidth 64).setWidth 8 = b := BitVec.setWidth_setWidth_of_le b (by decide)
      change [ByteMove.toGuest _ _] ++ _ = _
      rw [hbyte]
      rfl

theorem trace_readBytes {base : U64} {i n : Nat} {bytes : List U8}
    (h : (readBytes base i n).run Bus.handle bus = .ok bytes bus') :
    (readBytes base i n).trace moved Bus.handle bus =
        List.zipWith .fromGuest (span base i n) bytes ∧
      bytes.length = n ∧ bus'.dev.virtio = bus.dev.virtio := by
  induction n generalizing i bus bytes with
  | zero =>
      cases h
      exact ⟨rfl, rfl, rfl⟩
  | succ n ih =>
      obtain ⟨address, bus₁, hadd, hbyte, htrace⟩ := trace_skip (quiet_add _ _) h
      rw [run_add] at hadd
      obtain rfl := (readOnly_add _ _).state_eq hadd
      rw [run_bind, bind_eq_ok] at hbyte
      obtain ⟨b, bus₂, hread, hbytes⟩ := hbyte
      rw [run_bind, bind_eq_ok] at hbytes
      obtain ⟨rest, bus₃, hrest, hpure⟩ := hbytes
      cases hpure
      obtain ⟨hmoves, hlength, hdevice⟩ := ih hrest
      rw [run_read] at hread
      refine ⟨?_, congrArg (· + 1) hlength, hdevice.trans ((keepsDevice_dmaRead _ _).eq hread)⟩
      rw [readBytes, htrace, trace_bind ((congrFun (run_read _ _) _).trans hread), trace_bind hrest,
        hmoves, DmaScript.read, trace_request hread, trace_pure, List.append_nil, span_succ,
        List.zipWith_cons_cons, add_eq_ok hadd]
      rfl

end DmaScript

namespace VirtIOBlk

open DmaScript Script

/-! ## What became of a chain -/

/-- The guest addresses of a payload, descriptor by descriptor. -/
def addresses (payload : List Desc) : List U64 :=
  payload.flatMap fun desc => span desc.addr 0 desc.length.toNat

/-- The moves carry consecutive bytes of the disk from `start` on, one to each address. -/
def Transfer (move : U64 → U8 → ByteMove) (addresses : List U64) (disk : List U8) (start : Nat)
    (moves : List ByteMove) : Prop :=
  ∃ bytes, bytes.length = addresses.length ∧ (disk.drop start).take bytes.length = bytes ∧
    moves = List.zipWith move addresses bytes

section Outcome

variable [Host]

/-- What a request of a kind does before its status is stored. -/
structure CarriedOut (reqType : U32) (sector : U64) (payload : List Desc) (disk disk' : List U8)
    (moves : List ByteMove) : Prop where
  other : reqType ≠ VIRTIO_BLK_T_IN → reqType ≠ VIRTIO_BLK_T_OUT → moves = [] ∧ disk' = disk
  read : reqType = VIRTIO_BLK_T_IN → (∀ desc ∈ payload.tail, desc.length = 0) →
    Transfer .toGuest (addresses payload) disk' (sector * SECTOR_SIZE).toNat moves
  written : reqType = VIRTIO_BLK_T_OUT → (∀ desc ∈ payload.tail, desc.length = 0) →
    Transfer .fromGuest (addresses payload) disk' (sector * SECTOR_SIZE).toNat moves

/-- What became of a chain, by the moves that were made and the disk before and after. -/
structure Outcome (bus : Bus) (descs : List Desc) (disk' : List U8) (moves : List ByteMove) :
    Prop where
  short : descs.length < 3 → moves = [] ∧ disk' = bus.dev.virtio.disk
  long : ∀ header payload status, descs = header :: payload ++ [status] → payload ≠ [] →
    ∃ reqType sector before, (word bus header.addr 4).map (BitVec.setWidth 32) = some reqType ∧
      word bus (header.addr + 8) 8 = some sector ∧ moves = before ++ [.toGuest status.addr 0] ∧
      CarriedOut reqType sector payload bus.dev.virtio.disk disk' before

omit [Host] in
/-- Empty descriptors have no addresses. -/
theorem addresses_cons {data : Desc} {rest : List Desc} (empty : ∀ desc ∈ rest, desc.length = 0) :
    addresses (data :: rest) = span data.addr 0 data.length.toNat := by
  have hrest : rest.flatMap (fun desc => span desc.addr 0 desc.length.toNat) = [] := by
    refine List.flatMap_eq_nil_iff.mpr fun desc hdesc => ?_
    rw [empty desc hdesc]
    rfl
  rw [addresses, List.flatMap_cons, hrest, List.append_nil]

omit [Host] in
theorem slice_eq_ok {σ : Type} {xs chunk : List U8} {a b : Nat} {s t : σ}
    (h : (slice xs a b : Call σ (List U8)) s = .ok chunk t) :
    a ≤ b ∧ chunk.length = b - a ∧ (xs.drop a).take chunk.length = chunk ∧ t = s := by
  rw [slice, run_ite] at h
  by_cases hbound : a ≤ b ∧ b ≤ xs.length
  · rw [if_pos hbound] at h
    cases h
    have hlength : ((xs.drop a).take (b - a)).length = b - a := by
      rw [List.length_take, List.length_drop]
      omega
    exact ⟨hbound.1, hlength, by rw [hlength], rfl⟩
  · rw [if_neg hbound] at h
    cases h

omit [Host] in
theorem copyFromSlice_eq_ok {σ : Type} {xs chunk disk : List U8} {a b : Nat} {s t : σ}
    (h : (copyFromSlice xs a b chunk : Call σ (List U8)) s = .ok disk t) :
    (disk.drop a).take chunk.length = chunk ∧ t = s := by
  rw [copyFromSlice, run_ite] at h
  by_cases hbound : a ≤ b ∧ b ≤ xs.length ∧ chunk.length = b - a
  · rw [if_pos hbound] at h
    cases h
    have htake : (xs.take a).length = a := List.length_take_of_le (hbound.1.trans hbound.2.1)
    refine ⟨?_, rfl⟩
    rw [List.append_assoc, List.drop_append_of_le_length (Nat.le_of_eq htake.symm),
      List.drop_of_length_le (Nat.le_of_eq htake), List.nil_append, List.take_left]
  · rw [if_neg hbound] at h
    cases h

variable {bus bus' : Bus}

section Past

variable {α β : Type} {f : U64 → DmaScript β} {b : β}

theorem past_readOnly {script : DmaScript α} {f : α → DmaScript β} (quiet : script.All Quiet)
    (readOnly : ReadOnly (script.run handle)) (h : (script >>= f).run handle bus = .ok b bus') :
    ∃ a, script.run handle bus = .ok a bus ∧ (f a).run handle bus = .ok b bus' ∧
      (script >>= f).trace moved handle bus = (f a).trace moved handle bus := by
  obtain ⟨a, t, hfirst, hrest, htrace⟩ := trace_skip quiet h
  obtain rfl := readOnly.state_eq hfirst
  exact ⟨a, hfirst, hrest, htrace⟩

theorem past_add {x y : U64} (h : (DmaScript.add x y >>= f).run handle bus = .ok b bus') :
    (f (x + y)).run handle bus = .ok b bus' ∧
      (DmaScript.add x y >>= f).trace moved handle bus = (f (x + y)).trace moved handle bus := by
  obtain ⟨z, hadd, hrest, htrace⟩ := past_readOnly (quiet_add x y) (by
    rw [run_add]
    exact readOnly_add x y) h
  rw [run_add] at hadd
  rw [add_eq_ok hadd] at hrest htrace
  exact ⟨hrest, htrace⟩

theorem past_mul {x y : U64} (h : (DmaScript.mul x y >>= f).run handle bus = .ok b bus') :
    (f (x * y)).run handle bus = .ok b bus' ∧
      (DmaScript.mul x y >>= f).trace moved handle bus = (f (x * y)).trace moved handle bus := by
  obtain ⟨z, hmul, hrest, htrace⟩ := past_readOnly (quiet_mul x y) (by
    rw [run_mul]
    exact readOnly_mul x y) h
  rw [run_mul] at hmul
  rw [mul_eq_ok hmul] at hrest htrace
  exact ⟨hrest, htrace⟩

theorem past_read {address : U64} {size : U8} (wide : size ≠ 1)
    (h : (DmaScript.read address size >>= f).run handle bus = .ok b bus') :
    ∃ value, word bus address size = some value ∧ (f value).run handle bus = .ok b bus' ∧
      (DmaScript.read address size >>= f).trace moved handle bus =
        (f value).trace moved handle bus := by
  obtain ⟨value, hread, hrest, htrace⟩ := past_readOnly (quiet_read address wide) (by
    rw [run_read]
    exact readOnly_readAt true address wide) h
  rw [run_read] at hread
  exact ⟨value, (word_of_read wide hread).1, hrest, htrace⟩

theorem past_index {descs : List Desc} {i : Nat} {f : Desc → DmaScript β} {desc : Desc}
    (found : descs[i]? = some desc)
    (h : (DmaScript.index descs i >>= f).run handle bus = .ok b bus') :
    (f desc).run handle bus = .ok b bus' ∧
      (DmaScript.index descs i >>= f).trace moved handle bus =
        (f desc).trace moved handle bus := by
  obtain ⟨desc', hindex, hrest, htrace⟩ := past_readOnly (quiet_index descs i) (by
    rw [run_index]
    exact readOnly_index descs i) h
  rw [run_index, index, found] at hindex
  cases hindex
  exact ⟨hrest, htrace⟩

end Past

/-- The last thing that is done for a chain of three. -/
def report (status : Desc) : DmaScript U32 := do
  DmaScript.write status.addr 1 0
  return 0

theorem trace_report {status : Desc} {length : U32}
    (h : (report status).run handle bus = .ok length bus') :
    (report status).trace moved handle bus = [.toGuest status.addr 0] ∧
      bus'.dev.virtio = bus.dev.virtio := by
  rw [report, run_bind, bind_eq_ok] at h
  obtain ⟨_, bus₁, hwrite, hpure⟩ := h
  cases hpure
  rw [run_write] at hwrite
  refine ⟨?_, (keepsDevice_dmaWrite _ _ _).eq hwrite⟩
  rw [report, trace_bind ((congrFun (run_write _ _ _) _).trans hwrite), DmaScript.write,
    trace_request hwrite]
  rfl

/-- A chunk of the disk goes to the first data descriptor. -/
def fill (data status : Desc) (offset : U64) : DmaScript U32 := do
  let stop ← DmaScript.add offset (data.length.setWidth 64)
  DmaScript.growDisk stop
  let chunk ← DmaScript.slice (← DmaScript.device).disk offset.toNat stop.toNat
  DmaScript.allocate chunk.length
  DmaScript.writeBytes data.addr 0 chunk
  report status

/-- The bytes of the first data descriptor go to the disk. -/
def drain (data status : Desc) (offset : U64) : DmaScript U32 := do
  DmaScript.allocate (data.length.setWidth 64).toNat
  let chunk ← DmaScript.readBytes data.addr 0 (data.length.setWidth 64 : U64).toNat
  let stop ← DmaScript.add offset (data.length.setWidth 64)
  DmaScript.growDisk stop
  let disk ← DmaScript.copyFromSlice (← DmaScript.device).disk offset.toNat stop.toNat chunk
  DmaScript.update fun device => { device with disk }
  report status

omit [Host] in
/-- The disk is cut where the buffer ends. -/
theorem toNat_stop {offset stop : U64} {length : U32} (hstop : stop = offset + length.setWidth 64)
    (hle : offset.toNat ≤ stop.toNat) : stop.toNat - offset.toNat = length.toNat := by
  subst hstop
  bv_omega

theorem trace_fill {data status : Desc} {rest : List Desc} {offset : U64} {length : U32}
    (h : (fill data status offset).run handle bus = .ok length bus') :
    ∃ before,
      (fill data status offset).trace moved handle bus = before ++ [.toGuest status.addr 0] ∧
      ((∀ desc ∈ rest, desc.length = 0) → Transfer .toGuest (addresses (data :: rest))
        bus'.dev.virtio.disk offset.toNat before) := by
  unfold fill at h ⊢
  obtain ⟨stop, bus₁, hstop, hgo, htrace⟩ := trace_skip (quiet_add _ _) h
  rw [htrace]
  rw [run_add] at hstop
  obtain ⟨_, bus₂, -, hgo, htrace⟩ := trace_skip (quiet_growDisk _) hgo
  rw [htrace]
  obtain ⟨device, bus₃, hdevice, hgo, htrace⟩ := trace_skip quiet_device hgo
  rw [htrace]
  obtain ⟨chunk, bus₄, hslice, hgo, htrace⟩ := trace_skip (quiet_slice _ _ _) hgo
  rw [htrace]
  obtain ⟨_, bus₅, hallocate, hgo, htrace⟩ := trace_skip (quiet_allocate _) hgo
  rw [htrace]
  rw [run_bind, bind_eq_ok] at hgo
  obtain ⟨_, bus₆, hfill, hreport⟩ := hgo
  obtain ⟨hmoves, hdevice₆⟩ := trace_writeBytes hfill
  obtain ⟨hstatus, hdevice'⟩ := trace_report hreport
  refine ⟨_, by rw [trace_bind hfill, hmoves, hstatus], fun empty => ?_⟩
  rw [run_slice] at hslice
  obtain ⟨hle, hlength, htake, rfl⟩ := slice_eq_ok hslice
  rw [run_allocate] at hallocate
  obtain rfl := (Xv6Emulator.readOnly_allocate _).state_eq hallocate
  rw [run_device] at hdevice
  cases hdevice
  rw [hdevice', hdevice₆]
  rw [toNat_stop (add_eq_ok hstop) hle] at hlength
  refine ⟨chunk, ?_, htake, ?_⟩
  · rw [addresses_cons empty, length_span, hlength]
  · rw [addresses_cons empty, hlength]

theorem trace_drain {data status : Desc} {rest : List Desc} {offset : U64} {length : U32}
    (h : (drain data status offset).run handle bus = .ok length bus') :
    ∃ before,
      (drain data status offset).trace moved handle bus = before ++ [.toGuest status.addr 0] ∧
      ((∀ desc ∈ rest, desc.length = 0) → Transfer .fromGuest (addresses (data :: rest))
        bus'.dev.virtio.disk offset.toNat before) := by
  unfold drain at h ⊢
  obtain ⟨_, bus₁, -, hgo, htrace⟩ := trace_skip (quiet_allocate _) h
  rw [htrace]
  rw [run_bind, bind_eq_ok] at hgo
  obtain ⟨chunk, bus₂, hdrain, hgo⟩ := hgo
  obtain ⟨hmoves, hlength, -⟩ := trace_readBytes hdrain
  rw [trace_bind hdrain, hmoves]
  obtain ⟨stop, bus₃, hstop, hgo, htrace⟩ := trace_skip (quiet_add _ _) hgo
  rw [htrace]
  obtain ⟨_, bus₄, -, hgo, htrace⟩ := trace_skip (quiet_growDisk _) hgo
  rw [htrace]
  obtain ⟨device, bus₅, -, hgo, htrace⟩ := trace_skip quiet_device hgo
  rw [htrace]
  obtain ⟨disk, bus₆, hcopy, hgo, htrace⟩ := trace_skip (quiet_copyFromSlice _ _ _ _) hgo
  rw [htrace]
  obtain ⟨_, bus₇, hupdate, hreport, htrace⟩ := trace_skip (quiet_update _) hgo
  rw [htrace]
  obtain ⟨hstatus, hdevice'⟩ := trace_report hreport
  refine ⟨_, by rw [hstatus], fun empty => ?_⟩
  rw [run_copyFromSlice] at hcopy
  obtain ⟨htake, rfl⟩ := copyFromSlice_eq_ok hcopy
  rw [run_update] at hupdate
  cases hupdate
  rw [hdevice']
  have hwide : (data.length.setWidth 64).toNat = data.length.toNat := by bv_omega
  rw [hwide] at hlength ⊢
  refine ⟨chunk, ?_, htake, ?_⟩
  · rw [addresses_cons empty, length_span, hlength]
  · rw [addresses_cons empty]

/-- Following a chain of any shape. -/
theorem outcome_processDescriptorChain {descBase : U64} {head : U16} {length : U32}
    (h : (DmaScript.processDescriptorChain descBase head).run handle bus = .ok length bus') :
    ∃ descs, ChainFrom bus descBase head [] descs ∧
      Outcome bus descs bus'.dev.virtio.disk
        ((DmaScript.processDescriptorChain descBase head).trace moved handle bus) := by
  unfold DmaScript.processDescriptorChain at h ⊢
  obtain ⟨descs, bus₁, hcollect, hgo, htrace⟩ := trace_skip (quiet_collectDescs _ _ _ _ _) h
  rw [htrace]
  rw [run_collectDescs] at hcollect
  obtain ⟨rfl, _, rfl, chain⟩ := chain_of_collectDescs hcollect
  refine ⟨descs, chain, ?_⟩
  by_cases hshort : descs.length < 3
  · rw [if_pos hshort] at hgo ⊢
    cases hgo
    refine ⟨fun _ => ⟨rfl, rfl⟩, ?_⟩
    rintro header payload status rfl hpayload
    have hpos := List.length_pos_iff.mpr hpayload
    rw [List.length_append, List.length_cons, List.length_singleton] at hshort
    omega
  rw [if_neg hshort] at hgo ⊢
  refine ⟨fun h => absurd h hshort, ?_⟩
  rintro header payload status rfl hpayload
  obtain ⟨data, rest, rfl⟩ := List.exists_cons_of_ne_nil hpayload
  obtain ⟨hgo, htrace⟩ := past_index rfl hgo
  rw [htrace]
  obtain ⟨hgo, htrace⟩ := past_index rfl hgo
  rw [htrace]
  have hlast : (header :: data :: rest ++ [status])[
      (header :: data :: rest ++ [status]).length - 1]? = some status := by
    rw [List.length_append, List.length_singleton, Nat.add_sub_cancel, List.getElem?_concat_length]
  obtain ⟨hgo, htrace⟩ := past_index hlast hgo
  rw [htrace]
  obtain ⟨reqType, htype, hgo, htrace⟩ := past_read (by decide) hgo
  rw [htrace]
  obtain ⟨hgo, htrace⟩ := past_add hgo
  rw [htrace]
  obtain ⟨sector, hsector, hgo, htrace⟩ := past_read (by decide) hgo
  rw [htrace]
  obtain ⟨hgo, htrace⟩ := past_mul hgo
  rw [htrace]
  refine ⟨reqType.setWidth 32, sector, ?_⟩
  by_cases hin : reqType.setWidth 32 = VIRTIO_BLK_T_IN
  · rw [if_pos hin] at hgo ⊢
    obtain ⟨before, hmoves, hread⟩ := trace_fill hgo
    refine ⟨before, congrArg (Option.map _) htype, hsector, hmoves, fun hne => absurd hin hne,
      fun _ => hread, fun hout => ?_⟩
    rw [hin] at hout
    exact absurd hout (by decide)
  rw [if_neg hin] at hgo ⊢
  by_cases hout : reqType.setWidth 32 = VIRTIO_BLK_T_OUT
  · rw [if_pos hout] at hgo ⊢
    obtain ⟨before, hmoves, hwritten⟩ := trace_drain hgo
    exact ⟨before, congrArg (Option.map _) htype, hsector, hmoves, fun _ hne => absurd hout hne,
      fun h => absurd h hin, fun _ => hwritten⟩
  rw [if_neg hout] at hgo ⊢
  obtain ⟨hmoves, hdevice⟩ := trace_report hgo
  refine ⟨[], congrArg (Option.map _) htype, hsector, hmoves, fun _ _ => ⟨rfl, ?_⟩,
    fun h => absurd h hin, fun h => absurd h hout⟩
  rw [hdevice]

/-- The address at which the available ring has the head of the chain behind the cursor. -/
def availEntry (device : VirtIOBlk) (last : U16) : U64 :=
  device.availAddr + 4 + last.setWidth 64 % device.queueNum.setWidth 64 * 2

/-- Entering a chain in the used ring. -/
def enter (device : VirtIOBlk) (head usedIdx : U16) (length : U32) : DmaScript Unit := do
  let usedSlot := usedIdx.setWidth 64 % device.queueNum.setWidth 64
  let usedElemOff ← DmaScript.add (← DmaScript.add device.usedAddr 4) (← DmaScript.mul usedSlot 8)
  DmaScript.write usedElemOff 4 (head.setWidth 64)
  DmaScript.write (← DmaScript.add usedElemOff 4) 4 (length.setWidth 64)
  DmaScript.write (← DmaScript.add device.usedAddr 2) 2 ((usedIdx + 1).setWidth 64)

theorem quiet_enter (device : VirtIOBlk) (head usedIdx : U16) (length : U32) :
    (enter device head usedIdx length).All Quiet := by
  refine (quiet_add _ _).bind fun _ => (quiet_mul _ _).bind fun _ => ?_
  refine (quiet_add _ _).bind fun _ => ?_
  refine (quiet_write _ _ (by decide)).bind fun _ => (quiet_add _ _).bind fun _ => ?_
  exact (quiet_write _ _ (by decide)).bind fun _ => (quiet_add _ _).bind fun _ =>
    quiet_write _ _ (by decide)

theorem keepsDevice_enter (device : VirtIOBlk) (head usedIdx : U16) (length : U32) :
    KeepsDevice ((enter device head usedIdx length).run handle) := by
  simp only [enter, run_bind, run_add, run_mul, run_write]
  refine .bind (.readOnly (readOnly_add _ _)) fun _ => ?_
  refine .bind (.readOnly (readOnly_mul _ _)) fun _ => ?_
  refine .bind (.readOnly (readOnly_add _ _)) fun _ => ?_
  refine .bind (keepsDevice_dmaWrite _ _ _) fun _ => ?_
  refine .bind (.readOnly (readOnly_add _ _)) fun _ => ?_
  refine .bind (keepsDevice_dmaWrite _ _ _) fun _ => ?_
  exact .bind (.readOnly (readOnly_add _ _)) fun _ => keepsDevice_dmaWrite _ _ _

/-- Whatever the guest's memory holds: the chain that the device takes from the available ring and
enters in the used ring is dropped if it is shorter than three. Else the last byte that the device
moves for it is the status 0, behind the bytes of the request. These are none for a type that is
neither a read nor a write; a read or a write whose payload lies in the first data descriptor moves
all of it. The moves are those of the script whose run is the device's. -/
theorem status_reported {device : VirtIOBlk} {last usedIdx : U16}
    (served : serveChain device last usedIdx bus = .ok () bus') :
    (DmaScript.serveChain device last usedIdx).run handle bus = .ok () bus' ∧
    ∃ head descs, (word bus (availEntry device last) 2).map (BitVec.setWidth 16) = some head ∧
      ChainFrom bus device.descAddr head [] descs ∧
      Outcome bus descs bus'.dev.virtio.disk
        ((DmaScript.serveChain device last usedIdx).trace moved handle bus) := by
  rw [← run_serveChain] at served
  refine ⟨served, ?_⟩
  unfold DmaScript.serveChain at served ⊢
  obtain ⟨hgo, htrace⟩ := past_add served
  rw [htrace]
  obtain ⟨hgo, htrace⟩ := past_mul hgo
  rw [htrace]
  obtain ⟨hgo, htrace⟩ := past_add hgo
  rw [htrace]
  obtain ⟨head, hhead, hgo, htrace⟩ := past_read (by decide) hgo
  rw [htrace]
  rw [run_bind, bind_eq_ok] at hgo
  obtain ⟨length, bus₁, hchain, henter⟩ := hgo
  obtain ⟨descs, chain, outcome⟩ := outcome_processDescriptorChain hchain
  refine ⟨head.setWidth 16, descs, congrArg (Option.map _) hhead, chain, ?_⟩
  have hdevice := (keepsDevice_enter device (head.setWidth 16) usedIdx length).eq henter
  have hquiet : (enter device (head.setWidth 16) usedIdx length).trace moved handle bus₁ = [] :=
    trace_eq_nil (quiet_enter _ _ _ _) _
  rw [trace_bind hchain, hdevice]
  refine (congrArg (Outcome bus descs _) ?_).mp outcome
  exact ((congrArg _ hquiet).trans (List.append_nil _)).symm

end Outcome

section Sample

attribute [local instance] Host.dev

/-- Does a call return? -/
def returns (call : Call Bus Unit) (bus : Bus) : Bool :=
  match call bus with
  | .ok _ _ => true
  | .error _ _ => false

theorem exists_of_returns {call : Call Bus Unit} (h : returns call bus = true) :
    ∃ bus', call bus = .ok () bus' := by
  unfold returns at h
  cases hcall : call bus with
  | ok _ bus' => exact ⟨bus', rfl⟩
  | error e bus' =>
      rw [hcall] at h
      cases h

/-- The two bytes that the driver wants reach it before the status does. -/
theorem status_reported_sample :
    ∃ bus', serveChain sampleDevice 0 0 sampleBus = .ok () bus' ∧
      (DmaScript.serveChain sampleDevice 0 0).run handle sampleBus = .ok () bus' ∧
      ∃ head descs, (word sampleBus (availEntry sampleDevice 0) 2).map (BitVec.setWidth 16) =
          some head ∧ ChainFrom sampleBus sampleDevice.descAddr head [] descs ∧
        Outcome sampleBus descs bus'.dev.virtio.disk
          ((DmaScript.serveChain sampleDevice 0 0).trace moved handle sampleBus) := by
  obtain ⟨bus', served⟩ := exists_of_returns
    (by decide +kernel : returns (serveChain sampleDevice 0 0) sampleBus = true)
  exact ⟨bus', served, status_reported served⟩

/-- 96 bytes of RAM as in `sampleBus`, with a header of the given type and a status byte of 255. -/
def typedBus (reqType : Nat) (descs : List U8) : Bus :=
  { sampleBus with
    ram := ⟨descs ++ leBytes 48 (2 ^ 16 + 2 ^ 128 * reqType + 2 ^ 272 * 255)⟩ }

/-- The header and the status, with nothing in between. -/
def flushDescs : List U8 :=
  leBytes 16 (0x40 + 2 ^ 64 * 16 + 2 ^ 96 * 1 + 2 ^ 112 * 1) ++
    leBytes 16 (0x52 + 2 ^ 64 * 1 + 2 ^ 96 * 2) ++ leBytes 16 0

/-- A chain of three for a request of type 8 is reported as carried out; a flush of two is entered
in the used ring with no status. -/
theorem unknown_reported :
    (returns (serveChain sampleDevice 0 0) (typedBus 8 (sampleBus.ram.data.take 48)) = true ∧
      word (typedBus 8 (sampleBus.ram.data.take 48)) 0x40 4 = some 8 ∧
      (DmaScript.serveChain sampleDevice 0 0).trace moved handle
        (typedBus 8 (sampleBus.ram.data.take 48)) = [.toGuest 0x52 0] ∧
      (finish (serveChain sampleDevice 0 0 (typedBus 8 (sampleBus.ram.data.take 48)))).ramByte
        0x52 = some 0) ∧
    (returns (serveChain sampleDevice 0 0) (typedBus 4 flushDescs) = true ∧
      (DmaScript.serveChain sampleDevice 0 0).trace moved handle (typedBus 4 flushDescs) = [] ∧
      (finish (serveChain sampleDevice 0 0 (typedBus 4 flushDescs))).ramByte 0x52 = some 255) := by
  decide +kernel

end Sample

end VirtIOBlk

end Riscvm.Rv64rs
