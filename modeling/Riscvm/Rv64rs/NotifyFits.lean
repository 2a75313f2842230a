import Riscvm.Foundation.Demands
import Riscvm.Rv64rs.OtherQueues

/-!
# The numbers of a notify

Where the bus answers each access, a notify can only fail in computing: on a sum or a product in a
build that checks them, on memory that the host does not have, or on a range of the disk that ends
before it begins. Here this is said, round by round, of the numbers that the round starts from: the
registers, the descriptors and the header as they stand in memory, and the length of the disk.
-/

namespace Riscvm.Rv64rs

open Bytes Exec Script

namespace VirtIOBlk

open Bus

/-- The request is an access to the bus. -/
def Accesses : (β : Type) → DmaRequest β → Prop
  | _, .read _ _ | _, .write _ _ _ => True
  | _, .device | _, .update _ | _, .require _ _ => False

def IsPanic (e : Fault) : Prop := ∃ cause, e = .panic cause

theorem failsBy_isPanic {σ α : Type} {r : EStateM.Result Fault σ α} :
    FailsBy IsPanic r ↔ Panics r := by
  constructor
  · rintro ⟨_, t, rfl, cause, rfl⟩
    exact ⟨cause, t, rfl⟩
  · rintro ⟨cause, t, rfl⟩
    exact ⟨_, t, rfl, cause, rfl⟩

/-- No window reaches the end of the address space. -/
def Bounded (bus : Bus) : Prop :=
  ∀ w, (bus.range w).start.toNat + (bus.range w).size.toNat < 2 ^ 64

/-- The address of the descriptor `idx`. -/
def descAddress (descBase : U64) (idx : U16) : U64 := descBase + idx.setWidth 64 * 16

variable [Host]

/-- A build that checks its sums and products can compute the number. -/
def Fits (n : Nat) : Prop := Host.overflowChecks = true → n < 2 ^ 64

/-! ## The numbers -/

section Numbers

/-- The descriptor at an address, and the index of the one behind it. -/
def fetchDesc (off : U64) : Call Bus (Desc × U16) := do
  let addr ← dmaRead off 8
  let length := (← dmaRead (off + 8) 4).setWidth 32
  let flags := (← dmaRead (off + 12) 2).setWidth 16
  let nxt := (← dmaRead (off + 14) 2).setWidth 16
  return (⟨addr, length, flags⟩, nxt)

variable (descBase : U64) (bus : Bus)

/-- Behind the indices `seen`, the chain that goes on with an index comes to look up another. -/
inductive Looks : (idx : U16) → (seen : List U16) → U16 → Prop
  | here {idx : U16} {seen : List U16} (new : idx ∉ seen) : Looks idx seen idx
  | next {idx nxt i : U16} {seen : List U16} {desc : Desc} (new : idx ∉ seen)
      (found : fetchDesc (descAddress descBase idx) bus = .ok (desc, nxt) bus)
      (more : desc.flags &&& VIRTQ_DESC_F_NEXT ≠ 0) (rest : Looks nxt (idx :: seen) i) :
      Looks idx seen i

/-- The descriptors of the rest of the chain. -/
inductive Gathers : (idx : U16) → (seen : List U16) → List Desc → Prop
  | seen {idx : U16} {seen : List U16} (old : idx ∈ seen) : Gathers idx seen []
  | last {idx nxt : U16} {seen : List U16} {desc : Desc} (new : idx ∉ seen)
      (found : fetchDesc (descAddress descBase idx) bus = .ok (desc, nxt) bus)
      (ends : desc.flags &&& VIRTQ_DESC_F_NEXT = 0) : Gathers idx seen [desc]
  | next {idx nxt : U16} {seen : List U16} {desc : Desc} {descs : List Desc} (new : idx ∉ seen)
      (found : fetchDesc (descAddress descBase idx) bus = .ok (desc, nxt) bus)
      (more : desc.flags &&& VIRTQ_DESC_F_NEXT ≠ 0) (rest : Gathers nxt (idx :: seen) descs) :
      Gathers idx seen (desc :: descs)

/-- The descriptors that a chain looks up have addresses. -/
def TableFits (head : U16) : Prop :=
  ∀ idx, Looks descBase bus head [] idx → Fits (descBase.toNat + 16 * idx.toNat)

/-- The access from the sector on ends below byte 2⁶⁴, where the product may have wrapped before,
and the disk can grow to this end. -/
def DiskFits (sector : U64) (length : Nat) : Prop :=
  512 * sector.toNat % 2 ^ 64 + length < 2 ^ 64 ∧
    (bus.dev.virtio.disk.length < 512 * sector.toNat % 2 ^ 64 + length →
      Holdable (512 * sector.toNat % 2 ^ 64 + length))

/-- The numbers of a request with its header read. A request to write gets to the disk if its data
can be read. -/
structure RequestFits (reqType : U32) (sector : U64) (data : Desc) : Prop where
  product : Fits (512 * sector.toNat)
  read : reqType = VIRTIO_BLK_T_IN →
    DiskFits bus sector data.length.toNat ∧ Holdable data.length.toNat
  write : reqType = VIRTIO_BLK_T_OUT → Holdable data.length.toNat ∧
    ((∃ chunk bus', readBytes data.addr 0 data.length.toNat bus = .ok chunk bus') →
      DiskFits bus sector data.length.toNat)

/-- The numbers of a chain's header, which is read if the chain has data and a status as well. -/
def HeaderFits (header data : Desc) : Prop :=
  ∀ word, dmaRead header.addr 4 bus = .ok word bus → Fits (header.addr.toNat + 8) ∧
    ∀ sector, dmaRead (header.addr + 8) 8 bus = .ok sector bus →
      RequestFits bus (word.setWidth 32) sector data

structure ChainFits (head : U16) : Prop where
  table : TableFits descBase bus head
  header : ∀ header data status rest,
    Gathers descBase bus head [] (header :: data :: status :: rest) → HeaderFits bus header data

/-- The numbers of a round: the positions in the two rings and those of the chain. The place in the
used ring is computed once the chain has been processed. -/
structure RoundFits (device : VirtIOBlk) (last usedIdx : U16) : Prop where
  ring : Fits (device.availAddr.toNat + 4 + 2 * (last.toNat % device.queueNum.toNat))
  chain : ∀ head, headAt device last bus = .ok head bus → ChainFits device.descAddr bus head
  used : ∀ head, headAt device last bus = .ok head bus →
    (∃ length bus', processDescriptorChain device.descAddr head bus = .ok length bus') →
    Fits (device.usedAddr.toNat + 4 + 8 * (usedIdx.toNat % device.queueNum.toNat))

/-- The numbers of a notify: the addresses of the two ring indices, and the numbers of each round
that it comes to, taken where the round begins. -/
structure QueueFits (queueIdx : U32) : Prop where
  avail : Fits (bus.dev.virtio.availAddr.toNat + 2)
  used : ∀ availIdx, ringIndex bus.dev.virtio.availAddr bus = .ok availIdx bus →
    Fits (bus.dev.virtio.usedAddr.toNat + 2)
  rounds : ∀ availIdx usedIdx n bus', Enters bus availIdx usedIdx →
    Completes bus.dev.virtio availIdx (startOf queueIdx bus usedIdx) usedIdx bus n bus' →
    startOf queueIdx bus usedIdx + BitVec.ofNat 16 n ≠ availIdx →
    RoundFits bus' bus.dev.virtio (startOf queueIdx bus usedIdx + BitVec.ofNat 16 n)
      (usedIdx + BitVec.ofNat 16 n)

def NotifyFits (queueIdx : U32) : Prop := Disabled bus.dev.virtio ∨ QueueFits bus queueIdx

end Numbers

/-! ## What is computed without an access -/

/-- The condition for a part of a notify not to panic where accesses are answered. -/
def Needs {α : Type} (script : DmaScript α) (bus : Bus) (D : Prop) : Prop :=
  Bounded bus → Demands IsPanic Accesses handle script bus D

namespace Needs

variable {α β : Type} {bus : Bus} {D : Prop}

theorem congr {script : DmaScript α} {D' : Prop} (h : Needs script bus D) (same : D ↔ D') :
    Needs script bus D' := fun bounded => (h bounded).congr same

theorem pure (a : α) : Needs (pure a) bus True := fun _ => .pure a

theorem ite {p : Prop} [Decidable p] {x y : DmaScript α} {E : Prop} (hx : p → Needs x bus D)
    (hy : ¬p → Needs y bus E) : Needs (if p then x else y) bus ((p → D) ∧ (¬p → E)) :=
  fun bounded => .ite (fun h => hx h bounded) fun h => hy h bounded

/-- Whatever is requested, the windows stay where they are. -/
theorem bounded_run {script : DmaScript β} {b : β} {bus' : Bus} (bounded : Bounded bus)
    (run : script.run handle bus = .ok b bus') : Bounded bus' := by
  have hkeeps := Script.keeps_run SameShape.refl SameShape.trans keepsShape_handle script bus
  rw [run, finish_ok] at hkeeps
  intro w
  rw [hkeeps.ranges w]
  exact bounded w

theorem bind {first : DmaScript β} {f : β → DmaScript α} {E : β → Bus → Prop}
    (left : Needs first bus D)
    (right : ∀ b bus', first.run handle bus = .ok b bus' → Needs (f b) bus' (E b bus')) :
    Needs (first >>= f) bus (D ∧ ∀ b bus', first.run handle bus = .ok b bus' → E b bus') :=
  fun bounded => (left bounded).bind fun b bus' run => right b bus' run (bounded_run bounded run)

theorem require {holds : Bool} {cause : Panic} {f : Unit → DmaScript α}
    (rest : holds = true → Needs (f ()) bus D) :
    Needs (DmaScript.require holds cause >>= f) bus (holds = true ∧ D) := by
  have hcheck : Needs (DmaScript.require holds cause) bus (holds = true) := by
    refine fun _ => .request ?_
    cases holds with
    | true => exact iff_of_true (fun ⟨_, _, h, _⟩ => nomatch h) rfl
    | false => exact iff_of_false (fun h => h ⟨_, bus, rfl, cause, rfl⟩) Bool.false_ne_true
  cases holds with
  | true =>
      refine (hcheck.bind (E := fun _ _ => D) fun _ bus' run => ?_).congr ?_
      · cases run
        exact rest rfl
      · exact and_congr_right fun _ => ⟨fun h => h () bus rfl, fun h _ _ _ => h⟩
  | false =>
      refine (hcheck.bind (E := fun _ _ => True) fun _ bus' run => nomatch run).congr ?_
      exact iff_of_false (fun h => nomatch h.1) fun h => nomatch h.1

theorem checked {n : Nat} {cause : Panic} {f : Unit → DmaScript α}
    (rest : Fits n → Needs (f ()) bus D) :
    Needs (DmaScript.require (!Host.overflowChecks || decide (n < 2 ^ 64)) cause >>= f) bus
      (Fits n ∧ D) := by
  have hfits : (!Host.overflowChecks || decide (n < 2 ^ 64)) = true ↔ Fits n := by
    rw [Fits, Bool.or_eq_true_iff, Bool.not_eq_true', decide_eq_true_iff]
    cases Host.overflowChecks <;> simp
  exact (require fun h => rest (hfits.mp h)).congr (and_congr_left fun _ => hfits)

theorem add {a b : U64} {f : U64 → DmaScript α}
    (rest : Fits (a.toNat + b.toNat) → Needs (f (a + b)) bus D) :
    Needs (DmaScript.add a b >>= f) bus (Fits (a.toNat + b.toNat) ∧ D) :=
  checked (f := fun _ => f (a + b)) rest

theorem mul {a b : U64} {f : U64 → DmaScript α}
    (rest : Fits (a.toNat * b.toNat) → Needs (f (a * b)) bus D) :
    Needs (DmaScript.mul a b >>= f) bus (Fits (a.toNat * b.toNat) ∧ D) :=
  checked (f := fun _ => f (a * b)) rest

/-- A sum that is known to fit asks for nothing. -/
theorem add_fits {a b : U64} {f : U64 → DmaScript α} (h : Fits (a.toNat + b.toNat))
    (rest : Needs (f (a + b)) bus D) : Needs (DmaScript.add a b >>= f) bus D :=
  (add fun _ => rest).congr (and_iff_right h)

theorem add_lt {a b : U64} {f : U64 → DmaScript α} (h : a.toNat + b.toNat < 2 ^ 64)
    (rest : Needs (f (a + b)) bus D) : Needs (DmaScript.add a b >>= f) bus D :=
  add_fits (fun _ => h) rest

theorem mul_lt {a b : U64} {f : U64 → DmaScript α} (h : a.toNat * b.toNat < 2 ^ 64)
    (rest : Needs (f (a * b)) bus D) : Needs (DmaScript.mul a b >>= f) bus D :=
  (mul fun _ => rest).congr (and_iff_right fun _ => h)

theorem allocate {n : Nat} {f : Unit → DmaScript α} (rest : Holdable n → Needs (f ()) bus D) :
    Needs (DmaScript.allocate n >>= f) bus (Holdable n ∧ D) := by
  have hboth : Needs (DmaScript.allocate n >>= f) bus
      (decide (n < 2 ^ 63) = true ∧ decide (n ≤ Host.memory) = true ∧ D) :=
    require (f := fun _ => DmaScript.require (n ≤ Host.memory) .outOfMemory >>= f) fun h =>
      require fun h' => rest ⟨of_decide_eq_true h, of_decide_eq_true h'⟩
  refine hboth.congr ?_
  rw [decide_eq_true_iff, decide_eq_true_iff, Holdable, and_assoc]

/-! ## Accesses that are answered -/

omit [Host] in
/-- An access that is served ends within a window. -/
theorem lt_of_locate (bounded : Bounded bus) {address : U64} {size : U8} {w : Window}
    (h : bus.locate address (size.setWidth 64) = some w) :
    address.toNat + size.toNat < 2 ^ 64 := by
  have hin := (contains_of_locate h).2
  rw [BitVec.toNat_setWidth_of_le (by decide)] at hin
  exact Nat.lt_of_le_of_lt hin (bounded w)

theorem lt_of_read (bounded : Bounded bus) {address v : U64} {size : U8} {bus' : Bus}
    (h : dmaRead address size bus = .ok v bus') : address.toNat + size.toNat < 2 ^ 64 := by
  rw [dmaRead, readAt_eq bounded] at h
  cases hw : bus.locate address (size.setWidth 64) with
  | none =>
      rw [hw] at h
      cases h
  | some w => exact lt_of_locate bounded hw

theorem lt_of_write (bounded : Bounded bus) {address value : U64} {size : U8} {bus' : Bus}
    (h : dmaWrite address size value bus = .ok () bus') : address.toNat + size.toNat < 2 ^ 64 := by
  rw [dmaWrite, writeWith_eq bounded] at h
  cases hw : bus.locate address (size.setWidth 64) with
  | none =>
      rw [hw] at h
      cases h
  | some w => exact lt_of_locate bounded hw

theorem read {address : U64} {size : U8} {f : U64 → DmaScript α} {E : U64 → Bus → Prop}
    (rest : ∀ v bus', dmaRead address size bus = .ok v bus' →
      address.toNat + size.toNat < 2 ^ 64 → Needs (f v) bus' (E v bus')) :
    Needs (DmaScript.read address size >>= f) bus
      (∀ v bus', dmaRead address size bus = .ok v bus' → E v bus') := by
  intro bounded
  have hread : Needs (DmaScript.read address size) bus True := fun _ => .trusted trivial
  have hall := hread.bind (f := f) (E := E) fun v bus' run =>
    have run' : dmaRead address size bus = .ok v bus' := by rwa [DmaScript.run_read] at run
    rest v bus' run' (lt_of_read bounded run')
  rw [DmaScript.run_read, true_and] at hall
  exact hall bounded

/-- A read of more than one byte only looks. -/
theorem look {address : U64} {size : U8} (wide : size ≠ 1) {f : U64 → DmaScript α}
    {E : U64 → Prop}
    (rest : ∀ v, dmaRead address size bus = .ok v bus →
      address.toNat + size.toNat < 2 ^ 64 → Needs (f v) bus (E v)) :
    Needs (DmaScript.read address size >>= f) bus
      (∀ v, dmaRead address size bus = .ok v bus → E v) := by
  have same {v : U64} {bus' : Bus} (run : dmaRead address size bus = .ok v bus') : bus' = bus :=
    (readOnly_readAt true address wide).state_eq run
  refine (read (E := fun v _ => E v) fun v bus' run hlt => ?_).congr ⟨fun h v => h v bus, ?_⟩
  · obtain rfl := same run
    exact rest v run hlt
  · intro h v bus' run
    obtain rfl := same run
    exact h v run

/-- Behind a write of which nothing more is asked. -/
theorem write {address value : U64} {size : U8} {f : Unit → DmaScript α}
    (rest : ∀ bus', address.toNat + size.toNat < 2 ^ 64 → Needs (f ()) bus' True) :
    Needs (DmaScript.write address size value >>= f) bus True := by
  intro bounded
  have hwrite : Needs (DmaScript.write address size value) bus True := fun _ => .trusted trivial
  refine (hwrite.bind (E := fun _ _ => True) fun _ bus' run => ?_).congr (by simp) bounded
  rw [DmaScript.run_write] at run
  exact rest bus' (lt_of_write bounded run)

theorem writeBytes {base : U64} {i : Nat} {bytes : List U8} {f : Unit → DmaScript α}
    (h : base.toNat + i < 2 ^ 64) (rest : ∀ bus', Needs (f ()) bus' True) :
    Needs (DmaScript.writeBytes base i bytes >>= f) bus True := by
  induction bytes generalizing i bus with
  | nil => exact rest bus
  | cons b bytes ih =>
      obtain ⟨hi, haddr⟩ := @toNat_ofNat_index base i h
      change Needs (DmaScript.add base (BitVec.ofNat 64 i) >>= fun off =>
        DmaScript.write off 1 (b.setWidth 64) >>= fun _ =>
          DmaScript.writeBytes base (i + 1) bytes >>= f) bus True
      refine add_lt (by rwa [hi]) (write fun bus' hlt => ih ?_)
      rwa [haddr] at hlt

theorem readBytes {base : U64} {i n : Nat} (h : base.toNat + i < 2 ^ 64) :
    Needs (DmaScript.readBytes base i n) bus True := by
  induction n generalizing i bus with
  | zero => exact .pure _
  | succ n ih =>
      obtain ⟨hi, haddr⟩ := @toNat_ofNat_index base i h
      refine add_lt (by rwa [hi]) ?_
      refine (read (E := fun _ _ => True) fun v bus' _ hlt => ?_).congr (by simp)
      rw [haddr] at hlt
      exact ((ih hlt).bind fun _ _ _ => .pure _).congr (by simp)

end Needs

section Chain

attribute [local instance] DmaScript.lawfulBEq_index

variable {descBase : U64} {bus : Bus} {idx : U16} {seen : List U16}

theorem fetchDesc_eq_ok {off : U64} {desc : Desc} {nxt : U16} :
    fetchDesc off bus = .ok (desc, nxt) bus ↔ ∃ addr length flags next,
      dmaRead off 8 bus = .ok addr bus ∧ dmaRead (off + 8) 4 bus = .ok length bus ∧
      dmaRead (off + 12) 2 bus = .ok flags bus ∧ dmaRead (off + 14) 2 bus = .ok next bus ∧
      desc = ⟨addr, length.setWidth 32, flags.setWidth 16⟩ ∧ nxt = next.setWidth 16 := by
  have same {address v : U64} {size : U8} {bus' : Bus} (wide : size ≠ 1)
      (run : dmaRead address size bus = .ok v bus') : bus' = bus :=
    (readOnly_readAt true address wide).state_eq run
  constructor
  · intro h
    obtain ⟨addr, bus₁, haddr, h⟩ := bind_eq_ok.mp h
    obtain rfl := same (by decide) haddr
    obtain ⟨length, bus₂, hlength, h⟩ := bind_eq_ok.mp h
    obtain rfl := same (by decide) hlength
    obtain ⟨flags, bus₃, hflags, h⟩ := bind_eq_ok.mp h
    obtain rfl := same (by decide) hflags
    obtain ⟨next, bus₄, hnext, h⟩ := bind_eq_ok.mp h
    obtain rfl := same (by decide) hnext
    cases h
    exact ⟨addr, length, flags, next, haddr, hlength, hflags, hnext, rfl, rfl⟩
  · rintro ⟨addr, length, flags, next, haddr, hlength, hflags, hnext, rfl, rfl⟩
    rw [fetchDesc, bind_ok haddr, bind_ok hlength, bind_ok hflags, bind_ok hnext]
    rfl

/-- The part of the script that reads a descriptor. -/
def fieldsScript (off : U64) : DmaScript (Desc × U16) := do
  let addr ← DmaScript.read off 8
  let length := (← DmaScript.read (← DmaScript.add off 8) 4).setWidth 32
  let flags := (← DmaScript.read (← DmaScript.add off 12) 2).setWidth 16
  let nxt := (← DmaScript.read (← DmaScript.add off 14) 2).setWidth 16
  return (⟨addr, length, flags⟩, nxt)

/-- What is read of a descriptor ends within a window. -/
theorem Needs.fields {α : Type} {off : U64} {f : Desc × U16 → DmaScript α}
    {E : Desc → U16 → Prop}
    (rest : ∀ desc nxt, fetchDesc off bus = .ok (desc, nxt) bus →
      Needs (f (desc, nxt)) bus (E desc nxt)) :
    Needs (fieldsScript off >>= f) bus
      (∀ desc nxt, fetchDesc off bus = .ok (desc, nxt) bus → E desc nxt) := by
  have hreads : Needs (DmaScript.read off 8 >>= fun addr =>
      DmaScript.add off 8 >>= fun off₁ => DmaScript.read off₁ 4 >>= fun length =>
      DmaScript.add off 12 >>= fun off₂ => DmaScript.read off₂ 2 >>= fun flags =>
      DmaScript.add off 14 >>= fun off₃ => DmaScript.read off₃ 2 >>= fun next =>
        f (⟨addr, length.setWidth 32, flags.setWidth 16⟩, next.setWidth 16)) bus
      (∀ addr, dmaRead off 8 bus = .ok addr bus →
        ∀ length, dmaRead (off + 8) 4 bus = .ok length bus →
        ∀ flags, dmaRead (off + 12) 2 bus = .ok flags bus →
        ∀ next, dmaRead (off + 14) 2 bus = .ok next bus →
          E ⟨addr, length.setWidth 32, flags.setWidth 16⟩ (next.setWidth 16)) := by
    refine .look (by decide) fun addr haddr h₁ => ?_
    have h₁ : off.toNat + (8 : U64).toNat < 2 ^ 64 := h₁
    refine .add_lt h₁ (.look (by decide) fun length hlength h₂ => ?_)
    rw [BitVec.toNat_add_of_lt h₁] at h₂
    have h₂ : off.toNat + (12 : U64).toNat < 2 ^ 64 := h₂
    refine .add_lt h₂ (.look (by decide) fun flags hflags h₃ => ?_)
    rw [BitVec.toNat_add_of_lt h₂] at h₃
    have h₃ : off.toNat + (14 : U64).toNat < 2 ^ 64 := h₃
    refine .add_lt h₃ (.look (by decide) fun next hnext _ => ?_)
    exact rest _ _
      (fetchDesc_eq_ok.mpr ⟨addr, length, flags, next, haddr, hlength, hflags, hnext, rfl, rfl⟩)
  refine Needs.congr hreads ⟨fun h desc nxt found => ?_, fun h addr haddr length hlength
    flags hflags next hnext => ?_⟩
  · obtain ⟨addr, length, flags, next, haddr, hlength, hflags, hnext, rfl, rfl⟩ :=
      fetchDesc_eq_ok.mp found
    exact h addr haddr length hlength flags hflags next hnext
  · exact h _ _
      (fetchDesc_eq_ok.mpr ⟨addr, length, flags, next, haddr, hlength, hflags, hnext, rfl, rfl⟩)

theorem collectDescs_succ (fuel : Nat) (descs : List Desc) :
    DmaScript.collectDescs descBase (fuel + 1) idx seen descs =
      if idx ∈ seen then return descs
      else DmaScript.mul (idx.setWidth 64) 16 >>= fun product =>
        DmaScript.add descBase product >>= fun off => fieldsScript off >>= fun found =>
          if found.1.flags &&& VIRTQ_DESC_F_NEXT ≠ 0 then
            DmaScript.collectDescs descBase fuel found.2 (idx :: seen) (descs ++ [found.1])
          else return descs ++ [found.1] := rfl

omit [Host] in
theorem toNat_index (idx : U16) :
    (idx.setWidth 64 : U64).toNat * (16 : U64).toNat < 2 ^ 64 ∧
      (idx.setWidth 64 * 16 : U64).toNat = 16 * idx.toNat := by
  have hidx : (idx.setWidth 64 : U64).toNat = idx.toNat := BitVec.toNat_setWidth_of_le (by decide)
  have hlt : (idx.setWidth 64 : U64).toNat * (16 : U64).toNat < 2 ^ 64 := by
    rw [hidx]
    exact Nat.lt_of_le_of_lt (Nat.mul_le_mul_right 16 (Nat.le_of_lt idx.isLt)) (by decide)
  refine ⟨hlt, ?_⟩
  rw [BitVec.toNat_mul_of_lt hlt, hidx]
  exact Nat.mul_comm _ _

theorem looks_iff {P : U16 → Prop} : (∀ i, Looks descBase bus idx seen i → P i) ↔
    (idx ∉ seen → P idx ∧ ∀ desc nxt,
      fetchDesc (descAddress descBase idx) bus = .ok (desc, nxt) bus →
      desc.flags &&& VIRTQ_DESC_F_NEXT ≠ 0 →
        ∀ i, Looks descBase bus nxt (idx :: seen) i → P i) := by
  constructor
  · intro h new
    exact ⟨h idx (.here new), fun desc nxt found more i rest => h i (.next new found more rest)⟩
  · intro h i looks
    cases looks with
    | here new => exact (h new).1
    | next new found more rest => exact (h new).2 _ _ found more i rest

/-- Following a chain asks for the addresses of the descriptors that it looks up. -/
theorem needs_collectDescs {fuel : Nat} (nodup : seen.Nodup)
    (enough : 65537 ≤ seen.length + fuel) (descs : List Desc) :
    Needs (DmaScript.collectDescs descBase fuel idx seen descs) bus
      (∀ i, Looks descBase bus idx seen i → Fits (descBase.toNat + 16 * i.toNat)) := by
  induction fuel generalizing idx seen descs with
  | zero =>
      have hle := DmaScript.length_seen_le nodup
      omega
  | succ fuel ih =>
      rw [collectDescs_succ]
      refine Needs.congr (.ite (fun _ => .pure _) fun new => .mul_lt (toNat_index idx).1
        (.add fun _ => .fields fun desc nxt _ => .ite (fun _ => ih ?_ ?_ _) fun _ => .pure _)) ?_
      · exact List.nodup_cons.mpr ⟨new, nodup⟩
      · rw [List.length_cons]
        omega
      · rw [looks_iff, (toNat_index idx).2]
        simp only [implies_true, true_and, and_true]
        rfl

theorem add_of_fits {a b : U64} (h : Fits (a.toNat + b.toNat)) :
    (add a b : Call Bus U64) = pure (a + b) := by
  rw [add, if_neg]
  intro hover
  obtain ⟨hchecks, hle⟩ := Bool.and_eq_true_iff.mp hover
  exact Nat.not_lt.mpr (of_decide_eq_true hle) (h hchecks)

/-- The script finds the descriptor that stands in memory. -/
theorem run_fields_eq_ok (bounded : Bounded bus) {off : U64} {desc : Desc} {nxt : U16}
    {bus' : Bus} : (fieldsScript off).run handle bus = .ok (desc, nxt) bus' ↔
      bus' = bus ∧ fetchDesc off bus = .ok (desc, nxt) bus := by
  have same {address v : U64} {size : U8} {t t' : Bus} (wide : size ≠ 1)
      (run : dmaRead address size t = .ok v t') : t' = t :=
    (readOnly_readAt true address wide).state_eq run
  have sum {a b c : U64} {t t' : Bus} (run : add a b t = .ok c t') : c = a + b ∧ t' = t :=
    ⟨add_eq_ok run, (readOnly_add a b).state_eq run⟩
  simp only [fieldsScript, run_bind, DmaScript.run_read, DmaScript.run_add, run_pure]
  constructor
  · intro h
    simp only [bind_eq_ok] at h
    obtain ⟨addr, t₁, haddr, _, t₂, hsum₁, length, t₃, hlength, _, t₄, hsum₂, flags, t₅, hflags, _,
      t₆, hsum₃, next, t₇, hnext, hfound⟩ := h
    obtain rfl := same (by decide) haddr
    obtain ⟨rfl, rfl⟩ := sum hsum₁
    obtain rfl := same (by decide) hlength
    obtain ⟨rfl, rfl⟩ := sum hsum₂
    obtain rfl := same (by decide) hflags
    obtain ⟨rfl, rfl⟩ := sum hsum₃
    obtain rfl := same (by decide) hnext
    cases hfound
    exact ⟨rfl, fetchDesc_eq_ok.mpr
      ⟨addr, length, flags, next, haddr, hlength, hflags, hnext, rfl, rfl⟩⟩
  · rintro ⟨rfl, found⟩
    obtain ⟨addr, length, flags, next, haddr, hlength, hflags, hnext, rfl, rfl⟩ :=
      fetchDesc_eq_ok.mp found
    have h₁ := Needs.lt_of_read bounded haddr
    have h₁ : off.toNat + (8 : U64).toNat < 2 ^ 64 := h₁
    have h₂ := Needs.lt_of_read bounded hlength
    rw [BitVec.toNat_add_of_lt h₁] at h₂
    have h₂ : off.toNat + (12 : U64).toNat < 2 ^ 64 := h₂
    have h₃ := Needs.lt_of_read bounded hflags
    rw [BitVec.toNat_add_of_lt h₂] at h₃
    have h₃ : off.toNat + (14 : U64).toNat < 2 ^ 64 := h₃
    rw [bind_ok haddr, add_bind h₁, bind_ok hlength, add_bind h₂, bind_ok hflags, add_bind h₃,
      bind_ok hnext]
    rfl

/-- What is collected is the chain as it stands in memory. -/
theorem collectDescs_eq_ok (bounded : Bounded bus) {fuel : Nat} (nodup : seen.Nodup)
    (enough : 65537 ≤ seen.length + fuel)
    (fits : ∀ i, Looks descBase bus idx seen i → Fits (descBase.toNat + 16 * i.toNat))
    (descs : List Desc) {all : List Desc} {bus' : Bus} :
    (DmaScript.collectDescs descBase fuel idx seen descs).run handle bus = .ok all bus' ↔
      bus' = bus ∧ ∃ rest, Gathers descBase bus idx seen rest ∧ all = descs ++ rest := by
  induction fuel generalizing idx seen descs with
  | zero =>
      have hle := DmaScript.length_seen_le nodup
      omega
  | succ fuel ih =>
      rw [collectDescs_succ]
      by_cases old : idx ∈ seen
      · rw [if_pos old]
        constructor
        · intro h
          cases h
          exact ⟨rfl, [], .seen old, (List.append_nil _).symm⟩
        · rintro ⟨rfl, rest, gathers, rfl⟩
          cases gathers with
          | seen => rw [List.append_nil]; rfl
          | last new | next new => exact absurd old new
      have hfits := (looks_iff.mp fits old).1
      have hrest := (looks_iff.mp fits old).2
      rw [← (toNat_index idx).2] at hfits
      have nodup' := List.nodup_cons.mpr ⟨old, nodup⟩
      have enough' : 65537 ≤ (idx :: seen).length + fuel := by
        rw [List.length_cons]
        omega
      rw [if_neg old]
      simp only [run_bind, DmaScript.run_mul, DmaScript.run_add, run_cond, run_pure]
      rw [mul_bind (toNat_index idx).1, add_of_fits hfits, pure_bind_apply, bind_eq_ok]
      constructor
      · rintro ⟨⟨desc, nxt⟩, t, hfound, h⟩
        obtain ⟨rfl, found⟩ := (run_fields_eq_ok bounded).mp hfound
        dsimp only at h
        by_cases more : desc.flags &&& VIRTQ_DESC_F_NEXT ≠ 0
        · rw [if_pos more] at h
          obtain ⟨rfl, rest, gathers, rfl⟩ :=
            (ih nodup' enough' (hrest desc nxt found more) _).mp h
          exact ⟨rfl, desc :: rest, .next old found more gathers, List.append_assoc _ _ _⟩
        · rw [if_neg more] at h
          cases h
          exact ⟨rfl, [desc], .last old found (Classical.not_not.mp more), rfl⟩
      · rintro ⟨rfl, rest, gathers, rfl⟩
        cases gathers with
        | seen h => exact absurd h old
        | last new found ends =>
            refine ⟨_, _, (run_fields_eq_ok bounded).mpr ⟨rfl, found⟩, ?_⟩
            dsimp only
            rw [if_neg (Classical.not_not.mpr ends)]
            rfl
        | next new found more gathers =>
            refine ⟨_, _, (run_fields_eq_ok bounded).mpr ⟨rfl, found⟩, ?_⟩
            dsimp only
            rw [if_pos more, ih nodup' enough' (hrest _ _ found more)]
            exact ⟨rfl, _, gathers, List.append_cons _ _ _⟩

end Chain

section Request

variable {bus : Bus} {α : Type}

theorem growDisk_eq_ok {stop : U64} {bus' : Bus} : growDisk stop bus = .ok () bus' ↔
    (bus.dev.virtio.disk.length < stop.toNat → Holdable stop.toNat) ∧
      bus' = bus.setDisk (grown bus.dev.virtio.disk stop.toNat) := by
  rw [growDisk, get_bind_apply]
  rcases Nat.lt_or_ge bus.dev.virtio.disk.length stop.toNat with hshort | hlong
  · rw [if_pos hshort, bind_eq_ok]
    constructor
    · rintro ⟨_, t, hallocate, h⟩
      obtain ⟨hlt, hle, rfl⟩ := allocate_eq_ok.mp hallocate
      cases h
      exact ⟨fun _ => ⟨hlt, hle⟩, rfl⟩
    · rintro ⟨hold, rfl⟩
      obtain ⟨hlt, hle⟩ := hold hshort
      exact ⟨(), bus, allocate_eq_ok.mpr ⟨hlt, hle, rfl⟩, rfl⟩
  · rw [if_neg (Nat.not_lt.mpr hlong), grown, Nat.sub_eq_zero_of_le hlong, List.replicate_zero,
      List.append_nil]
    constructor
    · intro h
      cases h
      exact ⟨fun hshort => absurd hshort (Nat.not_lt.mpr hlong), rfl⟩
    · rintro ⟨-, rfl⟩
      rfl

theorem Needs.device {f : VirtIOBlk → DmaScript α} {D : Prop}
    (rest : Needs (f bus.dev.virtio) bus D) : Needs (DmaScript.device >>= f) bus D := by
  have hlook : Needs DmaScript.device bus True :=
    fun _ => .request (iff_of_true (fun ⟨_, _, h, _⟩ => nomatch h) trivial)
  refine (hlook.bind (E := fun _ _ => D) fun virtio bus' run => ?_).congr ?_
  · rw [DmaScript.run_device] at run
    cases run
    exact rest
  · rw [true_and, DmaScript.run_device]
    exact ⟨fun h => h _ _ rfl, fun h _ _ _ => h⟩

theorem Needs.update {f : Unit → DmaScript α} {g : VirtIOBlk → VirtIOBlk}
    (rest : ∀ bus', Needs (f ()) bus' True) : Needs (DmaScript.update g >>= f) bus True := by
  have hset : Needs (DmaScript.update g) bus True :=
    fun _ => .request (iff_of_true (fun ⟨_, _, h, _⟩ => nomatch h) trivial)
  exact (hset.bind (E := fun _ _ => True) fun _ bus' _ => rest bus').congr (by simp)

theorem Needs.growDisk {stop : U64} {f : Unit → DmaScript α} {D : Prop}
    (rest : ∀ bus', stop.toNat ≤ bus'.dev.virtio.disk.length → Needs (f ()) bus' D) :
    Needs (DmaScript.growDisk stop >>= f) bus
      ((bus.dev.virtio.disk.length < stop.toNat → Holdable stop.toNat) ∧ D) := by
  have hgrow : Needs (DmaScript.growDisk stop) bus
      (bus.dev.virtio.disk.length < stop.toNat → Holdable stop.toNat) := by
    refine .device (Needs.congr (.ite (fun _ => .allocate fun _ =>
      Needs.congr (.update fun _ => .pure ()) Iff.rfl) fun _ => .pure ()) ?_)
    simp only [and_true, implies_true]
  refine (hgrow.bind (E := fun _ _ => D) fun _ bus' run => ?_).congr
    (and_congr_right fun hold => ?_)
  · rw [DmaScript.run_growDisk] at run
    obtain ⟨-, rfl⟩ := growDisk_eq_ok.mp run
    exact rest _ (length_grown _ _)
  · rw [DmaScript.run_growDisk]
    exact ⟨fun h => h () _ (growDisk_eq_ok.mpr ⟨hold, rfl⟩), fun h _ _ _ => h⟩

/-- A request to read, from where its offset is known. -/
def readScript (offset : U64) (data status : Desc) : DmaScript U32 := do
  let stop ← DmaScript.add offset (data.length.setWidth 64)
  DmaScript.growDisk stop
  let device ← DmaScript.device
  let chunk ← DmaScript.slice device.disk offset.toNat stop.toNat
  DmaScript.allocate chunk.length
  DmaScript.writeBytes data.addr 0 chunk
  DmaScript.write status.addr 1 0
  return 0

/-- A request to write, with its data read. -/
def writeScript (offset : U64) (data status : Desc) (chunk : List U8) : DmaScript U32 := do
  let stop ← DmaScript.add offset (data.length.setWidth 64)
  DmaScript.growDisk stop
  let device ← DmaScript.device
  let disk ← DmaScript.copyFromSlice device.disk offset.toNat stop.toNat chunk
  DmaScript.update fun device => { device with disk }
  DmaScript.write status.addr 1 0
  return 0

/-- The part of a request behind its header. -/
def moveScript (reqType : U32) (sector : U64) (data status : Desc) : DmaScript U32 :=
  DmaScript.mul sector SECTOR_SIZE >>= fun offset =>
    if reqType = VIRTIO_BLK_T_IN then readScript offset data status
    else if reqType = VIRTIO_BLK_T_OUT then
      DmaScript.allocate (data.length.setWidth 64 : U64).toNat >>= fun _ =>
        DmaScript.readBytes data.addr 0 (data.length.setWidth 64 : U64).toNat >>= fun chunk =>
          writeScript offset data status chunk
    else DmaScript.write status.addr 1 0 >>= fun _ => return 0

omit [Host] in
theorem toNat_sector (sector : U64) :
    (sector * SECTOR_SIZE).toNat = 512 * sector.toNat % 2 ^ 64 := by
  rw [BitVec.toNat_mul, Nat.mul_comm]
  rfl

/-- With the disk grown, the range is well formed just if its end has not wrapped. -/
theorem diskFits_iff {sector : U64} {length : U32} :
    (Fits ((sector * SECTOR_SIZE).toNat + (length.setWidth 64 : U64).toNat) ∧
      (bus.dev.virtio.disk.length < (sector * SECTOR_SIZE + length.setWidth 64).toNat →
        Holdable (sector * SECTOR_SIZE + length.setWidth 64).toNat) ∧
      (sector * SECTOR_SIZE).toNat ≤ (sector * SECTOR_SIZE + length.setWidth 64).toNat) ↔
    DiskFits bus sector length.toNat := by
  have hlength : (length.setWidth 64 : U64).toNat = length.toNat :=
    BitVec.toNat_setWidth_of_le (by decide)
  have hlt := length.isLt
  have hmod : 512 * sector.toNat % 2 ^ 64 < 2 ^ 64 := Nat.mod_lt _ (by decide)
  rw [BitVec.toNat_add, toNat_sector, hlength, DiskFits]
  generalize 512 * sector.toNat % 2 ^ 64 = start at *
  constructor
  · rintro ⟨-, hold, hle⟩
    have hend : start + length.toNat < 2 ^ 64 := by omega
    rw [Nat.mod_eq_of_lt hend] at hold
    exact ⟨hend, hold⟩
  · rintro ⟨hend, hold⟩
    rw [Nat.mod_eq_of_lt hend]
    exact ⟨fun _ => hend, hold, Nat.le_add_right _ _⟩

omit [Host] in
/-- A range that is well formed is as long as the buffer. -/
theorem toNat_stop_sub {sector : U64} {length : U32}
    (h : (sector * SECTOR_SIZE).toNat ≤ (sector * SECTOR_SIZE + length.setWidth 64).toNat) :
    (sector * SECTOR_SIZE + length.setWidth 64).toNat - (sector * SECTOR_SIZE).toNat =
      length.toNat := by
  have hlength : (length.setWidth 64 : U64).toNat = length.toNat :=
    BitVec.toNat_setWidth_of_le (by decide)
  have hlt := length.isLt
  have hoffset := (sector * SECTOR_SIZE).isLt
  rw [BitVec.toNat_add, hlength] at h ⊢
  omega

theorem Needs.slice {xs : List U8} {a b : Nat} {f : List U8 → DmaScript α} {D : Prop}
    (long : b ≤ xs.length) (rest : a ≤ b → ∀ ys, ys.length = b - a → Needs (f ys) bus D) :
    Needs (DmaScript.slice xs a b >>= f) bus (a ≤ b ∧ D) := by
  have hslice : Needs (DmaScript.slice xs a b >>= f) bus
      (decide (a ≤ b ∧ b ≤ xs.length) = true ∧ D) := by
    refine .require (f := fun _ => f ((xs.drop a).take (b - a))) fun h => ?_
    refine rest (of_decide_eq_true h).1 _ ?_
    rw [List.length_take, List.length_drop]
    omega
  refine hslice.congr (and_congr_left fun _ => ?_)
  rw [decide_eq_true_iff]
  exact and_iff_left long

theorem Needs.copyFromSlice {xs ys : List U8} {a b : Nat} {f : List U8 → DmaScript α}
    (long : b ≤ xs.length) (length : a ≤ b → ys.length = b - a)
    (rest : ∀ zs, Needs (f zs) bus True) :
    Needs (DmaScript.copyFromSlice xs a b ys >>= f) bus (a ≤ b) := by
  have hcopy : Needs (DmaScript.copyFromSlice xs a b ys >>= f) bus
      (decide (a ≤ b ∧ b ≤ xs.length ∧ ys.length = b - a) = true ∧ True) :=
    .require (f := fun _ => f (xs.take a ++ ys ++ xs.drop b)) fun _ => rest _
  refine hcopy.congr ?_
  rw [and_true, decide_eq_true_iff]
  exact ⟨And.left, fun h => ⟨h, long, length h⟩⟩

/-- The disk is grown to the end of the access. -/
theorem Needs.reachEnd {sector : U64} {length : U32} {f : U64 → VirtIOBlk → DmaScript α} {D : Prop}
    (rest : ∀ device bus', (sector * SECTOR_SIZE + length.setWidth 64).toNat ≤ device.disk.length →
      Needs (f (sector * SECTOR_SIZE + length.setWidth 64) device) bus'
        ((sector * SECTOR_SIZE).toNat ≤ (sector * SECTOR_SIZE + length.setWidth 64).toNat ∧ D)) :
    Needs (DmaScript.add (sector * SECTOR_SIZE) (length.setWidth 64) >>= fun stop =>
      DmaScript.growDisk stop >>= fun _ => DmaScript.device >>= fun device => f stop device)
      bus (DiskFits bus sector length.toNat ∧ D) := by
  refine Needs.congr (.add fun _ => .growDisk fun bus' hlong => .device (rest _ bus' hlong)) ?_
  rw [← diskFits_iff, and_assoc, and_assoc]

theorem needs_status (status : Desc) :
    Needs (DmaScript.write status.addr 1 0 >>= fun _ => return (0 : U32)) bus True :=
  .write fun _ _ => .pure _

theorem needs_read (sector : U64) (data status : Desc) :
    Needs (readScript (sector * SECTOR_SIZE) data status) bus
      (DiskFits bus sector data.length.toNat ∧ Holdable data.length.toNat) := by
  refine .reachEnd fun device bus' hlong => .slice hlong fun hle chunk hchunk => ?_
  rw [← toNat_stop_sub hle, ← hchunk]
  exact Needs.congr (.allocate fun _ => .writeBytes data.addr.isLt fun _ => needs_status _)
    (and_iff_left trivial)

theorem needs_write (sector : U64) (data status : Desc) {chunk : List U8}
    (hchunk : chunk.length = data.length.toNat) :
    Needs (writeScript (sector * SECTOR_SIZE) data status chunk) bus
      (DiskFits bus sector data.length.toNat) := by
  refine Needs.congr (.reachEnd (D := True) fun device bus' hlong => Needs.congr
    (.copyFromSlice hlong (fun hle => hchunk.trans (toNat_stop_sub hle).symm) fun _ =>
      .update fun _ => needs_status _) (and_iff_left trivial).symm) (and_iff_left trivial)

/-- Of a request behind its header the numbers of the request are asked. -/
theorem needs_move (reqType : U32) (sector : U64) (data status : Desc) :
    Needs (moveScript reqType sector data status) bus (RequestFits bus reqType sector data) := by
  have hlength : (data.length.setWidth 64 : U64).toNat = data.length.toNat :=
    BitVec.toNat_setWidth_of_le (by decide)
  have hproduct : sector.toNat * SECTOR_SIZE.toNat = 512 * sector.toNat := Nat.mul_comm _ _
  have hout : Needs (DmaScript.readBytes data.addr 0 data.length.toNat >>= fun chunk =>
      writeScript (sector * SECTOR_SIZE) data status chunk) bus
      ((∃ chunk bus', readBytes data.addr 0 data.length.toNat bus = .ok chunk bus') →
        DiskFits bus sector data.length.toNat) := by
    have hbytes : Needs (DmaScript.readBytes data.addr 0 data.length.toNat) bus True :=
      .readBytes data.addr.isLt
    refine (hbytes.bind (E := fun _ _ => DiskFits bus sector data.length.toNat)
      fun chunk bus' run => ?_).congr ?_
    · rw [DmaScript.run_readBytes] at run
      have hkept := keepsVirtio_readBytes data.addr 0 data.length.toNat bus
      rw [run, finish_ok] at hkept
      refine (needs_write sector data status (length_readBytes _ run)).congr ?_
      rw [DiskFits, DiskFits, hkept]
    · rw [true_and, DmaScript.run_readBytes]
      exact ⟨fun h ⟨chunk, bus', run⟩ => h chunk bus' run, fun h chunk bus' run => h ⟨_, _, run⟩⟩
  have hall : Needs (moveScript reqType sector data status) bus
      (Fits (sector.toNat * SECTOR_SIZE.toNat) ∧ (reqType = VIRTIO_BLK_T_IN →
        DiskFits bus sector data.length.toNat ∧ Holdable data.length.toNat) ∧
        (¬reqType = VIRTIO_BLK_T_IN → (reqType = VIRTIO_BLK_T_OUT → Holdable data.length.toNat ∧
          ((∃ chunk bus', readBytes data.addr 0 data.length.toNat bus = .ok chunk bus') →
            DiskFits bus sector data.length.toNat)) ∧ (¬reqType = VIRTIO_BLK_T_OUT → True))) := by
    rw [moveScript, hlength]
    exact .mul fun _ => .ite (fun _ => needs_read sector data status) fun _ =>
      .ite (fun _ => .allocate fun _ => hout) fun _ => needs_status status
  refine hall.congr ?_
  rw [hproduct]
  constructor
  · rintro ⟨product, read, write⟩
    refine ⟨product, read, fun kind => (write fun hin => ?_).1 kind⟩
    exact absurd (kind.symm.trans hin) (by decide)
  · rintro ⟨product, read, write⟩
    exact ⟨product, read, fun _ => ⟨write, fun _ => trivial⟩⟩

end Request

section Rounds

variable {bus : Bus} {α : Type}

theorem Needs.index {descs : List Desc} {i : Nat} {desc : Desc} {f : Desc → DmaScript α}
    {D : Prop} (found : descs[i]? = some desc) (rest : Needs (f desc) bus D) :
    Needs (DmaScript.index descs i >>= f) bus D := by
  obtain ⟨hlt, hdesc⟩ := List.getElem?_eq_some_iff.mp found
  have hvalue : descs.getD i ⟨0, 0, 0⟩ = desc := by
    rw [List.getD_eq_getElem?_getD, found, Option.getD_some]
  have hindex : Needs (DmaScript.index descs i >>= f) bus (decide (i < descs.length) = true ∧ D) :=
    .require (f := fun _ => f (descs.getD i ⟨0, 0, 0⟩)) fun _ => by rwa [hvalue]
  exact hindex.congr (and_iff_right (decide_eq_true hlt))

/-- The part of a chain behind its descriptors. -/
def requestScript (header data status : Desc) : DmaScript U32 := do
  let word ← DmaScript.read header.addr 4
  let sector ← DmaScript.read (← DmaScript.add header.addr 8) 8
  moveScript (word.setWidth 32) sector data status

theorem needs_request (header data status : Desc) :
    Needs (requestScript header data status) bus (HeaderFits bus header data) :=
  .look (by decide) fun _ _ _ => .add fun _ => .look (by decide) fun _ _ _ => needs_move _ _ _ _

theorem processDescriptorChain_request (descBase : U64) (head : U16) :
    DmaScript.processDescriptorChain descBase head = (do
      let descs ← DmaScript.collectDescs descBase 65537 head [] []
      if descs.length < 3 then return 0
      else
        let header ← DmaScript.index descs 0
        let data ← DmaScript.index descs 1
        let status ← DmaScript.index descs (descs.length - 1)
        requestScript header data status) := rfl

theorem needs_processDescriptorChain (descBase : U64) (head : U16) :
    Needs (DmaScript.processDescriptorChain descBase head) bus (ChainFits descBase bus head) := by
  intro bounded
  have enough : 65537 ≤ ([] : List U16).length + 65537 := Nat.le_add_left _ _
  rw [processDescriptorChain_request]
  refine Needs.congr (Needs.bind (E := fun descs bus' => ∀ header data status rest,
      descs = header :: data :: status :: rest → HeaderFits bus' header data)
    (needs_collectDescs List.nodup_nil enough []) fun descs bus' _ => ?_) ?_ bounded
  · match descs with
    | [] | [_] | [_, _] => exact Needs.congr (.pure 0) (iff_of_true trivial nofun)
    | header :: data :: status :: rest =>
        have hlong : ¬(header :: data :: status :: rest).length < 3 := by
          simp only [List.length_cons]
          omega
        obtain ⟨last, hlast⟩ : ∃ last, (header :: data :: status :: rest)[
            (header :: data :: status :: rest).length - 1]? = some last :=
          ⟨_, List.getElem?_eq_getElem (by omega)⟩
        rw [if_neg hlong]
        refine Needs.congr (.index rfl (.index rfl (.index hlast (needs_request _ _ _)))) ?_
        constructor
        · intro h header data status rest heq
          cases heq
          exact h
        · exact fun h => h _ _ _ _ rfl
  · constructor
    · rintro ⟨table, h⟩
      refine ⟨table, fun header data status rest gathers => ?_⟩
      exact h _ bus ((collectDescs_eq_ok bounded List.nodup_nil enough table []).mpr
        ⟨rfl, _, gathers, rfl⟩) header data status rest rfl
    · rintro ⟨table, h⟩
      refine ⟨table, fun descs bus' run header data status rest heq => ?_⟩
      obtain ⟨rfl, rest', gathers, rfl⟩ :=
        (collectDescs_eq_ok bounded List.nodup_nil enough table []).mp run
      exact h header data status rest (heq ▸ gathers)

omit [Host] in
/-- The position in a ring is computed from a slot number below 2¹⁶. -/
theorem toNat_slot_mul {idx : U16} {n : U32} {k : U64} (hk : k.toNat ≤ 8) :
    (idx.setWidth 64 % n.setWidth 64 : U64).toNat * k.toNat < 2 ^ 64 ∧
      (idx.setWidth 64 % n.setWidth 64 * k : U64).toNat = k.toNat * (idx.toNat % n.toNat) := by
  have hle : idx.toNat % n.toNat ≤ idx.toNat := Nat.mod_le _ _
  have hidx := idx.isLt
  have hlt : (idx.setWidth 64 % n.setWidth 64 : U64).toNat * k.toNat < 2 ^ 64 := by
    rw [toNat_slot]
    exact Nat.lt_of_le_of_lt (Nat.mul_le_mul (Nat.le_trans hle (Nat.le_of_lt hidx)) hk) (by decide)
  refine ⟨hlt, ?_⟩
  rw [BitVec.toNat_mul_of_lt hlt, toNat_slot, Nat.mul_comm]

/-- A place in a ring is the sum of three numbers. -/
theorem fits_place {ring c place : U64} : (Fits (ring.toNat + c.toNat) ∧
    Fits ((ring + c).toNat + place.toNat)) ↔ Fits (ring.toNat + c.toNat + place.toNat) := by
  constructor
  · rintro ⟨hbase, hplace⟩ hchecks
    have hsum := hplace hchecks
    rwa [BitVec.toNat_add_of_lt (hbase hchecks)] at hsum
  · intro h
    have hbase : Fits (ring.toNat + c.toNat) :=
      fun hchecks => Nat.lt_of_le_of_lt (Nat.le_add_right _ _) (h hchecks)
    refine ⟨hbase, fun hchecks => ?_⟩
    rw [BitVec.toNat_add_of_lt (hbase hchecks)]
    exact h hchecks

/-- The last part of a round. -/
def usedScript (device : VirtIOBlk) (usedIdx head : U16) (length : U32) : DmaScript Unit := do
  let usedSlot := usedIdx.setWidth 64 % device.queueNum.setWidth 64
  let usedElemOff ← DmaScript.add (← DmaScript.add device.usedAddr 4) (← DmaScript.mul usedSlot 8)
  DmaScript.write usedElemOff 4 (head.setWidth 64)
  DmaScript.write (← DmaScript.add usedElemOff 4) 4 (length.setWidth 64)
  DmaScript.write (← DmaScript.add device.usedAddr 2) 2 ((usedIdx + 1).setWidth 64)

theorem needs_used (device : VirtIOBlk) (usedIdx head : U16) (length : U32) :
    Needs (usedScript device usedIdx head length) bus
      (Fits (device.usedAddr.toNat + 4 + 8 * (usedIdx.toNat % device.queueNum.toNat))) := by
  obtain ⟨hplace, hvalue⟩ := @toNat_slot_mul usedIdx device.queueNum 8 (by decide)
  refine Needs.congr (.add fun hring => .mul_lt hplace (.add fun _ =>
    .write fun _ hlt => .add_lt hlt (.write fun _ _ => .add_fits ?_ fun _ => .trusted trivial))) ?_
  · exact fun hchecks => Nat.lt_of_le_of_lt (Nat.add_le_add_left (by decide) _) (hring hchecks)
  · rw [and_true, fits_place, hvalue]
    rfl

theorem serveChain_used (device : VirtIOBlk) (last usedIdx : U16) :
    DmaScript.serveChain device last usedIdx =
      DmaScript.add device.availAddr 4 >>= fun ring =>
        DmaScript.mul (last.setWidth 64 % device.queueNum.setWidth 64) 2 >>= fun place =>
          DmaScript.add ring place >>= fun off => DmaScript.read off 2 >>= fun word =>
            DmaScript.processDescriptorChain device.descAddr (word.setWidth 16) >>= fun length =>
              usedScript device usedIdx (word.setWidth 16) length := rfl

/-- The head of a round is a word of the available ring. -/
theorem headAt_eq_ok {device : VirtIOBlk} {last head : U16}
    (ring : Fits (device.availAddr.toNat + 4 + 2 * (last.toNat % device.queueNum.toNat))) :
    headAt device last bus = .ok head bus ↔ ∃ word,
      dmaRead (device.availAddr + 4 +
        last.setWidth 64 % device.queueNum.setWidth 64 * 2) 2 bus = .ok word bus ∧
      head = word.setWidth 16 := by
  obtain ⟨hplace, hvalue⟩ := @toNat_slot_mul last device.queueNum 2 (by decide)
  have hvalue : _ = 2 * (last.toNat % device.queueNum.toNat) := hvalue
  rw [← hvalue] at ring
  obtain ⟨hbase, hsum⟩ := (@fits_place _ _ 4 _).mpr ring
  rw [headAt, add_of_fits hbase, pure_bind, mul_bind hplace, add_of_fits hsum, pure_bind_apply,
    bind_eq_ok]
  constructor
  · rintro ⟨word, t, hread, h⟩
    cases h
    exact ⟨word, hread, rfl⟩
  · rintro ⟨word, hread, rfl⟩
    exact ⟨word, bus, hread, rfl⟩

/-- Of a round its numbers are asked. -/
theorem needs_serveChain (device : VirtIOBlk) (last usedIdx : U16) :
    Needs (DmaScript.serveChain device last usedIdx) bus (RoundFits bus device last usedIdx) := by
  obtain ⟨hplace, hvalue⟩ := @toNat_slot_mul last device.queueNum 2 (by decide)
  rw [serveChain_used]
  refine Needs.congr (.add fun _ => .mul_lt hplace (.add fun _ => .look (by decide) fun word _ _ =>
    (needs_processDescriptorChain device.descAddr (word.setWidth 16)).bind fun length _ _ =>
      needs_used device usedIdx _ length)) ?_
  rw [← and_assoc, fits_place, hvalue]
  simp only [DmaScript.run_processDescriptorChain]
  constructor
  · rintro ⟨ring, h⟩
    refine ⟨ring, fun head hhead => ?_, fun head hhead ⟨length, bus', run⟩ => ?_⟩
    · obtain ⟨word, hread, rfl⟩ := (headAt_eq_ok ring).mp hhead
      exact (h word hread).1
    · obtain ⟨word, hread, rfl⟩ := (headAt_eq_ok ring).mp hhead
      exact (h word hread).2 length bus' run
  · rintro ⟨ring, chain, used⟩
    refine ⟨ring, fun word hread => ?_⟩
    have hhead := (headAt_eq_ok ring).mpr ⟨word, hread, rfl⟩
    exact ⟨chain _ hhead, fun length bus' run => used _ hhead ⟨length, bus', run⟩⟩

/-- The loop asks for the numbers of the rounds that it comes to. -/
theorem needs_serveChains {device : VirtIOBlk} {availIdx last usedIdx : U16} {fuel : Nat}
    (enough : (availIdx - last).toNat ≤ fuel) :
    Needs (DmaScript.serveChains device availIdx fuel last usedIdx) bus
      (∀ n bus', Completes device availIdx last usedIdx bus n bus' →
        last + BitVec.ofNat 16 n ≠ availIdx →
        RoundFits bus' device (last + BitVec.ofNat 16 n) (usedIdx + BitVec.ofNat 16 n)) := by
  have stays {n : Nat} {bus' : Bus} {last usedIdx : U16} {bus : Bus} (heq : last = availIdx)
      (completes : Completes device availIdx last usedIdx bus n bus')
      (more : last + BitVec.ofNat 16 n ≠ availIdx) : False := by
    have hle := completes.le_distance
    rw [heq, BitVec.sub_self] at hle
    obtain rfl : n = 0 := Nat.le_zero.mp hle
    exact more ((BitVec.add_zero _).trans heq)
  induction fuel generalizing last usedIdx bus with
  | zero =>
      have heq : last = availIdx := by bv_omega
      refine Needs.congr (.require (f := fun _ => return last) fun _ => .pure _) ?_
      rw [and_true, decide_eq_true_iff]
      exact iff_of_true heq fun n bus' completes more => (stays heq completes more).elim
  | succ fuel ih =>
      refine Needs.congr (.ite (D := True) (fun _ => .pure _) fun more =>
        (needs_serveChain device last usedIdx).bind fun _ _ _ => ih ?_) ?_
      · have hdistance := distance_succ more
        omega
      rw [DmaScript.run_serveChain]
      constructor
      · rintro ⟨-, h⟩ n bus' completes hne
        cases completes with
        | done =>
            rw [BitVec.add_zero] at hne
            rw [BitVec.add_zero, BitVec.add_zero]
            exact (h hne).1
        | round more served rest =>
            rw [← succ_position] at hne
            rw [← succ_position, ← succ_position]
            exact (h more).2 () _ served _ _ rest hne
      · intro h
        refine ⟨fun _ => trivial, fun more => ⟨?_, fun _ bus₁ served n bus' rest hne => ?_⟩⟩
        · have hfirst := h 0 bus .done (by rwa [BitVec.add_zero])
          rwa [BitVec.add_zero, BitVec.add_zero] at hfirst
        · rw [succ_position] at hne
          rw [succ_position, succ_position]
          exact h (_ + 1) bus' (.round more served rest) hne

/-- The index word of a ring is computed from one read. -/
theorem ringIndex_eq_ok {ring : U64} {idx : U16} (fits : Fits (ring.toNat + 2)) :
    ringIndex ring bus = .ok idx bus ↔
      ∃ word, dmaRead (ring + 2) 2 bus = .ok word bus ∧ idx = word.setWidth 16 := by
  rw [ringIndex, add_of_fits fits, pure_bind, bind_eq_ok]
  constructor
  · rintro ⟨word, t, hread, h⟩
    cases h
    exact ⟨word, hread, rfl⟩
  · rintro ⟨word, hread, rfl⟩
    exact ⟨word, bus, hread, rfl⟩

theorem processQueue_script (queueIdx : U32) :
    DmaScript.processQueue queueIdx = DmaScript.device >>= fun device =>
      if Disabled device then return ()
      else DmaScript.add device.availAddr 2 >>= fun off => DmaScript.read off 2 >>= fun avail =>
        DmaScript.add device.usedAddr 2 >>= fun off' => DmaScript.read off' 2 >>= fun used =>
          DmaScript.serveChains device (avail.setWidth 16) 65536
              ((device.lastAvailIdx queueIdx).getD (used.setWidth 16)) (used.setWidth 16) >>=
            fun last => DmaScript.update fun device => device.settle queueIdx last := rfl

/-- Of a notify its numbers are asked. -/
theorem needs_processQueue (queueIdx : U32) :
    Needs (DmaScript.processQueue queueIdx) bus (NotifyFits bus queueIdx) := by
  rw [processQueue_script]
  refine Needs.congr (.device (.ite (D := True) (fun _ => .pure ()) fun _ =>
    .add fun _ => .look (by decide) fun avail _ _ => .add fun _ => .look (by decide) fun used _ _ =>
      (needs_serveChains (Nat.le_of_lt (BitVec.isLt _))).bind fun _ _ _ =>
        .update fun _ => .pure ())) ?_
  simp only [implies_true, true_and, and_true]
  constructor
  · intro h
    by_cases disabled : Disabled bus.dev.virtio
    · exact .inl disabled
    obtain ⟨havail, h⟩ := h disabled
    refine .inr ⟨havail, fun availIdx hindex => ?_, fun availIdx usedIdx n bus' enters => ?_⟩
    · obtain ⟨word, hread, rfl⟩ := (ringIndex_eq_ok havail).mp hindex
      exact (h word hread).1
    · obtain ⟨avail, hread, rfl⟩ := (ringIndex_eq_ok havail).mp enters.avail
      obtain ⟨hused, h⟩ := h avail hread
      obtain ⟨used, hread', rfl⟩ := (ringIndex_eq_ok hused).mp enters.used
      exact h used hread' n bus'
  · rintro (disabled | fits) ready
    · exact absurd disabled ready
    refine ⟨fits.avail, fun avail hread => ?_⟩
    have hindex := (ringIndex_eq_ok fits.avail).mpr ⟨avail, hread, rfl⟩
    have hused := fits.used _ hindex
    refine ⟨hused, fun used hread' n bus' => ?_⟩
    exact fits.rounds _ _ n bus' ⟨ready, hindex, (ringIndex_eq_ok hused).mpr ⟨used, hread', rfl⟩⟩

end Rounds

end VirtIOBlk

end Riscvm.Rv64rs
