import Riscvm.Rv64rs.GuestRam

/-!
# Requests of three descriptors

What a well-formed read or write request is in guest memory, and what serving it does: the
chain is followed, the data is moved between RAM and the disk, the status byte is stored and
the used ring gets its entry.
-/

namespace Riscvm.Rv64rs

open Bytes Exec Bus

namespace VirtIOBlk

/-- A number of `n` bytes that RAM holds at `a`. -/
structure Holds (bus : Bus) (a n v : Nat) : Prop where
  inRam : bus.InRam a n
  value : leNat (bus.ramBytes a n) = v

/-- A descriptor and the index behind it, at `a` in the table. -/
structure DescAt (bus : Bus) (a : Nat) (desc : Desc) (next : U16) : Prop where
  addr : Holds bus a 8 desc.addr.toNat
  length : Holds bus (a + 8) 4 desc.length.toNat
  flags : Holds bus (a + 12) 2 desc.flags.toNat
  next : Holds bus (a + 14) 2 next.toNat

/-- What the driver submits in a chain of three descriptors. -/
structure Request where
  head : U16
  header : Desc
  data : Desc
  status : Desc
  reqType : U32
  sector : U64

namespace Request

/-- The disk position of the first byte. -/
def offset (req : Request) : Nat := 512 * req.sector.toNat

def length (req : Request) : Nat := req.data.length.toNat

end Request

/-- The chain of the request in the table at `descBase`. -/
structure Chain (bus : Bus) (descBase : U64) (req : Request) : Prop where
  descs : ∃ second third next, DescAt bus (descBase.toNat + 16 * req.head.toNat) req.header second ∧
    DescAt bus (descBase.toNat + 16 * second.toNat) req.data third ∧
    DescAt bus (descBase.toNat + 16 * third.toNat) req.status next ∧
    second ≠ req.head ∧ third ≠ req.head ∧ third ≠ second
  headerNext : req.header.flags &&& VIRTQ_DESC_F_NEXT ≠ 0
  dataNext : req.data.flags &&& VIRTQ_DESC_F_NEXT ≠ 0
  statusNext : req.status.flags &&& VIRTQ_DESC_F_NEXT = 0
  reqType : Holds bus req.header.addr.toNat 4 req.reqType.toNat
  sector : Holds bus (req.header.addr.toNat + 8) 8 req.sector.toNat

section Following

variable [Host] {bus : Bus}

/-- A checked sum that stays within the word. -/
theorem add_bind {α : Type} {a b : U64} (h : a.toNat + b.toNat < 2 ^ 64) (f : U64 → Call Bus α)
    (s : Bus) : (add a b >>= f) s = f (a + b) s := by
  rw [add_of_lt h]
  rfl

theorem mul_bind {α : Type} {a b : U64} (h : a.toNat * b.toNat < 2 ^ 64) (f : U64 → Call Bus α)
    (s : Bus) : (mul a b >>= f) s = f (a * b) s := by
  rw [mul_of_lt h]
  rfl

/-- The device reads what RAM holds. -/
theorem Holds.dmaRead_bind (wf : bus.Wf) {α : Type} {address : U64} {size : U8} {v : Nat}
    (width : Ram.Width size) (h : Holds bus address.toNat size.toNat v) (f : U64 → Call Bus α) :
    (dmaRead address size >>= f) bus = f (BitVec.ofNat 64 v) bus := by
  rw [bind_ok (dmaRead_ram wf width h.inRam), h.value]

omit [Host] in
/-- A field comes back from the word it was read into. -/
theorem setWidth_ofNat_toNat {w : Nat} (x : BitVec w) (h : w ≤ 64) :
    (BitVec.ofNat 64 x.toNat).setWidth w = x := by
  rw [BitVec.ofNat_toNat, BitVec.setWidth_setWidth_of_le _ h, BitVec.setWidth_eq]

/-- The device reads the two words of a header. -/
theorem Holds.header_bind (wf : bus.Wf) {α : Type} {address sector : U64} {reqType : U32}
    (hreqType : Holds bus address.toNat 4 reqType.toNat)
    (hsector : Holds bus (address.toNat + 8) 8 sector.toNat) (f : U64 → U64 → Call Bus α) :
    (dmaRead address 4 >>= fun word => add address 8 >>= fun next =>
      dmaRead next 8 >>= f word) bus = f (BitVec.ofNat 64 reqType.toNat) sector bus := by
  have hlt := hsector.inRam.lt wf
  have h8 : (8 : U64).toNat = 8 := rfl
  have hadd : (address + 8).toNat = address.toNat + 8 := by
    rw [BitVec.toNat_add, h8, Nat.mod_eq_of_lt (by omega)]
  rw [← hadd] at hsector
  rw [Holds.dmaRead_bind wf (by decide) hreqType, add_bind (by omega),
    Holds.dmaRead_bind wf (by decide) hsector, BitVec.ofNat_toNat 64 sector, BitVec.setWidth_eq]

theorem collectDescs_step (wf : bus.Wf) {descBase : U64} {fuel : Nat} {idx : U16} {seen : List U16}
    {descs : List Desc} {desc : Desc} {next : U16} (hnew : idx ∉ seen)
    (h : DescAt bus (descBase.toNat + 16 * idx.toNat) desc next) :
    collectDescs descBase (fuel + 1) idx seen descs bus =
      (if desc.flags &&& VIRTQ_DESC_F_NEXT ≠ 0 then
        collectDescs descBase fuel next (idx :: seen) (descs ++ [desc])
      else return descs ++ [desc]) bus := by
  have hlt := h.next.inRam.lt wf
  have hidx : (idx.setWidth 64 : U64).toNat = idx.toNat := BitVec.toNat_setWidth_of_le (by decide)
  have h16 : (16 : U64).toNat = 16 := rfl
  have hmul : (idx.setWidth 64 : U64).toNat * (16 : U64).toNat < 2 ^ 64 := by
    rw [hidx, h16]
    omega
  have hprod : ((idx.setWidth 64 : U64) * 16).toNat = 16 * idx.toNat := by
    rw [BitVec.toNat_mul, hidx, h16, Nat.mod_eq_of_lt (by omega), Nat.mul_comm]
  have hoff : (descBase + (idx.setWidth 64 : U64) * 16).toNat =
      descBase.toNat + 16 * idx.toNat := by
    rw [BitVec.toNat_add, hprod, Nat.mod_eq_of_lt (by omega)]
  rw [collectDescs, if_neg hnew, mul_bind hmul, add_bind (by rw [hprod]; omega)]
  generalize descBase + (idx.setWidth 64 : U64) * 16 = off at hoff
  rw [← hoff] at h hlt
  have hfield {k : U64} (hk : k.toNat ≤ 14) :
      off.toNat + k.toNat < 2 ^ 64 ∧ (off + k).toNat = off.toNat + k.toNat := by
    refine ⟨by omega, ?_⟩
    rw [BitVec.toNat_add, Nat.mod_eq_of_lt (by omega)]
  obtain ⟨hlt8, hadd8⟩ := hfield (k := 8) (by decide)
  obtain ⟨hlt12, hadd12⟩ := hfield (k := 12) (by decide)
  obtain ⟨hlt14, hadd14⟩ := hfield (k := 14) (by decide)
  rw [h.addr.dmaRead_bind wf (by decide), add_bind hlt8,
    Holds.dmaRead_bind wf (by decide) (hadd8 ▸ h.length), add_bind hlt12,
    Holds.dmaRead_bind wf (by decide) (hadd12 ▸ h.flags), add_bind hlt14,
    Holds.dmaRead_bind wf (by decide) (hadd14 ▸ h.next)]
  rw [setWidth_ofNat_toNat desc.length (by decide), setWidth_ofNat_toNat desc.flags (by decide),
    setWidth_ofNat_toNat next (by decide), BitVec.ofNat_toNat, BitVec.setWidth_eq]

theorem collectDescs_chain (wf : bus.Wf) {descBase : U64} {req : Request}
    (chain : Chain bus descBase req) :
    collectDescs descBase 65537 req.head [] [] bus =
      .ok [req.header, req.data, req.status] bus := by
  obtain ⟨second, third, next, hheader, hdata, hstatus, hsecond, hthird, hthird'⟩ := chain.descs
  have hnew₂ : second ∉ [req.head] := fun h => hsecond (List.mem_singleton.mp h)
  have hnew₃ : third ∉ [second, req.head] := by
    intro h
    obtain h | h := List.mem_cons.mp h
    · exact hthird' h
    · exact hthird (List.mem_singleton.mp h)
  rw [collectDescs_step wf List.not_mem_nil hheader, if_pos chain.headerNext,
    collectDescs_step wf hnew₂ hdata, if_pos chain.dataNext,
    collectDescs_step wf hnew₃ hstatus, if_neg (not_not_intro chain.statusNext)]
  rfl

omit [Host] in
theorem toNat_ofNat_index {base : U64} {i : Nat} (h : base.toNat + i < 2 ^ 64) :
    (BitVec.ofNat 64 i).toNat = i ∧ (base + BitVec.ofNat 64 i).toNat = base.toNat + i := by
  have hi : (BitVec.ofNat 64 i).toNat = i := by
    rw [BitVec.toNat_ofNat, Nat.mod_eq_of_lt (by omega)]
  exact ⟨hi, by rw [BitVec.toNat_add, hi, Nat.mod_eq_of_lt h]⟩

/-- Storing bytes one by one stores them all. -/
theorem writeBytes_ram (wf : bus.Wf) {base : U64} {i : Nat} {bytes : List U8}
    (h : bus.InRam (base.toNat + i) bytes.length) :
    writeBytes base i bytes bus = .ok () (bus.poke (base.toNat + i) bytes) := by
  induction bytes generalizing bus i with
  | nil =>
      rw [poke_nil]
      rfl
  | cons b bytes ih =>
      rw [List.length_cons] at h
      have hlt := h.lt wf
      obtain ⟨hi, haddr⟩ := @toNat_ofNat_index base i (by omega)
      have hbyte : leBytes (1 : U8).toNat (b.setWidth 64 : U64).toNat = [b] := by
        change [BitVec.ofNat 8 (b.setWidth 64 : U64).toNat] = [b]
        rw [BitVec.ofNat_toNat, BitVec.setWidth_setWidth_of_le _ (by decide), BitVec.setWidth_eq]
      have hfirst : bus.InRam (base + BitVec.ofNat 64 i).toNat (1 : U8).toNat := by
        rw [haddr]
        exact h.sub (Nat.le_refl _) (Nat.add_le_add_left (Nat.le_add_left _ _) _)
      rw [writeBytes, add_bind (by rw [hi]; omega), bind_ok (dmaWrite_ram wf (.inl rfl) hfirst _),
        haddr, hbyte]
      rw [haddr] at hfirst
      have hrest : bus.InRam (base.toNat + (i + 1)) bytes.length := h.sub (by omega) (by omega)
      rw [ih (wf.poke hfirst) (hrest.poke _ _)]
      have hjoin : bus.InRam (base.toNat + i) ([b].length + bytes.length) := by
        rwa [List.length_singleton, Nat.add_comm 1]
      exact congrArg _ (poke_poke wf hjoin)

/-- Loading bytes one by one loads them all. -/
theorem readBytes_ram (wf : bus.Wf) {base : U64} {i n : Nat} (h : bus.InRam (base.toNat + i) n) :
    readBytes base i n bus = .ok (bus.ramBytes (base.toNat + i) n) bus := by
  induction n generalizing i with
  | zero => rfl
  | succ n ih =>
      have hlt := h.lt wf
      obtain ⟨hi, haddr⟩ := @toNat_ofNat_index base i (by omega)
      have hfirst : bus.InRam (base + BitVec.ofNat 64 i).toNat (1 : U8).toNat := by
        rw [haddr]
        exact h.sub (Nat.le_refl _) (Nat.add_le_add_left (Nat.le_add_left _ _) _)
      have hrest : bus.InRam (base.toNat + (i + 1)) n := h.sub (by omega) (by omega)
      rw [readBytes, add_bind (by rw [hi]; omega), bind_ok (dmaRead_ram wf (.inl rfl) hfirst),
        bind_ok (ih hrest), haddr, ramBytes_succ wf h]
      rw [haddr] at hfirst
      obtain ⟨b, hb⟩ := List.length_eq_one_iff.mp (length_ramBytes wf hfirst)
      change EStateM.Result.ok
        ((BitVec.ofNat 64 (leNat (bus.ramBytes (base.toNat + i) 1))).setWidth 8 ::
          bus.ramBytes (base.toNat + (i + 1)) n) bus = _
      have hbyte : bus.ramBytes (base.toNat + i) 1 = [b] := hb
      rw [hbyte, leNat_cons, leNat_nil, Nat.mul_zero, Nat.add_zero,
        setWidth_ofNat_toNat b (by decide)]
      rfl

end Following

end VirtIOBlk

end Riscvm.Rv64rs
