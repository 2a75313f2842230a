import Riscvm.Rv64rs.Disk

/-!
# Stores and their width

A store passes the whole source register to the bus, and each device takes the bytes that the
width asks for. The block device does not: a store to the low half of an address register ORs
the whole value in. What such a register holds after any sequence of stores to its halves is
the last halves stored, with the upper halves of the low stores since the last high store ORed
into the upper one.
-/

namespace Riscvm.Rv64rs

open Bits Bytes Exec

/-- The value that a store of `size` bytes passes on: the low `8 * size` bits. -/
def sized (size : U8) (value : U64) : U64 := BitVec.ofNat 64 (value.toNat % 2 ^ (8 * size.toNat))

/-- The upper half of a word. -/
def upper (value : U64) : U32 := value.extractLsb' 32 32

/-- The lower half. -/
def lower (value : U64) : U32 := value.setWidth 32

theorem sized_toNat (size : U8) (value : U64) :
    (sized size value).toNat = value.toNat % 2 ^ (8 * size.toNat) := by
  rw [sized, BitVec.toNat_ofNat]
  exact Nat.mod_eq_of_lt ((Nat.mod_le _ _).trans_lt value.isLt)

/-- No more bits than the width covers are changed. -/
theorem setWidth_sized {size : U8} {n : Nat} (h : n ≤ 8 * size.toNat) (value : U64) :
    (sized size value).setWidth n = value.setWidth n := by
  apply BitVec.eq_of_toNat_eq
  rw [BitVec.toNat_setWidth, BitVec.toNat_setWidth, sized_toNat]
  exact Nat.mod_mod_of_dvd _ (Nat.pow_dvd_pow 2 h)

theorem sized_eight (value : U64) : sized 8 value = value := by
  apply BitVec.eq_of_toNat_eq
  rw [sized_toNat]
  exact Nat.mod_eq_of_lt value.isLt

theorem leBytes_sized (size : U8) (value : U64) :
    leBytes size.toNat (sized size value).toNat = leBytes size.toNat value.toNat := by
  rw [sized_toNat, Nat.pow_mul]
  exact leBytes_mod size.toNat value.toNat

theorem upper_append (high low : U32) : upper (high ++ low) = high := by
  apply BitVec.eq_of_getLsbD_eq
  intro i hi
  simp only [upper, BitVec.getLsbD_extractLsb', BitVec.getLsbD_append, hi, decide_true,
    Bool.true_and]
  rw [if_neg (by omega), Nat.add_sub_cancel_left]

theorem lower_append (high low : U32) : lower (high ++ low) = low := by
  apply BitVec.eq_of_getLsbD_eq
  intro i hi
  simp only [lower, BitVec.getLsbD_setWidth, BitVec.getLsbD_append, hi, decide_true,
    Bool.true_and, if_true]

theorem append_halves (value : U64) : upper value ++ lower value = value := by
  apply BitVec.eq_of_getLsbD_eq
  intro i hi
  simp only [upper, lower, BitVec.getLsbD_append, BitVec.getLsbD_extractLsb',
    BitVec.getLsbD_setWidth]
  by_cases h : i < 32
  · simp [h]
  · have hsub : i - 32 < 32 := by omega
    simp [h, hsub, show 32 + (i - 32) = i by omega]

theorem toNat_append_halves (high low : U32) :
    (high ++ low : U64).toNat = high.toNat * 2 ^ 32 + low.toNat := by
  rw [BitVec.toNat_append, ← Nat.shiftLeft_add_eq_or_of_lt low.isLt, Nat.shiftLeft_eq]

theorem upper_sized (value : U64) : upper (sized 4 value) = 0 := by
  apply BitVec.eq_of_toNat_eq
  rw [upper, BitVec.extractLsb'_toNat, sized_toNat, Nat.shiftRight_eq_div_pow]
  have : value.toNat % 2 ^ (8 * (4 : U8).toNat) < 2 ^ 32 := Nat.mod_lt _ (by decide)
  rw [Nat.div_eq_of_lt this]
  rfl

theorem lower_sized (value : U64) : lower (sized 4 value) = lower value :=
  setWidth_sized (by decide) value

/-- Bits that are there already are not added by `|`. -/
theorem or_eq_left_iff {w : Nat} {x y : BitVec w} : x ||| y = x ↔ y &&& ~~~x = 0 := by
  constructor
  · intro h
    apply BitVec.eq_of_getLsbD_eq
    intro i hi
    have hbit := congrArg (fun z => z.getLsbD i) h
    simp only [BitVec.getLsbD_or] at hbit
    simp only [BitVec.getLsbD_and, BitVec.getLsbD_not, hi, decide_true, Bool.true_and]
    cases hx : x.getLsbD i <;> cases hy : y.getLsbD i <;> simp [hx, hy] at hbit ⊢
  · intro h
    apply BitVec.eq_of_getLsbD_eq
    intro i hi
    have hbit := congrArg (fun z => z.getLsbD i) h
    simp only [BitVec.getLsbD_and, BitVec.getLsbD_not, hi, decide_true, Bool.true_and] at hbit
    simp only [BitVec.getLsbD_or]
    cases hx : x.getLsbD i <;> cases hy : y.getLsbD i <;> simp [hx, hy] at hbit ⊢

namespace VirtIOBlk

theorem getLsbD_lowMask {i : Nat} (hi : i < 64) :
    (0xffffffff : U64).getLsbD i = decide (i < 32) := by
  have hmask : (0xffffffff : U64) = bit 32 - 1 := by decide
  rw [hmask, BitVec.getLsbD_eq_getElem hi]
  exact getElem_mask (by decide) hi

theorem setLow_eq (register value : U64) :
    setLow register value = (upper register ||| upper value) ++ lower value := by
  apply BitVec.eq_of_getLsbD_eq
  intro i hi
  simp only [setLow, upper, lower, BitVec.getLsbD_or, BitVec.getLsbD_and, BitVec.getLsbD_not,
    BitVec.getLsbD_append, BitVec.getLsbD_extractLsb', BitVec.getLsbD_setWidth, getLsbD_lowMask hi]
  by_cases h : i < 32
  · simp [h]
  · have hsub : i - 32 < 32 := by omega
    simp [h, hsub, hi, show 32 + (i - 32) = i by omega]

theorem setHigh_eq (register value : U64) :
    setHigh register value = lower value ++ lower register := by
  apply BitVec.eq_of_getLsbD_eq
  intro i hi
  have hmask : ((0xffffffff : Nat) : U64).getLsbD i = decide (i < 32) := getLsbD_lowMask hi
  simp only [setHigh, lower, BitVec.getLsbD_or, BitVec.getLsbD_and, BitVec.getLsbD_append,
    BitVec.getLsbD_setWidth, BitVec.getLsbD_shiftLeft, hmask]
  by_cases h : i < 32
  · simp [h]
  · have hsub : i - 32 < 32 := by omega
    simp [h, hsub, hi]

theorem setHigh_sized (register value : U64) :
    setHigh register (sized 4 value) = setHigh register value := by
  rw [setHigh_eq, setHigh_eq, lower_sized]

/-- A store to the low half is exact if its upper half adds nothing to the register. -/
theorem setLow_sized_iff (register value : U64) :
    setLow register value = setLow register (sized 4 value) ↔
      upper value &&& ~~~upper register = 0 := by
  have hzero : upper register ||| 0 = upper register := BitVec.or_zero
  rw [setLow_eq, setLow_eq, upper_sized, lower_sized, hzero, ← or_eq_left_iff]
  constructor
  · intro h
    have := congrArg upper h
    rwa [upper_append, upper_append] at this
  · intro h
    rw [h]

/-- The address registers of the queue. -/
inductive AddressRegister where
  | desc
  | avail
  | used
  deriving DecidableEq, Repr

/-- The place of the register's low half. -/
def AddressRegister.offset : AddressRegister → U64
  | .desc => 0x080
  | .avail => 0x090
  | .used => 0x0a0

/-- What an address register holds. -/
def addressOf (device : VirtIOBlk) : AddressRegister → U64
  | .desc => device.descAddr
  | .avail => device.availAddr
  | .used => device.usedAddr

def setAddress (device : VirtIOBlk) : AddressRegister → U64 → VirtIOBlk
  | .desc, value => { device with descAddr := value }
  | .avail, value => { device with availAddr := value }
  | .used, value => { device with usedAddr := value }

theorem addressOf_setAddress (device : VirtIOBlk) (r s : AddressRegister) (value : U64) :
    (device.setAddress s value).addressOf r = if s = r then value else device.addressOf r := by
  cases r <;> cases s <;> rfl

/-- A store of 4 bytes to one half of an address register. -/
structure HalfStore where
  register : AddressRegister
  high : Bool
  value : U64

/-- The place of a half. -/
def AddressRegister.half (register : AddressRegister) (high : Bool) : U64 :=
  register.offset + if high then 4 else 0

/-- The word after a store to one half of it. -/
def setHalf (word : U64) (high : Bool) (value : U64) : U64 :=
  if high then setHigh word value else setLow word value

def storeHalf (device : VirtIOBlk) (s : HalfStore) : VirtIOBlk :=
  device.setAddress s.register (setHalf (device.addressOf s.register) s.high s.value)

theorem addressOf_storeHalf (device : VirtIOBlk) (s : HalfStore) (register : AddressRegister) :
    (device.storeHalf s).addressOf register =
      if s.register = register then setHalf (device.addressOf register) s.high s.value
      else device.addressOf register := by
  rw [storeHalf, addressOf_setAddress]
  split
  · next h => rw [h]
  · rfl

/-- The half of a register that the stores leave, by the last of them to it. -/
def lastHalf (register : AddressRegister) (high : Bool) (stores : List HalfStore) (initial : U32) :
    U32 :=
  ((stores.filter fun s => s.register = register ∧ s.high = high).getLast?.map
    fun s => lower s.value).getD initial

/-- The upper halves of the stores to the low half of a register since the last one to its high
half. -/
def spilled (register : AddressRegister) (stores : List HalfStore) : U32 :=
  stores.foldl (fun bits s =>
    if s.register = register then if s.high then 0 else bits ||| upper s.value else bits) 0

theorem lastHalf_append (register : AddressRegister) (high : Bool) (stores : List HalfStore)
    (s : HalfStore) (initial : U32) :
    lastHalf register high (stores ++ [s]) initial =
      if s.register = register ∧ s.high = high then lower s.value
      else lastHalf register high stores initial := by
  unfold lastHalf
  rw [List.filter_append]
  by_cases h : s.register = register ∧ s.high = high
  · rw [if_pos h, List.filter_cons_of_pos (by simpa using h), List.filter_nil, List.getLast?_append]
    rfl
  · rw [if_neg h, List.filter_cons_of_neg (by simpa using h), List.filter_nil, List.append_nil]

theorem spilled_append (register : AddressRegister) (stores : List HalfStore) (s : HalfStore) :
    spilled register (stores ++ [s]) =
      if s.register = register then
        if s.high then 0 else spilled register stores ||| upper s.value
      else spilled register stores := by
  rw [spilled, List.foldl_append]
  rfl

/-- The halves after any sequence of stores. -/
theorem addressOf_storeHalves (device : VirtIOBlk) (stores : List HalfStore)
    (register : AddressRegister) :
    (stores.foldl storeHalf device).addressOf register =
      (lastHalf register true stores (upper (device.addressOf register)) |||
        spilled register stores) ++
        lastHalf register false stores (lower (device.addressOf register)) := by
  induction stores using List.reverseRecOn with
  | nil =>
      have hzero : upper (device.addressOf register) ||| 0 = upper (device.addressOf register) :=
        BitVec.or_zero
      change device.addressOf register = (upper _ ||| 0) ++ lower _
      rw [hzero, append_halves]
  | append_singleton stores s ih =>
      rw [List.foldl_append, List.foldl_cons, List.foldl_nil, addressOf_storeHalf, ih,
        lastHalf_append,
        lastHalf_append, spilled_append]
      by_cases hr : s.register = register
      · cases hs : s.high with
        | true =>
            have hzero : lower s.value ||| 0 = lower s.value := BitVec.or_zero
            simp only [hr, if_true, and_self, and_false, if_false, reduceCtorEq, setHalf]
            rw [hzero, setHigh_eq, lower_append]
        | false =>
            simp only [hr, if_true, and_self, and_false, if_false, Bool.false_eq_true, setHalf]
            rw [setLow_eq, upper_append, BitVec.or_assoc]
      · simp only [hr, false_and, if_false]

/-- The halves are those of the last stores unless the low stores spill into the upper one. -/
theorem addressOf_storeHalves_iff (device : VirtIOBlk) (stores : List HalfStore)
    (register : AddressRegister) :
    ((stores.foldl storeHalf device).addressOf register).toNat =
        (lastHalf register true stores (upper (device.addressOf register))).toNat * 2 ^ 32 +
          (lastHalf register false stores (lower (device.addressOf register))).toNat ↔
      spilled register stores &&&
        ~~~lastHalf register true stores (upper (device.addressOf register)) = 0 := by
  rw [addressOf_storeHalves, ← or_eq_left_iff, ← toNat_append_halves, BitVec.toNat_inj]
  constructor
  · intro h
    have := congrArg upper h
    rwa [upper_append, upper_append] at this
  · intro h
    rw [h]

end VirtIOBlk

theorem Ram.write_sized (address : U64) (size : U8) (value : U64) :
    Ram.write address size (sized size value) = Ram.write address size value := by
  unfold Ram.write
  refine congrArg _ (funext fun ram => ?_)
  dsimp only
  split
  · rw [setWidth_sized (by decide)]
  · rw [show leBytes 2 (sized 2#8 value).toNat = leBytes 2 value.toNat from leBytes_sized 2 value]
  · rw [show leBytes 4 (sized 4#8 value).toNat = leBytes 4 value.toNat from leBytes_sized 4 value]
  · rw [show leBytes 8 (sized 8#8 value).toNat = leBytes 8 value.toNat from leBytes_sized 8 value]
  · rfl

variable [Host]

theorem Clint.write_sized (address : U64) (size : U8) (value : U64) :
    Clint.write address size (sized size value) = Clint.write address size value := by
  by_cases hsize : size = 8
  · rw [hsize, sized_eight]
  · rw [Clint.write, Clint.write, if_pos hsize, if_pos hsize]

omit [Host] in
theorem Uart.write_sized (address : U64) (size : U8) (value : U64) :
    Uart.write address size (sized size value) = Uart.write address size value := by
  by_cases hsize : size = 1
  · subst hsize
    unfold Uart.write
    rw [setWidth_sized (by decide)]
  · rw [Uart.write, Uart.write, if_pos hsize, if_pos hsize]

omit [Host] in
theorem Plic.write_sized (address : U64) (size : U8) (value : U64) :
    Plic.write address size (sized size value) = Plic.write address size value := by
  by_cases hsize : size = 4
  · subst hsize
    unfold Plic.write
    rw [setWidth_sized (by decide)]
  · rw [Plic.write, Plic.write, if_pos hsize, if_pos hsize]

/-- Away from the low halves the block device uses 32 bits of the value. -/
theorem VirtIOBlk.write_sized {address : U64} {size : U8}
    (h : ¬(size = 4 ∧ ∃ register : AddressRegister, address = register.offset)) (value : U64) :
    VirtIOBlk.write address size (sized size value) = VirtIOBlk.write address size value := by
  by_cases hsize : size = 4
  · subst hsize
    have hlow (register : AddressRegister) : address ≠ register.offset :=
      fun heq => h ⟨rfl, register, heq⟩
    unfold VirtIOBlk.write
    simp only [setWidth_sized (show 32 ≤ 8 * (4 : U8).toNat by decide), setHigh_sized]
    split
    all_goals first
      | rfl
      | split <;> first
          | rfl
          | exact absurd rfl (hlow .desc)
          | exact absurd rfl (hlow .avail)
          | exact absurd rfl (hlow .used)
  · rw [VirtIOBlk.write, VirtIOBlk.write, if_pos hsize, if_pos hsize]

namespace Bus

open VirtIOBlk

/-- A store of 4 bytes reaches one half of an address register of the block device. -/
structure ReachesHalf (bus : Bus) (address : U64) (register : AddressRegister) (high : Bool) :
    Prop where
  located : bus.locate address 4 = some .virtio
  offset : bus.offset .virtio address = register.half high
  held : bus.virtio = true

/-- The store puts bits into the upper half of an address register through its lower half. -/
def Spills (bus : Bus) (address : U64) (size : U8) (value : U64) : Prop :=
  size = 4 ∧ ∃ register, bus.ReachesHalf address register false ∧
    upper value &&& ~~~upper (bus.dev.virtio.addressOf register) ≠ 0

variable {bus : Bus} {address : U64}

theorem write_half (wf : bus.Wf) {s : HalfStore} (h : bus.ReachesHalf address s.register s.high) :
    write address 4 s.value bus = .ok () (bus.withVirtio (bus.dev.virtio.storeHalf s)) := by
  rw [write, writeWith_virtio wf.bounded h.held h.located, h.offset]
  obtain ⟨register, high, value⟩ := s
  cases register <;> cases high <;> rfl

theorem write_sized_of_not_low (wf : bus.Wf) {size : U8}
    (h : ¬(size = 4 ∧ ∃ register, bus.ReachesHalf address register false)) (value : U64) :
    write address size value bus = write address size (sized size value) bus := by
  rw [write, write, writeWith_eq wf.bounded, writeWith_eq wf.bounded]
  cases hw : bus.locate address (size.setWidth 64) with
  | none => rfl
  | some w =>
      dsimp only
      cases w with
      | ram | stack | bootloader =>
          dsimp only [writeWindow]
          rw [Ram.write_sized]
      | clint =>
          dsimp only [writeWindow]
          rw [Clint.write_sized]
      | uart =>
          dsimp only [writeWindow]
          rw [Uart.write_sized]
      | plic =>
          dsimp only [writeWindow]
          rw [Plic.write_sized]
      | virtio =>
          dsimp only [writeWindow]
          rw [get_bind_apply, get_bind_apply]
          cases hheld : bus.virtio with
          | false => rfl
          | true =>
              rw [VirtIOBlk.write_sized]
              rintro ⟨rfl, register, hoffset⟩
              exact h ⟨rfl, register, hw, hoffset.trans (BitVec.add_zero _).symm, hheld⟩

/-- A store is the same as that of its low bytes unless it spills. -/
theorem write_sized_iff (wf : bus.Wf) (address : U64) (size : U8) (value : U64) :
    write address size value bus = write address size (sized size value) bus ↔
      ¬bus.Spills address size value := by
  by_cases hlow : size = 4 ∧ ∃ register, bus.ReachesHalf address register false
  · obtain ⟨rfl, register, reaches⟩ := hlow
    have hwrite (v : U64) := write_half wf (s := ⟨register, false, v⟩) reaches
    have hword (v : U64) :
        (bus.dev.virtio.storeHalf ⟨register, false, v⟩).addressOf register =
          setLow (bus.dev.virtio.addressOf register) v := by
      rw [addressOf_storeHalf, if_pos rfl, setHalf, if_neg Bool.false_ne_true]
    have hset := setLow_sized_iff (bus.dev.virtio.addressOf register) value
    have honly {register' : AddressRegister} (h : bus.ReachesHalf address register' false) :
        register' = register := by
      have := h.offset.symm.trans reaches.offset
      revert this
      cases register <;> cases register' <;> decide
    constructor
    · rintro hsame ⟨-, register', reaches', hspill⟩
      obtain rfl := honly reaches'
      rw [hwrite value, hwrite (sized 4 value)] at hsame
      have := congrArg (fun r => (finish r).dev.virtio.addressOf register') hsame
      exact hspill (hset.mp ((hword _).symm.trans (this.trans (hword _))))
    · intro h
      have hkept := hset.mpr
        (Decidable.byContradiction fun hspill => h ⟨rfl, register, reaches, hspill⟩)
      rw [hwrite value, hwrite (sized 4 value), storeHalf, storeHalf]
      dsimp only
      rw [setHalf, setHalf, if_neg Bool.false_ne_true, if_neg Bool.false_ne_true, hkept]
  · constructor
    · rintro - ⟨hsize, register, reaches, -⟩
      exact hlow ⟨hsize, register, reaches⟩
    · exact fun _ => write_sized_of_not_low wf hlow value

/-- Stores to the halves of the address registers, which lie at `place`. -/
def runStores (place : AddressRegister → Bool → U64) (stores : List HalfStore) (bus : Bus) : Bus :=
  stores.foldl (fun bus s => finish (write (place s.register s.high) 4 s.value bus)) bus

theorem runStores_eq {place : AddressRegister → Bool → U64} (wf : bus.Wf)
    (placed : ∀ register high, bus.ReachesHalf (place register high) register high)
    (stores : List HalfStore) :
    runStores place stores bus = bus.withVirtio (stores.foldl storeHalf bus.dev.virtio) := by
  induction stores using List.reverseRecOn with
  | nil => rfl
  | append_singleton stores s ih =>
      have hplaced := placed s.register s.high
      have hreaches (virtio : VirtIOBlk) :
          (bus.withVirtio virtio).ReachesHalf (place s.register s.high) s.register s.high :=
        ⟨(locate_withVirtio _ _ _ _).trans hplaced.located, hplaced.offset, hplaced.held⟩
      unfold runStores at ih ⊢
      rw [List.foldl_append, ih, List.foldl_cons, List.foldl_nil,
        write_half (wf.withVirtio _) (hreaches _),
        List.foldl_append]
      rfl

/-- A store to the bus depends on the bytes that its width covers, unless it spills through the
low half of an address register; and after any sequence of stores to the halves of the address
registers each of them is made of the halves stored last, unless the low stores since the last
high store have spilled bits that this one did not set. -/
theorem stores_sized (bus : Bus) (wf : bus.Wf) :
    (∀ (address : U64) (size : U8) (value : U64),
      write address size value bus = write address size (sized size value) bus ↔
        ¬bus.Spills address size value) ∧
    ∀ place : AddressRegister → Bool → U64,
      (∀ register high, bus.ReachesHalf (place register high) register high) →
      ∀ (stores : List HalfStore) (register : AddressRegister),
        ((runStores place stores bus).dev.virtio.addressOf register).toNat =
            (lastHalf register true stores (upper (bus.dev.virtio.addressOf register))).toNat *
              2 ^ 32 +
              (lastHalf register false stores (lower (bus.dev.virtio.addressOf register))).toNat ↔
          spilled register stores &&&
            ~~~lastHalf register true stores (upper (bus.dev.virtio.addressOf register)) = 0 := by
  refine ⟨write_sized_iff wf, fun place placed stores register => ?_⟩
  rw [runStores_eq wf placed]
  exact addressOf_storeHalves_iff bus.dev.virtio stores register

omit [Host] in
/-- A bus with a block device and nothing else. -/
def blockOnly : Bus :=
  { Bus.new .detached with virtio := true, virtioRange := ⟨0x10001000, 0x1000⟩ }

omit [Host] in
theorem wf_blockOnly : blockOnly.Wf := by
  constructor
  · intro w
    cases w <;> decide
  · intro w ram h
    cases w <;> cases h <;> rfl

omit [Host] in
theorem reachesHalf_blockOnly (register : AddressRegister) (high : Bool) :
    blockOnly.ReachesHalf (0x10001000 + register.half high) register high := by
  refine ⟨?_, ?_, rfl⟩
  · cases register <;> cases high <;> decide
  · cases register <;> cases high <;> decide

omit [Host] in
/-- A high store and then a low store of a value without upper bits leave both halves. -/
theorem stores_sized_blockOnly :
    ((@runStores .dev (fun register high => 0x10001000 + register.half high)
      [⟨.desc, true, 1⟩, ⟨.desc, false, 0x80001000⟩] blockOnly).dev.virtio.addressOf .desc).toNat =
        0x180001000 := by
  have hhalves := ((@stores_sized .dev blockOnly wf_blockOnly).2 _ reachesHalf_blockOnly
    [⟨.desc, true, 1⟩, ⟨.desc, false, 0x80001000⟩] .desc).mpr (by decide)
  have hhigh : lastHalf .desc true [⟨.desc, true, 1⟩, ⟨.desc, false, 0x80001000⟩]
      (upper (blockOnly.dev.virtio.addressOf .desc)) = 1 := by decide
  have hlow : lastHalf .desc false [⟨.desc, true, 1⟩, ⟨.desc, false, 0x80001000⟩]
      (lower (blockOnly.dev.virtio.addressOf .desc)) = 0x80001000 := by decide
  rw [hhigh, hlow] at hhalves
  exact hhalves.trans (by decide)

omit [Host] in
/-- A sign-extended value stored to the low half overwrites the high half stored before it, and is
not stored like its low 32 bits. -/
theorem low_store_spills :
    (@runStores .dev (fun register high => 0x10001000 + register.half high)
      [⟨.desc, true, 1⟩, ⟨.desc, false, 0xffffffff80001000⟩] blockOnly).dev.virtio.addressOf .desc =
        0xffffffff80001000 ∧
      @write .dev 0x10001080 4 0xffffffff80001000 blockOnly ≠
        @write .dev 0x10001080 4 (sized 4 0xffffffff80001000) blockOnly := by
  let : Host := .dev
  constructor
  · rw [runStores_eq wf_blockOnly reachesHalf_blockOnly]
    decide
  · intro hsame
    refine (write_sized_iff wf_blockOnly 0x10001080 4 0xffffffff80001000).mp hsame
      ⟨rfl, .desc, ?_, by decide⟩
    exact reachesHalf_blockOnly .desc false

end Bus

end Riscvm.Rv64rs
