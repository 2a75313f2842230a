import Riscvm.Rv64rs.Windows

/-!
# DMA into RAM

The bus has three RAM devices: RAM itself, the stack and the boot loader's memory. A byte lies
in the first window that covers it, and an access of the notified device all of whose bytes
lie in one of these memories reads and writes the bytes there. `ramBytes` and `poke` speak of
them by their physical addresses.
-/

namespace Riscvm.Rv64rs.Bus

open Bytes Exec

/-- The window in which the byte at `x` lies. -/
def windowAt (bus : Bus) (x : Nat) : Option Window :=
  Window.all.find? fun w => (bus.range w).start.toNat ≤ x ∧
    x < (bus.range w).start.toNat + (bus.range w).size.toNat

/-- The `n` bytes from `a` on lie in the memory of the window `w`. -/
structure LiesIn (bus : Bus) (w : Window) (a n : Nat) : Prop where
  memory : ∃ ram, bus.memory w = some ram
  above : (bus.range w).start.toNat ≤ a
  below : a + n ≤ (bus.range w).start.toNat + (bus.range w).size.toNat
  first : ∀ x, a ≤ x → x < a + n → bus.windowAt x = some w

/-- The `n` bytes from `a` on lie in one RAM device. -/
def InRam (bus : Bus) (a n : Nat) : Prop := ∃ w, bus.LiesIn w a n

/-- The bytes of the memory in which `x` lies. -/
def dataAt (bus : Bus) (x : Nat) : List U8 :=
  match (bus.windowAt x).bind bus.memory with
  | some ram => ram.data
  | none => []

/-- The place of `x` in its window. -/
def indexAt (bus : Bus) (x : Nat) : Nat :=
  match bus.windowAt x with
  | some w => x - (bus.range w).start.toNat
  | none => 0

/-- The bytes of RAM from `a` on. -/
def ramBytes (bus : Bus) (a n : Nat) : List U8 := extract (bus.dataAt a) (bus.indexAt a) n

/-- The byte of RAM at `a`. -/
def ramByte (bus : Bus) (a : Nat) : Option U8 := (bus.dataAt a)[bus.indexAt a]?

/-- The memory of the window `w` after `bytes` have been stored from `a` on. -/
def stored (bus : Bus) (a : Nat) (bytes : List U8) (w : Window) (ram : Ram) : Ram :=
  if bus.windowAt a = some w then ⟨splice ram.data (bus.indexAt a) bytes⟩ else ram

/-- The machine with `bytes` stored in RAM from `a` on. -/
def poke (bus : Bus) (a : Nat) (bytes : List U8) : Bus :=
  { bus with
    ram := bus.stored a bytes .ram bus.ram
    stack := bus.stored a bytes .stack bus.stack
    bootloader := bus.stored a bytes .bootloader bus.bootloader }

section Ranges

variable {bus bus' : Bus} {w : Window} {a b n : Nat}

theorem windowAt_congr (ranges : ∀ w, bus'.range w = bus.range w) (x : Nat) :
    bus'.windowAt x = bus.windowAt x := by
  rw [windowAt, windowAt]
  simp only [ranges]

theorem covers_of_windowAt {x : Nat} (h : bus.windowAt x = some w) :
    (bus.range w).start.toNat ≤ x ∧
      x < (bus.range w).start.toNat + (bus.range w).size.toNat := by
  have := List.find?_some h
  exact of_decide_eq_true this

/-- Which windows have a memory does not depend on the bus. -/
theorem exists_memory_congr (h : ∃ ram, bus.memory w = some ram) :
    ∃ ram, bus'.memory w = some ram := by
  obtain ⟨ram, h⟩ := h
  cases w with
  | ram | stack | bootloader => exact ⟨_, rfl⟩
  | clint | uart | plic | virtio => cases h

theorem LiesIn.congr (ranges : ∀ w, bus'.range w = bus.range w) (h : bus.LiesIn w a n) :
    bus'.LiesIn w a n where
  memory := exists_memory_congr h.memory
  above := ranges w ▸ h.above
  below := ranges w ▸ h.below
  first x hlow hhigh := (windowAt_congr ranges x).trans (h.first x hlow hhigh)

theorem LiesIn.sub {m : Nat} (h : bus.LiesIn w a n) (low : a ≤ b) (high : b + m ≤ a + n) :
    bus.LiesIn w b m :=
  ⟨h.memory, Nat.le_trans h.above low, Nat.le_trans high h.below, fun x hlow hhigh =>
    h.first x (Nat.le_trans low hlow) (Nat.lt_of_lt_of_le hhigh high)⟩

theorem InRam.congr (ranges : ∀ w, bus'.range w = bus.range w) (h : bus.InRam a n) :
    bus'.InRam a n :=
  h.imp fun _ h => h.congr ranges

theorem InRam.sub {m : Nat} (h : bus.InRam a n) (low : a ≤ b) (high : b + m ≤ a + n) :
    bus.InRam b m :=
  h.imp fun _ h => h.sub low high

theorem InRam.lt (wf : bus.Wf) (h : bus.InRam a n) : a + n < 2 ^ 64 := by
  obtain ⟨w, h⟩ := h
  exact Nat.lt_of_le_of_lt h.below (wf.bounded w)

/-- RAM itself is the first window that the bus tries. -/
theorem InRam.ofRam (above : bus.ramRange.start.toNat ≤ a)
    (below : a + n ≤ bus.ramRange.start.toNat + bus.ramRange.size.toNat) : bus.InRam a n := by
  refine ⟨.ram, ⟨_, rfl⟩, above, below, fun x hlow hhigh => ?_⟩
  have hcovers : (bus.range .ram).start.toNat ≤ x ∧
      x < (bus.range .ram).start.toNat + (bus.range .ram).size.toNat :=
    ⟨Nat.le_trans above hlow, Nat.lt_of_lt_of_le hhigh below⟩
  rw [windowAt, Window.all, List.find?_cons_of_pos (by exact decide_eq_true hcovers)]

/-- Behind RAM the stack comes next. -/
theorem InRam.ofStack (behind : bus.ramRange.start.toNat + bus.ramRange.size.toNat ≤ a)
    (above : bus.stackRange.start.toNat ≤ a)
    (below : a + n ≤ bus.stackRange.start.toNat + bus.stackRange.size.toNat) : bus.InRam a n := by
  refine ⟨.stack, ⟨_, rfl⟩, above, below, fun x hlow hhigh => ?_⟩
  have hout : ¬((bus.range .ram).start.toNat ≤ x ∧
      x < (bus.range .ram).start.toNat + (bus.range .ram).size.toNat) := fun h =>
    Nat.not_lt.mpr (Nat.le_trans behind hlow) h.2
  have hcovers : (bus.range .stack).start.toNat ≤ x ∧
      x < (bus.range .stack).start.toNat + (bus.range .stack).size.toNat :=
    ⟨Nat.le_trans above hlow, Nat.lt_of_lt_of_le hhigh below⟩
  rw [windowAt, Window.all, List.find?_cons_of_neg (by simpa only [decide_eq_true_eq] using hout),
    List.find?_cons_of_pos (by exact decide_eq_true hcovers)]

@[simp] theorem range_poke (bus : Bus) (a : Nat) (bytes : List U8) (w : Window) :
    (bus.poke a bytes).range w = bus.range w := by
  cases w <;> rfl

@[simp] theorem windowAt_poke (bus : Bus) (a : Nat) (bytes : List U8) (x : Nat) :
    (bus.poke a bytes).windowAt x = bus.windowAt x :=
  windowAt_congr (range_poke bus a bytes) x

@[simp] theorem poke_dev (bus : Bus) (a : Nat) (bytes : List U8) :
    (bus.poke a bytes).dev = bus.dev := rfl

theorem InRam.poke (h : bus.InRam a n) (b : Nat) (bytes : List U8) : (bus.poke b bytes).InRam a n :=
  h.congr (range_poke bus b bytes)

end Ranges

section Reads

variable {bus : Bus} {w : Window} {ram : Ram} {a b n : Nat} {bytes : List U8}

theorem dataAt_of_windowAt (h : bus.windowAt a = some w) (hm : bus.memory w = some ram) :
    bus.dataAt a = ram.data := by
  rw [dataAt, h, Option.bind_some, hm]

theorem indexAt_of_windowAt (h : bus.windowAt a = some w) :
    bus.indexAt a = a - (bus.range w).start.toNat := by
  rw [indexAt, h]

theorem ramByte_of_windowAt (h : bus.windowAt a = some w) (hm : bus.memory w = some ram) :
    bus.ramByte a = ram.data[a - (bus.range w).start.toNat]? := by
  rw [ramByte, dataAt_of_windowAt h hm, indexAt_of_windowAt h]

/-- A store changes the memory in which its first byte lies. -/
theorem memory_poke_of_windowAt (h : bus.windowAt a = some w) (hm : bus.memory w = some ram) :
    (bus.poke a bytes).memory w =
      some ⟨splice ram.data (a - (bus.range w).start.toNat) bytes⟩ := by
  rw [← indexAt_of_windowAt h]
  cases w with
  | ram | stack | bootloader => cases hm; exact congrArg some (if_pos h)
  | clint | uart | plic | virtio => cases hm

theorem memory_poke_of_ne (h : bus.windowAt a ≠ some w) :
    (bus.poke a bytes).memory w = bus.memory w := by
  cases w with
  | ram | stack | bootloader => exact congrArg some (if_neg h)
  | clint | uart | plic | virtio => rfl

theorem poke_of_windowAt (h : bus.windowAt a = some w) (hm : bus.memory w = some ram) :
    bus.poke a bytes =
      bus.setMemory w ⟨splice ram.data (a - (bus.range w).start.toNat) bytes⟩ := by
  rw [poke, ← indexAt_of_windowAt h]
  cases w with
  | ram | stack | bootloader =>
      cases hm
      simp only [stored, h, Option.some.injEq, reduceCtorEq, if_true, if_false, setMemory]
  | clint | uart | plic | virtio => cases hm

theorem setMemory_setMemory (bus : Bus) (w : Window) (ram ram' : Ram) :
    (bus.setMemory w ram).setMemory w ram' = bus.setMemory w ram' := by
  cases w <;> rfl

/-- Bytes that lie in one memory are found there, and its window holds them. -/
theorem InRam.found (wf : bus.Wf) (h : bus.InRam a (n + 1)) : ∃ w ram, bus.memory w = some ram ∧
    (∀ x, a ≤ x → x < a + (n + 1) → bus.windowAt x = some w) ∧
    (bus.range w).start.toNat ≤ a ∧
    a - (bus.range w).start.toNat + (n + 1) ≤ ram.data.length := by
  obtain ⟨w, h⟩ := h
  obtain ⟨ram, hm⟩ := h.memory
  have habove := h.above
  have hbelow := h.below
  refine ⟨w, ram, hm, h.first, habove, ?_⟩
  rw [wf.length w ram hm]
  omega

@[simp] theorem ramBytes_zero (bus : Bus) (a : Nat) : bus.ramBytes a 0 = [] := by
  rw [ramBytes, extract, List.take_zero]

/-- Bytes next to each other in RAM. -/
theorem indexAt_add (wf : bus.Wf) {k : Nat} (h : bus.InRam a n) (hk : k < n) :
    bus.dataAt (a + k) = bus.dataAt a ∧ bus.indexAt (a + k) = bus.indexAt a + k := by
  obtain ⟨m, rfl⟩ : ∃ m, n = m + 1 := ⟨n - 1, by omega⟩
  obtain ⟨w, ram, hm, hfirst, habove, -⟩ := h.found wf
  have hwa := hfirst a (Nat.le_refl a) (by omega)
  have hwk := hfirst (a + k) (by omega) (by omega)
  rw [dataAt_of_windowAt hwa hm, dataAt_of_windowAt hwk hm, indexAt_of_windowAt hwa,
    indexAt_of_windowAt hwk]
  exact ⟨rfl, by omega⟩

/-- RAM holds all the bytes of its window. -/
theorem InRam.index_le (wf : bus.Wf) (h : bus.InRam a (n + 1)) :
    bus.indexAt a + (n + 1) ≤ (bus.dataAt a).length := by
  obtain ⟨w, ram, hm, hfirst, -, hle⟩ := h.found wf
  have hwa := hfirst a (Nat.le_refl a) (by omega)
  rwa [dataAt_of_windowAt hwa hm, indexAt_of_windowAt hwa]

theorem length_ramBytes (wf : bus.Wf) (h : bus.InRam a n) : (bus.ramBytes a n).length = n := by
  cases n with
  | zero => rw [ramBytes_zero, List.length_nil]
  | succ n => exact length_extract (h.index_le wf)

/-- Byte `k` of an area of RAM. -/
theorem getElem?_ramBytes (wf : bus.Wf) {k : Nat} (h : bus.InRam a n) (hk : k < n) :
    (bus.ramBytes a n)[k]? = bus.ramByte (a + k) := by
  obtain ⟨hdata, hindex⟩ := indexAt_add wf h hk
  rw [ramBytes, getElem?_extract hk, ramByte, hdata, hindex]

/-- One byte and those behind it. -/
theorem ramBytes_succ (wf : bus.Wf) (h : bus.InRam a (n + 1)) :
    bus.ramBytes a (n + 1) = bus.ramBytes a 1 ++ bus.ramBytes (a + 1) n := by
  have hindex := h.index_le wf
  cases n with
  | zero => rw [ramBytes_zero, List.append_nil]
  | succ n =>
      obtain ⟨hdata, hnext⟩ := indexAt_add wf h (show 1 < n + 1 + 1 by omega)
      rw [ramBytes, ramBytes, ramBytes, hdata, hnext, extract, extract, extract,
        List.drop_eq_getElem_cons (by omega), List.take_succ_cons, List.take_succ_cons,
        List.take_zero]
      rfl

/-- Storing nothing changes nothing. -/
@[simp] theorem poke_nil (bus : Bus) (a : Nat) : bus.poke a [] = bus := by
  have hstored (w : Window) (ram : Ram) : bus.stored a [] w ram = ram := by
    rw [stored, splice, List.append_nil, List.length_nil, Nat.add_zero, List.take_append_drop]
    exact ite_self ram
  rw [poke, hstored, hstored, hstored]

theorem Wf.poke (wf : bus.Wf) (h : bus.InRam a bytes.length) : (bus.poke a bytes).Wf := by
  cases bytes with
  | nil => rwa [poke_nil]
  | cons byte bytes =>
      obtain ⟨w, ram, hm, hfirst, -, hle⟩ := h.found wf
      rw [poke_of_windowAt (hfirst a (Nat.le_refl a) (by omega)) hm]
      exact wf.setMemory hm (length_splice hle)

theorem ramByte_poke_of_ne (h : bus.windowAt b ≠ bus.windowAt a) :
    (bus.poke a bytes).ramByte b = bus.ramByte b := by
  have hdata : (bus.poke a bytes).dataAt b = bus.dataAt b := by
    rw [dataAt, dataAt, windowAt_poke]
    cases hb : bus.windowAt b with
    | none => rfl
    | some w =>
        rw [Option.bind_some, Option.bind_some, memory_poke_of_ne fun ha => h (hb.trans ha.symm)]
  have hindex : (bus.poke a bytes).indexAt b = bus.indexAt b := by
    rw [indexAt, indexAt, windowAt_poke]
    simp only [range_poke]
  rw [ramByte, ramByte, hdata, hindex]

/-- A store changes the bytes it covers. -/
theorem ramByte_poke (wf : bus.Wf) (h : bus.InRam a bytes.length) (b : Nat) :
    (bus.poke a bytes).ramByte b =
      if a ≤ b ∧ b < a + bytes.length then bytes[b - a]? else bus.ramByte b := by
  cases bytes with
  | nil => rw [poke_nil, if_neg (by rw [List.length_nil]; omega)]
  | cons byte bytes =>
      obtain ⟨w, ram, hm, hfirst, habove, hle⟩ := h.found wf
      have hwa := hfirst a (Nat.le_refl a) (by omega)
      by_cases hwb : bus.windowAt b = some w
      · -- the byte lies in the memory that is stored to
        have hb := (covers_of_windowAt hwb).1
        rw [ramByte_of_windowAt ((windowAt_poke ..).trans hwb) (memory_poke_of_windowAt hwa hm),
          ramByte_of_windowAt hwb hm, range_poke, getElem?_splice hle]
        have hcover : (a - (bus.range w).start.toNat ≤ b - (bus.range w).start.toNat ∧
            b - (bus.range w).start.toNat <
              a - (bus.range w).start.toNat + (byte :: bytes).length) ↔
            (a ≤ b ∧ b < a + (byte :: bytes).length) := by omega
        have hindex : b - (bus.range w).start.toNat - (a - (bus.range w).start.toNat) =
            b - a := by omega
        simp only [hcover, hindex]
      · rw [ramByte_poke_of_ne fun hab => hwb (hab.trans hwa), if_neg fun hin =>
          hwb (hfirst b hin.1 hin.2)]

/-- A store leaves a memory alone in which none of its bytes lies. -/
theorem memory_poke
    (apart : ∀ x, a ≤ x → x < a + bytes.length → bus.windowAt x ≠ some w) :
    (bus.poke a bytes).memory w = bus.memory w := by
  cases bytes with
  | nil => rw [poke_nil]
  | cons byte bytes =>
      exact memory_poke_of_ne (apart a (Nat.le_refl a) (Nat.lt_add_of_pos_right (Nat.succ_pos _)))

/-- Two adjacent stores are one. -/
theorem poke_poke (wf : bus.Wf) {bytes' : List U8}
    (h : bus.InRam a (bytes.length + bytes'.length)) :
    (bus.poke a bytes).poke (a + bytes.length) bytes' = bus.poke a (bytes ++ bytes') := by
  cases bytes with
  | nil => rw [poke_nil]; rfl
  | cons byte bytes =>
      cases bytes' with
      | nil => rw [poke_nil, List.append_nil]
      | cons byte' bytes' =>
          have hlength : (byte :: bytes).length = bytes.length + 1 := rfl
          have hlengths : (byte :: bytes).length + (byte' :: bytes').length =
              bytes.length + bytes'.length + 1 + 1 := by
            rw [List.length_cons, List.length_cons]
            omega
          rw [hlengths] at h
          obtain ⟨w, ram, hm, hfirst, habove, hle⟩ := h.found wf
          have hwa := hfirst a (Nat.le_refl a) (by omega)
          have hwb : (bus.poke a (byte :: bytes)).windowAt (a + (byte :: bytes).length) =
              some w := by
            rw [windowAt_poke, List.length_cons]
            exact hfirst _ (by omega) (by omega)
          have hm' := @memory_poke_of_windowAt bus w ram a (byte :: bytes) hwa hm
          have hsum : a + (byte :: bytes).length - (bus.range w).start.toNat =
              a - (bus.range w).start.toNat + (byte :: bytes).length := by omega
          rw [poke_of_windowAt hwb hm', poke_of_windowAt hwa hm, poke_of_windowAt hwa hm,
            setMemory_setMemory, range_setMemory, hsum, splice_splice (by omega)]

end Reads

variable [Host] {bus : Bus}

omit [Host] in
/-- The first window to cover a byte is the first to contain the whole access. -/
theorem LiesIn.locate {w : Window} {address n : U64} (h : bus.LiesIn w address.toNat n.toNat)
    (hn : 0 < n.toNat) : bus.locate address n = some w := by
  have hcontains : (bus.range w).Contains address n := ⟨BitVec.le_def.mpr h.above, h.below⟩
  have hfirst := h.first address.toNat (Nat.le_refl _) (Nat.lt_add_of_pos_right hn)
  rw [windowAt, List.find?_eq_some_iff_append] at hfirst
  obtain ⟨-, before, after, hall, hbefore⟩ := hfirst
  rw [Bus.locate, List.find?_eq_some_iff_append]
  refine ⟨decide_eq_true hcontains, before, after, hall, fun v hv => ?_⟩
  have hnot := hbefore v hv
  rw [Bool.not_eq_true', decide_eq_false_iff_not] at hnot ⊢
  rintro ⟨hlow, hhigh⟩
  exact hnot ⟨BitVec.le_def.mp hlow, by omega⟩

omit [Host] in
theorem width_pos {size : U8} (width : Ram.Width size) : 0 < size.toNat := by
  rcases width with rfl | rfl | rfl | rfl <;> decide

omit [Host] in
/-- An access to bytes that lie in one memory is dispatched to it. -/
theorem InRam.located {address : U64} {size : U8} (width : Ram.Width size)
    (h : bus.InRam address.toNat size.toNat) : ∃ w ram, bus.memory w = some ram ∧
      bus.windowAt address.toNat = some w ∧ bus.locate address (size.setWidth 64) = some w := by
  have hsize : (size.setWidth 64).toNat = size.toNat := BitVec.toNat_setWidth_of_le (by decide)
  have hpos := width_pos width
  obtain ⟨w, h⟩ := h
  obtain ⟨ram, hm⟩ := h.memory
  refine ⟨w, ram, hm, h.first _ (Nat.le_refl _) (Nat.lt_add_of_pos_right hpos), ?_⟩
  exact LiesIn.locate (hsize.symm ▸ h) (hsize.symm ▸ hpos)

/-- What the device reads from RAM. -/
theorem dmaRead_ram (wf : bus.Wf) {address : U64} {size : U8} (width : Ram.Width size)
    (h : bus.InRam address.toNat size.toNat) :
    dmaRead address size bus =
      .ok (BitVec.ofNat 64 (leNat (bus.ramBytes address.toNat size.toNat))) bus := by
  obtain ⟨w, ram, hm, hwa, hlocate⟩ := h.located width
  rw [dmaRead, readAt_memory wf width hlocate hm, offset_toNat (contains_of_locate hlocate),
    ramBytes, dataAt_of_windowAt hwa hm, indexAt_of_windowAt hwa]

/-- What the device writes to RAM. -/
theorem dmaWrite_ram (wf : bus.Wf) {address : U64} {size : U8} (width : Ram.Width size)
    (h : bus.InRam address.toNat size.toNat) (value : U64) :
    dmaWrite address size value bus =
      .ok () (bus.poke address.toNat (leBytes size.toNat value.toNat)) := by
  obtain ⟨w, ram, hm, hwa, hlocate⟩ := h.located width
  rw [dmaWrite, writeWith_memory wf width hlocate hm, offset_toNat (contains_of_locate hlocate),
    poke_of_windowAt hwa hm]

end Riscvm.Rv64rs.Bus
