import Riscvm.Rv64rs.Bus

/-!
# Windows and cells

The bus gives an access to the first window that contains all of it. `locate` is this
choice, and a cell is a place in a window: the byte at a physical address lives in the
cell that a one-byte access would reach. What memory holds is a function of cells.
-/

namespace Riscvm.Rv64rs

open Bytes Exec

/-- The seven windows of a bus. -/
inductive Window where
  | ram
  | stack
  | bootloader
  | clint
  | uart
  | plic
  | virtio
  deriving DecidableEq, Repr

/-- The windows in the order in which `read` and `write` try them. -/
def Window.all : List Window := [.ram, .stack, .bootloader, .clint, .uart, .plic, .virtio]

/-- All `n` bytes from `address` on lie in the range. -/
def Range.Contains (range : Range) (address n : U64) : Prop :=
  range.start ≤ address ∧ address.toNat + n.toNat ≤ range.start.toNat + range.size.toNat

instance (range : Range) (address n : U64) : Decidable (range.Contains address n) :=
  inferInstanceAs (Decidable (_ ∧ _))

theorem Range.contains_apply [Host] {σ : Type} {range : Range}
    (bounded : range.start.toNat + range.size.toNat < 2 ^ 64) (address n : U64) :
    (range.contains address n : Call σ Bool) = pure (decide (range.Contains address n)) := by
  unfold Range.contains checkedAdd Range.Contains
  by_cases hstart : range.start ≤ address
  · by_cases hsum : address.toNat + n.toNat < 2 ^ 64
    · have hstop : (address + n ≤ range.start + range.size) ↔
          address.toNat + n.toNat ≤ range.start.toNat + range.size.toNat := by
        rw [BitVec.le_def, BitVec.toNat_add, BitVec.toNat_add, Nat.mod_eq_of_lt hsum,
          Nat.mod_eq_of_lt bounded]
      simp only [if_pos hsum, hstart, if_true, add_of_lt bounded, pure_bind, hstop, true_and]
    · have hout : ¬address.toNat + n.toNat ≤ range.start.toNat + range.size.toNat := by omega
      simp only [if_neg hsum, hout, and_false, decide_false]
  · by_cases hsum : address.toNat + n.toNat < 2 ^ 64
    · simp only [if_pos hsum, hstart, if_false, false_and, decide_false]
    · simp only [if_neg hsum, hstart, false_and, decide_false]

namespace Bus

def range (bus : Bus) : Window → Range
  | .ram => bus.ramRange
  | .stack => bus.stackRange
  | .bootloader => bus.bootloaderRange
  | .clint => bus.clintRange
  | .uart => bus.uartRange
  | .plic => bus.plicRange
  | .virtio => bus.virtioRange

theorem range_ram (bus : Bus) : bus.range .ram = bus.ramRange := rfl

theorem range_stack (bus : Bus) : bus.range .stack = bus.stackRange := rfl

theorem range_bootloader (bus : Bus) : bus.range .bootloader = bus.bootloaderRange := rfl

theorem range_clint (bus : Bus) : bus.range .clint = bus.clintRange := rfl

theorem range_uart (bus : Bus) : bus.range .uart = bus.uartRange := rfl

theorem range_plic (bus : Bus) : bus.range .plic = bus.plicRange := rfl

theorem range_virtio (bus : Bus) : bus.range .virtio = bus.virtioRange := rfl

/-- The memory behind a window; a device has none. -/
def memory (bus : Bus) : Window → Option Ram
  | .ram => some bus.ram
  | .stack => some bus.stack
  | .bootloader => some bus.bootloader
  | .clint | .uart | .plic | .virtio => none

/-- The bus holds what serves the window. -/
def holds (bus : Bus) : Window → Bool
  | .ram | .stack | .bootloader => true
  | .clint => bus.clint
  | .uart => bus.uart
  | .plic => bus.plic
  | .virtio => bus.virtio

/-- The windows end within the address space, and a window of memory is as long as the
memory: what the `set_` methods establish. -/
structure Wf (bus : Bus) : Prop where
  bounded : ∀ w, (bus.range w).start.toNat + (bus.range w).size.toNat < 2 ^ 64
  length : ∀ w ram, bus.memory w = some ram → ram.data.length = (bus.range w).size.toNat

/-- The window that serves an access of `n` bytes. -/
def locate (bus : Bus) (address n : U64) : Option Window :=
  Window.all.find? fun w => (bus.range w).Contains address n

/-- The place of `address` in the window `w`. -/
def offset (bus : Bus) (w : Window) (address : U64) : U64 := address - (bus.range w).start

theorem contains_of_locate {bus : Bus} {address n : U64} {w : Window}
    (h : bus.locate address n = some w) : (bus.range w).Contains address n := by
  have := List.find?_some h
  exact of_decide_eq_true this

theorem offset_toNat {bus : Bus} {address n : U64} {w : Window}
    (h : (bus.range w).Contains address n) :
    (bus.offset w address).toNat = address.toNat - (bus.range w).start.toNat :=
  BitVec.toNat_sub_of_le h.1

variable [Host]

/-- A read that has reached the window `w`. -/
def readWindow (borrowed : Bool) (w : Window) (offset : U64) (size : U8) : Call Bus U64 := do
  let bus ← get
  match w with
  | .ram => onRam (Ram.read offset size)
  | .stack => onStack (Ram.read offset size)
  | .bootloader => onBootloader (Ram.read offset size)
  | .clint =>
      unwrap bus.clint
      onClint (Clint.read offset size)
  | .uart =>
      unwrap bus.uart
      onUart (Uart.read offset size)
  | .plic =>
      unwrap bus.plic
      bus.dev.plic.read (lineStatus bus.dev borrowed) offset size
  | .virtio =>
      unwrap bus.virtio
      if borrowed then panic .alreadyBorrowed else onVirtio (VirtIOBlk.read offset size)

/-- A write that has reached the window `w`. -/
def writeWindow (virtioWrite : U64 → U8 → U64 → Call Bus Unit) (w : Window) (offset : U64)
    (size : U8) (value : U64) : Call Bus Unit := do
  let bus ← get
  match w with
  | .ram => onRam (Ram.write offset size value)
  | .stack => onStack (Ram.write offset size value)
  | .bootloader => onBootloader (Ram.write offset size value)
  | .clint =>
      unwrap bus.clint
      onClint (Clint.write offset size value)
  | .uart =>
      unwrap bus.uart
      onUart (Uart.write offset size value)
  | .plic =>
      unwrap bus.plic
      onPlic (Plic.write offset size value)
  | .virtio =>
      unwrap bus.virtio
      virtioWrite offset size value

section Dispatch

variable {bus : Bus} {address n : U64} {α : Type}

omit [Host] in
theorem foldr_ite (p : Window → Prop) [DecidablePred p] (k : Window → α) (miss : α) :
    ∀ ws : List Window, ws.foldr (fun w rest => if p w then k w else rest) miss =
      match ws.find? fun w => p w with
      | some w => k w
      | none => miss
  | [] => rfl
  | w :: ws => by
      have ih := foldr_ite p k miss ws
      by_cases hw : p w
      · simp [hw]
      · simpa [hw] using ih

/-- Testing the windows one after another finds the one that `locate` names. -/
theorem dispatch_eq
    (bounded : ∀ w, (bus.range w).start.toNat + (bus.range w).size.toNat < 2 ^ 64)
    (address n : U64) (k : Window → Call Bus α) (mmio miss : Call Bus α)
    (hmmio : mmio bus =
      (do
        if ← bus.bootloaderRange.contains address n then k .bootloader
        else if ← bus.clintRange.contains address n then k .clint
        else if ← bus.uartRange.contains address n then k .uart
        else if ← bus.plicRange.contains address n then k .plic
        else if ← bus.virtioRange.contains address n then k .virtio
        else miss : Call Bus α) bus) :
    (do
      if ← bus.ramRange.contains address n then k .ram
      else if ← bus.stackRange.contains address n then k .stack
      else mmio : Call Bus α) bus =
      match bus.locate address n with
      | some w => k w bus
      | none => miss bus := by
  have hcontains (w : Window) : ((bus.range w).contains address n : Call Bus Bool) =
      pure (decide ((bus.range w).Contains address n)) :=
    Range.contains_apply (bounded w) _ _
  simp only [← range_ram, ← range_stack, ← range_bootloader, ← range_clint, ← range_uart,
    ← range_plic, ← range_virtio, hcontains, pure_bind, decide_eq_true_eq] at hmmio ⊢
  have hfind := foldr_ite (fun w => (bus.range w).Contains address n) (fun w => k w bus) (miss bus)
    Window.all
  refine Eq.trans ?_ hfind
  simp only [run_ite] at hmmio ⊢
  rw [hmmio]
  rfl

theorem sub_start {w : Window} (h : (bus.range w).Contains address n) :
    (sub address (bus.range w).start : Call Bus U64) = pure (bus.offset w address) :=
  sub_of_le (BitVec.le_def.mp h.1)

/-- A read goes to the window it is located in. -/
theorem readAt_eq (bounded : ∀ w, (bus.range w).start.toNat + (bus.range w).size.toNat < 2 ^ 64)
    (borrowed : Bool) (size : U8) :
    readAt borrowed address size bus =
      match bus.locate address (size.setWidth 64) with
      | some w => readWindow borrowed w (bus.offset w address) size bus
      | none => .error (.err .noDevice) bus := by
  have hread := dispatch_eq bounded address (size.setWidth 64) (fun w => do
      match w with
      | .ram => onRam (Ram.read (← sub address (bus.range .ram).start) size)
      | .stack => onStack (Ram.read (← sub address (bus.range .stack).start) size)
      | .bootloader => onBootloader (Ram.read (← sub address (bus.range .bootloader).start) size)
      | .clint =>
          unwrap bus.clint
          onClint (Clint.read (← sub address (bus.range .clint).start) size)
      | .uart =>
          unwrap bus.uart
          onUart (Uart.read (← sub address (bus.range .uart).start) size)
      | .plic =>
          unwrap bus.plic
          bus.dev.plic.read (lineStatus bus.dev borrowed) (← sub address (bus.range .plic).start)
            size
      | .virtio =>
          unwrap bus.virtio
          if borrowed then panic .alreadyBorrowed
          else onVirtio (VirtIOBlk.read (← sub address (bus.range .virtio).start) size))
    (readMmio borrowed address size) (error .noDevice) rfl
  refine hread.trans ?_
  cases hw : bus.locate address (size.setWidth 64) with
  | none => rfl
  | some w =>
      have hsub := sub_start (contains_of_locate hw)
      cases w <;> simp only [hsub, pure_bind] <;> rfl

/-- A write goes to the window it is located in. -/
theorem writeWith_eq (bounded : ∀ w, (bus.range w).start.toNat + (bus.range w).size.toNat < 2 ^ 64)
    (virtioWrite : U64 → U8 → U64 → Call Bus Unit) (size : U8) (value : U64) :
    writeWith virtioWrite address size value bus =
      match bus.locate address (size.setWidth 64) with
      | some w => writeWindow virtioWrite w (bus.offset w address) size value bus
      | none => .error (.err .noDevice) bus := by
  have hwrite := dispatch_eq bounded address (size.setWidth 64) (fun w => do
      match w with
      | .ram => onRam (Ram.write (← sub address (bus.range .ram).start) size value)
      | .stack => onStack (Ram.write (← sub address (bus.range .stack).start) size value)
      | .bootloader =>
          onBootloader (Ram.write (← sub address (bus.range .bootloader).start) size value)
      | .clint =>
          unwrap bus.clint
          onClint (Clint.write (← sub address (bus.range .clint).start) size value)
      | .uart =>
          unwrap bus.uart
          onUart (Uart.write (← sub address (bus.range .uart).start) size value)
      | .plic =>
          unwrap bus.plic
          onPlic (Plic.write (← sub address (bus.range .plic).start) size value)
      | .virtio =>
          unwrap bus.virtio
          virtioWrite (← sub address (bus.range .virtio).start) size value)
    (writeMmio virtioWrite address size value) (error .noDevice) rfl
  refine hwrite.trans ?_
  cases hw : bus.locate address (size.setWidth 64) with
  | none => rfl
  | some w =>
      have hsub := sub_start (contains_of_locate hw)
      cases w <;> simp only [hsub, pure_bind] <;> rfl

/-- A write that has reached the block device. -/
theorem writeWith_virtio
    (bounded : ∀ w, (bus.range w).start.toNat + (bus.range w).size.toNat < 2 ^ 64)
    (held : bus.virtio = true) {virtioWrite : U64 → U8 → U64 → Call Bus Unit} {size : U8}
    (located : bus.locate address (size.setWidth 64) = some .virtio) (value : U64) :
    writeWith virtioWrite address size value bus =
      virtioWrite (bus.offset .virtio address) size value bus := by
  rw [writeWith_eq bounded, located]
  dsimp only [writeWindow]
  rw [get_bind_apply, held]
  rfl

end Dispatch

/-- The bus with the memory behind `w` replaced. -/
def setMemory (bus : Bus) (w : Window) (ram : Ram) : Bus :=
  match w with
  | .ram => { bus with ram }
  | .stack => { bus with stack := ram }
  | .bootloader => { bus with bootloader := ram }
  | .clint | .uart | .plic | .virtio => bus

/-- What memory holds in a cell. -/
def contents (bus : Bus) (c : Window × Nat) : Option U8 :=
  (bus.memory c.1).bind fun ram => ram.data[c.2]?

/-- The cell of byte `i` of an access of `n` bytes. -/
def accessCell (bus : Bus) (address n : U64) (i : Nat) : Option (Window × Nat) :=
  (bus.locate address n).map fun w => (w, (bus.offset w address).toNat + i)

/-- The cell of the byte at a physical address. -/
def cell (bus : Bus) (address : U64) : Option (Window × Nat) := bus.accessCell address 1 0

/-- The byte that memory holds at a physical address. -/
def byteAt (bus : Bus) (address : U64) : Option U8 := (bus.cell address).bind bus.contents

section Memory

variable {bus : Bus} {address : U64} {size : U8} {w : Window} {ram ram' : Ram}

omit [Host] in
@[simp] theorem range_setMemory (bus : Bus) (w v : Window) (ram : Ram) :
    (bus.setMemory w ram).range v = bus.range v := by
  cases w <;> cases v <;> rfl

omit [Host] in
@[simp] theorem locate_setMemory (bus : Bus) (w : Window) (ram : Ram) (address n : U64) :
    (bus.setMemory w ram).locate address n = bus.locate address n := by
  simp only [locate, range_setMemory]

omit [Host] in
@[simp] theorem accessCell_setMemory (bus : Bus) (w : Window) (ram : Ram) (address n : U64)
    (i : Nat) : (bus.setMemory w ram).accessCell address n i = bus.accessCell address n i := by
  simp only [accessCell, offset, locate_setMemory, range_setMemory]

omit [Host] in
theorem memory_setMemory (hm : bus.memory w = some ram) (v : Window) :
    (bus.setMemory w ram').memory v = if v = w then some ram' else bus.memory v := by
  cases w <;> cases hm <;> cases v <;> rfl

omit [Host] in
theorem contents_setMemory (hm : bus.memory w = some ram) (c : Window × Nat) :
    (bus.setMemory w ram').contents c = if c.1 = w then ram'.data[c.2]? else bus.contents c := by
  rw [contents, memory_setMemory hm]
  by_cases hc : c.1 = w
  · rw [if_pos hc, if_pos hc, Option.bind_some]
  · rw [if_neg hc, if_neg hc]
    rfl

omit [Host] in
theorem Wf.setMemory (wf : bus.Wf) (hm : bus.memory w = some ram)
    (length : ram'.data.length = ram.data.length) : (bus.setMemory w ram').Wf := by
  constructor
  · intro v
    rw [range_setMemory]
    exact wf.bounded v
  · intro v r hr
    rw [memory_setMemory hm] at hr
    rw [range_setMemory]
    by_cases hv : v = w
    · rw [if_pos hv] at hr
      cases hr
      rw [length, hv, wf.length w ram hm]
    · rw [if_neg hv] at hr
      exact wf.length v r hr

omit [Host] in
/-- An access that is located in memory stays within its bytes. -/
theorem Wf.offset_add_le (wf : bus.Wf) (hw : bus.locate address (size.setWidth 64) = some w)
    (hm : bus.memory w = some ram) :
    (bus.offset w address).toNat + size.toNat ≤ ram.data.length := by
  have hin := contains_of_locate hw
  have hsize : (size.setWidth 64).toNat = size.toNat :=
    BitVec.toNat_setWidth_of_le (by decide)
  have hstart := BitVec.le_def.mp hin.1
  have hstop := hin.2
  rw [offset_toNat hin, wf.length w ram hm]
  omega

theorem readWindow_memory (hm : bus.memory w = some ram) {offset : U64} {v : U64}
    (h : Ram.read offset size ram = .ok v ram) (borrowed : Bool) :
    readWindow borrowed w offset size bus = .ok v bus := by
  cases w with
  | ram => cases hm; exact (zoom_ok h : onRam _ bus = _)
  | stack => cases hm; exact (zoom_ok h : onStack _ bus = _)
  | bootloader => cases hm; exact (zoom_ok h : onBootloader _ bus = _)
  | clint | uart | plic | virtio => cases hm

theorem writeWindow_memory (hm : bus.memory w = some ram) {offset value : U64} {u : Unit}
    (h : Ram.write offset size value ram = .ok u ram')
    (virtioWrite : U64 → U8 → U64 → Call Bus Unit) :
    writeWindow virtioWrite w offset size value bus = .ok u (bus.setMemory w ram') := by
  cases w with
  | ram => cases hm; exact (zoom_ok h : onRam _ bus = _)
  | stack => cases hm; exact (zoom_ok h : onStack _ bus = _)
  | bootloader => cases hm; exact (zoom_ok h : onBootloader _ bus = _)
  | clint | uart | plic | virtio => cases hm

/-- What a read of memory returns. -/
theorem readAt_memory (wf : bus.Wf) (width : Ram.Width size)
    (hw : bus.locate address (size.setWidth 64) = some w) (hm : bus.memory w = some ram)
    (borrowed : Bool) :
    readAt borrowed address size bus =
      .ok (BitVec.ofNat 64 (leNat (extract ram.data (bus.offset w address).toNat size.toNat)))
        bus := by
  rw [readAt_eq wf.bounded, hw]
  exact readWindow_memory hm (Ram.read_ok width (wf.offset_add_le hw hm)) borrowed

/-- What a write to memory leaves. -/
theorem writeWith_memory (wf : bus.Wf) (width : Ram.Width size)
    (hw : bus.locate address (size.setWidth 64) = some w) (hm : bus.memory w = some ram)
    (virtioWrite : U64 → U8 → U64 → Call Bus Unit) (value : U64) :
    writeWith virtioWrite address size value bus =
      .ok () (bus.setMemory w
        ⟨splice ram.data (bus.offset w address).toNat (leBytes size.toNat value.toNat)⟩) := by
  rw [writeWith_eq wf.bounded, hw]
  exact writeWindow_memory hm (Ram.write_ok width (wf.offset_add_le hw hm) value) virtioWrite

omit [Host] in
theorem accessCell_of_locate (hw : bus.locate address (size.setWidth 64) = some w) (i : Nat) :
    bus.accessCell address (size.setWidth 64) i =
      some (w, (bus.offset w address).toNat + i) := by
  rw [accessCell, hw, Option.map_some]

omit [Host] in
theorem contents_of_memory (hm : bus.memory w = some ram) (k : Nat) :
    bus.contents (w, k) = ram.data[k]? := by
  rw [contents, hm, Option.bind_some]

/-- Byte `i` of what is read is what its cell holds. -/
theorem contents_of_read (wf : bus.Wf) (width : Ram.Width size)
    (hw : bus.locate address (size.setWidth 64) = some w) (hm : bus.memory w = some ram)
    {borrowed : Bool} {v : U64} {t : Bus} (h : readAt borrowed address size bus = .ok v t) {i : Nat}
    (hi : i < size.toNat) :
    bus.contents (w, (bus.offset w address).toNat + i) = some (byteOf v i) := by
  have hlen := wf.offset_add_le hw hm
  rw [readAt_memory wf width hw hm] at h
  cases h
  rw [contents_of_memory hm]
  have hbyte : (extract ram.data (bus.offset w address).toNat size.toNat)[i]? =
      ram.data[(bus.offset w address).toNat + i]? := getElem?_extract hi
  have hsome : (bus.offset w address).toNat + i < ram.data.length := by omega
  rw [List.getElem?_eq_getElem hsome] at hbyte ⊢
  rw [byteOf_ofNat_leNat _ hbyte]
  rw [length_extract hlen]
  rcases width with rfl | rfl | rfl | rfl <;> decide

/-- A write changes the cells of its bytes and no others. -/
theorem contents_of_write (wf : bus.Wf) (width : Ram.Width size)
    (hw : bus.locate address (size.setWidth 64) = some w) (hm : bus.memory w = some ram)
    {virtioWrite : U64 → U8 → U64 → Call Bus Unit} {value : U64} {u : Unit} {t : Bus}
    (h : writeWith virtioWrite address size value bus = .ok u t) (c : Window × Nat) :
    t.contents c =
      if c.1 = w ∧ (bus.offset w address).toNat ≤ c.2 ∧
          c.2 < (bus.offset w address).toNat + size.toNat then
        some (byteOf value (c.2 - (bus.offset w address).toNat))
      else bus.contents c := by
  have hlen := wf.offset_add_le hw hm
  rw [writeWith_memory wf width hw hm] at h
  cases h
  rw [contents_setMemory hm]
  by_cases hc : c.1 = w
  · simp only [hc, true_and, if_true]
    rw [getElem?_splice (by rwa [leBytes_length]), leBytes_length]
    by_cases hin : (bus.offset w address).toNat ≤ c.2 ∧
        c.2 < (bus.offset w address).toNat + size.toNat
    · rw [if_pos hin, if_pos hin, getElem?_leBytes_toNat]
      omega
    · rw [if_neg hin, if_neg hin, contents, hc, hm, Option.bind_some]
  · rw [if_neg hc, if_neg (fun h => hc h.1)]

end Memory

end Bus

end Riscvm.Rv64rs
