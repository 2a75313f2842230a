import Riscvm.Rv64rs.Devices
import Riscvm.Rv64rs.Memory

/-!
# The bus and the block device's queue

The second half of `bus.rs`, and the part of `virtio.rs` that needs it. A store
to `QUEUE_NOTIFY` hands the whole bus back to the device while the device's
`RefCell` is mutably borrowed. `readAt true` and `dmaWrite` are the accesses made
in that time: they dispatch like any other, except that reaching the device a
second time is a panic.
-/

namespace Riscvm.Rv64rs

open Exec

/-- The flags say which shared devices the bus holds a handle to. -/
structure Bus where
  rangeManager : RangeManager
  ram : Ram
  ramRange : Range
  stack : Ram
  stackRange : Range
  bootloader : Ram
  bootloaderRange : Range
  clint : Bool
  clintRange : Range
  uart : Bool
  uartRange : Range
  plic : Bool
  plicRange : Range
  virtio : Bool
  virtioRange : Range
  dev : Devices

namespace Bus

section Components

variable {α : Type}

def onRam (x : Call Ram α) : Call Bus α := zoom ram (fun r bus => { bus with ram := r }) x

def onStack (x : Call Ram α) : Call Bus α := zoom stack (fun r bus => { bus with stack := r }) x

def onBootloader (x : Call Ram α) : Call Bus α :=
  zoom bootloader (fun r bus => { bus with bootloader := r }) x

def onClint (x : Call Clint α) : Call Bus α :=
  zoom (·.dev.clint) (fun d bus => { bus with dev := { bus.dev with clint := d } }) x

def onUart (x : Call Uart α) : Call Bus α :=
  zoom (·.dev.uart) (fun d bus => { bus with dev := { bus.dev with uart := d } }) x

def onPlic (x : Call Plic α) : Call Bus α :=
  zoom (·.dev.plic) (fun d bus => { bus with dev := { bus.dev with plic := d } }) x

def onVirtio (x : Call VirtIOBlk α) : Call Bus α :=
  zoom (·.dev.virtio) (fun d bus => { bus with dev := { bus.dev with virtio := d } }) x

def onRangeManager (x : Call RangeManager α) : Call Bus α :=
  zoom rangeManager (fun m bus => { bus with rangeManager := m }) x

end Components

/-- A bus without devices over the shared instances `dev`. -/
def new (dev : Devices) : Bus :=
  { rangeManager := .new
    ram := .new 0, ramRange := .none
    stack := .new 0, stackRange := .none
    bootloader := .new 0, bootloaderRange := .none
    clint := false, clintRange := .none
    uart := false, uartRange := .none
    plic := false, plicRange := .none
    virtio := false, virtioRange := .none
    dev }

variable [Host]

def reserve (start size : U64) : Call Bus Range := do
  let _ ← onRangeManager (RangeManager.addRange ⟨start, size⟩)
  return ⟨start, size⟩

def setRam (ram : Ram) (start : U64) : Call Bus Unit := do
  let range ← reserve start ram.len
  modify fun bus => { bus with ramRange := range, ram }

def setStack (stack : Ram) (start : U64) : Call Bus Unit := do
  let range ← reserve start stack.len
  modify fun bus => { bus with stackRange := range, stack }

def setBootloader (bootloader : Ram) (start : U64) : Call Bus Unit := do
  let range ← reserve start bootloader.len
  modify fun bus => { bus with bootloaderRange := range, bootloader }

def setClint (clint : Clint) (start : U64) : Call Bus Unit := do
  let range ← reserve start clint.len
  modify fun bus =>
    { bus with clintRange := range, clint := true, dev := { bus.dev with clint } }

def setUart (uart : Uart) (start : U64) : Call Bus Unit := do
  let range ← reserve start uart.len
  modify fun bus => { bus with uartRange := range, uart := true, dev := { bus.dev with uart } }

def setPlic (plic : Plic) (start : U64) : Call Bus Unit := do
  let range ← reserve start plic.len
  modify fun bus => { bus with plicRange := range, plic := true, dev := { bus.dev with plic } }

def setVirtio (virtio : VirtIOBlk) (start : U64) : Call Bus Unit := do
  let range ← reserve start VirtIOBlk.len
  modify fun bus =>
    { bus with virtioRange := range, virtio := true, dev := { bus.dev with virtio } }

/-- `Option::unwrap` of a device handle. -/
def unwrap (handle : Bool) : Call Bus Unit := if handle then pure () else panic .unwrapNone

/-- The closure the machine registers for an irq; `borrowed` says whether the
block device's `RefCell` is mutably borrowed. -/
def lineStatus {σ : Type} (dev : Devices) (borrowed : Bool) : IrqLine → Call σ U32
  | .uart => return dev.uart.interruptStatus
  | .virtio => if borrowed then panic .alreadyBorrowed else return dev.virtio.interruptStatus
  | .external status => return status

omit [Host] in
theorem readOnly_lineStatus {σ : Type} (dev : Devices) (borrowed : Bool) (line : IrqLine) :
    ReadOnly (lineStatus dev borrowed line : Call σ U32) := by
  cases line with
  | uart => exact .pure _
  | virtio => exact (readOnly_panic _).ite (.pure _)
  | external status => exact .pure _

def readMmio (borrowed : Bool) (address : U64) (size : U8) : Call Bus U64 := do
  let bus ← get
  let sz := size.setWidth 64
  if ← bus.bootloaderRange.contains address sz then
    onBootloader (Ram.read (← sub address bus.bootloaderRange.start) size)
  else if ← bus.clintRange.contains address sz then
    unwrap bus.clint
    onClint (Clint.read (← sub address bus.clintRange.start) size)
  else if ← bus.uartRange.contains address sz then
    unwrap bus.uart
    onUart (Uart.read (← sub address bus.uartRange.start) size)
  else if ← bus.plicRange.contains address sz then
    unwrap bus.plic
    bus.dev.plic.read (lineStatus bus.dev borrowed) (← sub address bus.plicRange.start) size
  else if ← bus.virtioRange.contains address sz then
    unwrap bus.virtio
    if borrowed then panic .alreadyBorrowed
    else onVirtio (VirtIOBlk.read (← sub address bus.virtioRange.start) size)
  else error .noDevice

def readAt (borrowed : Bool) (address : U64) (size : U8) : Call Bus U64 := do
  let bus ← get
  let sz := size.setWidth 64
  if ← bus.ramRange.contains address sz then
    onRam (Ram.read (← sub address bus.ramRange.start) size)
  else if ← bus.stackRange.contains address sz then
    onStack (Ram.read (← sub address bus.stackRange.start) size)
  else readMmio borrowed address size

def read (address : U64) (size : U8) : Call Bus U64 := readAt false address size

omit [Host] in
theorem readOnly_unwrap (handle : Bool) : ReadOnly (unwrap handle) :=
  (ReadOnly.pure _).ite (readOnly_panic _)

/-- The dispatch of `write_mmio`, given what a store to the block device does. -/
def writeMmio (virtioWrite : U64 → U8 → U64 → Call Bus Unit) (address : U64) (size : U8)
    (value : U64) : Call Bus Unit := do
  let bus ← get
  let sz := size.setWidth 64
  if ← bus.bootloaderRange.contains address sz then
    onBootloader (Ram.write (← sub address bus.bootloaderRange.start) size value)
  else if ← bus.clintRange.contains address sz then
    unwrap bus.clint
    onClint (Clint.write (← sub address bus.clintRange.start) size value)
  else if ← bus.uartRange.contains address sz then
    unwrap bus.uart
    onUart (Uart.write (← sub address bus.uartRange.start) size value)
  else if ← bus.plicRange.contains address sz then
    unwrap bus.plic
    onPlic (Plic.write (← sub address bus.plicRange.start) size value)
  else if ← bus.virtioRange.contains address sz then
    unwrap bus.virtio
    virtioWrite (← sub address bus.virtioRange.start) size value
  else error .noDevice

def writeWith (virtioWrite : U64 → U8 → U64 → Call Bus Unit) (address : U64) (size : U8)
    (value : U64) : Call Bus Unit := do
  let bus ← get
  let sz := size.setWidth 64
  if ← bus.ramRange.contains address sz then
    onRam (Ram.write (← sub address bus.ramRange.start) size value)
  else if ← bus.stackRange.contains address sz then
    onStack (Ram.write (← sub address bus.stackRange.start) size value)
  else writeMmio virtioWrite address size value

/-- A judgment that a sequence of calls inherits from its parts, and that holds of whatever the
dispatch computes on the way to a window. -/
structure Compositional (J : (α : Type) → Call Bus α → Prop) : Prop where
  bind : ∀ {α β : Type} {x : Call Bus α} {f : α → Call Bus β},
    J α x → (∀ a, J β (f a)) → J β (x >>= f)
  get : J Bus get
  contains : ∀ (range : Range) (address size : U64), J Bool (range.contains address size)
  offset : ∀ a b : U64, J U64 (sub a b)
  handle : ∀ held, J Unit (unwrap held)
  borrowed : J U64 (panic .alreadyBorrowed)
  noDevice : ∀ {α : Type}, J α (error .noDevice)

namespace Compositional

variable {J : (α : Type) → Call Bus α → Prop}

/-- What a call keeps, if looking at the bus keeps it. -/
theorem keeps {R : Bus → Bus → Prop} (refl : ∀ bus, R bus bus)
    (trans : ∀ {bus bus' bus''}, R bus bus' → R bus' bus'' → R bus bus'') :
    Compositional fun _ x => Keeps R x := by
  have hlook {α : Type} {x : Call Bus α} (h : ReadOnly x) : Keeps R x :=
    h.mono fun bus bus' heq => by
      rw [heq]
      exact refl bus
  exact {
    bind := .bind trans
    get := .get refl
    contains := fun _ _ _ => hlook (Range.readOnly_contains _ _ _)
    offset := fun _ _ => hlook (readOnly_sub _ _)
    handle := fun _ => hlook (readOnly_unwrap _)
    borrowed := .throw refl _
    noDevice := .throw refl _ }

omit [Host] in
theorem ite {α : Type} {p : Prop} [Decidable p] {x y : Call Bus α} (hx : J α x) (hy : J α y) :
    J α (if p then x else y) := by
  by_cases h : p
  · rwa [if_pos h]
  · rwa [if_neg h]

/-- A judgment on every window's read is one on every read. -/
theorem readAt (judgment : Compositional J) {borrowed : Bool} {size : U8}
    (ram : ∀ a, J U64 (onRam (Ram.read a size)))
    (stack : ∀ a, J U64 (onStack (Ram.read a size)))
    (bootloader : ∀ a, J U64 (onBootloader (Ram.read a size)))
    (clint : ∀ a, J U64 (onClint (Clint.read a size)))
    (uart : ∀ a, J U64 (onUart (Uart.read a size)))
    (plic : ∀ (bus : Bus) a, J U64 (bus.dev.plic.read (lineStatus bus.dev borrowed) a size))
    (virtio : ∀ a, J U64 (onVirtio (VirtIOBlk.read a size))) (address : U64) :
    J U64 (readAt borrowed address size) := by
  have hsub (range : Range) {f : U64 → Call Bus U64} (h : ∀ a, J U64 (f a)) :
      J U64 (sub address range.start >>= f) := judgment.bind (judgment.offset _ _) h
  have hheld (held : Bool) {x : Call Bus U64} (h : J U64 x) :
      J U64 (unwrap held >>= fun _ => x) := judgment.bind (judgment.handle _) fun _ => h
  have hmmio : J U64 (readMmio borrowed address size) := by
    refine judgment.bind judgment.get fun bus => judgment.bind (judgment.contains _ _ _) fun _ => ?_
    refine ite (hsub _ bootloader) (judgment.bind (judgment.contains _ _ _) fun _ => ?_)
    refine ite (hheld _ (hsub _ clint)) (judgment.bind (judgment.contains _ _ _) fun _ => ?_)
    refine ite (hheld _ (hsub _ uart)) (judgment.bind (judgment.contains _ _ _) fun _ => ?_)
    refine ite (hheld _ (hsub _ (plic bus))) (judgment.bind (judgment.contains _ _ _) fun _ => ?_)
    exact ite (hheld _ (ite judgment.borrowed (hsub _ virtio))) judgment.noDevice
  refine judgment.bind judgment.get fun bus => judgment.bind (judgment.contains _ _ _) fun _ => ?_
  refine ite (hsub _ ram) (judgment.bind (judgment.contains _ _ _) fun _ => ?_)
  exact ite (hsub _ stack) hmmio

/-- A judgment on every window's write is one on every write. -/
theorem writeWith (judgment : Compositional J) {virtioWrite : U64 → U8 → U64 → Call Bus Unit}
    {size : U8} {value : U64}
    (ram : ∀ a, J Unit (onRam (Ram.write a size value)))
    (stack : ∀ a, J Unit (onStack (Ram.write a size value)))
    (bootloader : ∀ a, J Unit (onBootloader (Ram.write a size value)))
    (clint : ∀ a, J Unit (onClint (Clint.write a size value)))
    (uart : ∀ a, J Unit (onUart (Uart.write a size value)))
    (plic : ∀ a, J Unit (onPlic (Plic.write a size value)))
    (virtio : ∀ a, J Unit (virtioWrite a size value)) (address : U64) :
    J Unit (writeWith virtioWrite address size value) := by
  have hsub (range : Range) {f : U64 → Call Bus Unit} (h : ∀ a, J Unit (f a)) :
      J Unit (sub address range.start >>= f) := judgment.bind (judgment.offset _ _) h
  have hheld (held : Bool) {x : Call Bus Unit} (h : J Unit x) :
      J Unit (unwrap held >>= fun _ => x) := judgment.bind (judgment.handle _) fun _ => h
  have hmmio : J Unit (writeMmio virtioWrite address size value) := by
    refine judgment.bind judgment.get fun bus => judgment.bind (judgment.contains _ _ _) fun _ => ?_
    refine ite (hsub _ bootloader) (judgment.bind (judgment.contains _ _ _) fun _ => ?_)
    refine ite (hheld _ (hsub _ clint)) (judgment.bind (judgment.contains _ _ _) fun _ => ?_)
    refine ite (hheld _ (hsub _ uart)) (judgment.bind (judgment.contains _ _ _) fun _ => ?_)
    refine ite (hheld _ (hsub _ plic)) (judgment.bind (judgment.contains _ _ _) fun _ => ?_)
    exact ite (hheld _ (hsub _ virtio)) judgment.noDevice
  refine judgment.bind judgment.get fun bus => judgment.bind (judgment.contains _ _ _) fun _ => ?_
  refine ite (hsub _ ram) (judgment.bind (judgment.contains _ _ _) fun _ => ?_)
  exact ite (hsub _ stack) hmmio

end Compositional

/-- A read of more than one byte changes nothing anywhere. -/
theorem readOnly_readAt (borrowed : Bool) (address : U64) {size : U8} (h : size ≠ 1) :
    ReadOnly (readAt borrowed address size) := by
  have judgment : Compositional fun _ x => ReadOnly x :=
    .keeps (fun _ => rfl) fun heq heq' => heq'.trans heq
  refine judgment.readAt ?_ ?_ ?_ ?_ ?_ ?_ ?_ address
  · exact fun _ => (Ram.readOnly_read _ _).zoom fun _ => rfl
  · exact fun _ => (Ram.readOnly_read _ _).zoom fun _ => rfl
  · exact fun _ => (Ram.readOnly_read _ _).zoom fun _ => rfl
  · exact fun _ => (Clint.readOnly_read _ _).zoom fun _ => rfl
  · exact fun _ => (Uart.readOnly_read _ h).zoom fun _ => rfl
  · exact fun bus _ => Plic.readOnly_read _ (readOnly_lineStatus _ _) _ _
  · exact fun _ => (VirtIOBlk.readOnly_read _ _).zoom fun _ => rfl

theorem readOnly_read (address : U64) {size : U8} (h : size ≠ 1) : ReadOnly (read address size) :=
  readOnly_readAt false address h

/-- A read made by the device that is being notified. -/
def dmaRead (address : U64) (size : U8) : Call Bus U64 := readAt true address size

/-- A write made by the device that is being notified. -/
def dmaWrite (address : U64) (size : U8) (value : U64) : Call Bus Unit :=
  writeWith (fun _ _ _ => panic .alreadyBorrowed) address size value

end Bus

namespace VirtIOBlk

open Bus

def VIRTQ_DESC_F_NEXT : U16 := 1
def VIRTIO_BLK_T_IN : U32 := 0
def VIRTIO_BLK_T_OUT : U32 := 1
def SECTOR_SIZE : U64 := 512

structure Desc where
  addr : U64
  length : U32
  flags : U16
  deriving DecidableEq, Repr

variable [Host]

/-- The loop of `process_descriptor_chain`: follow `next` from `idx` until a
descriptor without the flag or an index already in `seen`. Each round adds an
index, so 65537 rounds are enough for every table. -/
def collectDescs (descBase : U64) : (fuel : Nat) → (idx : U16) → (seen : List U16) →
    (descs : List Desc) → Call Bus (List Desc)
  | 0, _, _, _ => panic .outOfFuel
  | fuel + 1, idx, seen, descs => do
      if idx ∈ seen then return descs
      else
        let off ← add descBase (← mul (idx.setWidth 64) 16)
        let addr ← dmaRead off 8
        let length := (← dmaRead (← add off 8) 4).setWidth 32
        let flags := (← dmaRead (← add off 12) 2).setWidth 16
        let nxt := (← dmaRead (← add off 14) 2).setWidth 16
        let descs := descs ++ [⟨addr, length, flags⟩]
        if flags &&& VIRTQ_DESC_F_NEXT ≠ 0 then collectDescs descBase fuel nxt (idx :: seen) descs
        else return descs

/-- Store `bytes` one by one from `base + i` on. -/
def writeBytes (base : U64) : (i : Nat) → (bytes : List U8) → Call Bus Unit
  | _, [] => return ()
  | i, b :: bytes => do
      dmaWrite (← add base (BitVec.ofNat 64 i)) 1 (b.setWidth 64)
      writeBytes base (i + 1) bytes

/-- Load `n` bytes one by one from `base + i` on. -/
def readBytes (base : U64) : (i n : Nat) → Call Bus (List U8)
  | _, 0 => return []
  | i, n + 1 => do
      let b ← dmaRead (← add base (BitVec.ofNat 64 i)) 1
      return b.setWidth 8 :: (← readBytes base (i + 1) n)

/-- `disk.resize(end, 0)` when `end` lies past the disk. -/
def growDisk (stop : U64) : Call Bus Unit := do
  let disk := (← get).dev.virtio.disk
  if disk.length < stop.toNat then
    allocate stop.toNat
    onVirtio (modify fun device =>
      { device with disk := disk ++ List.replicate (stop.toNat - disk.length) 0 })
  else return ()

def processDescriptorChain (descBase : U64) (head : U16) : Call Bus U32 := do
  let descs ← collectDescs descBase 65537 head [] []
  if descs.length < 3 then return 0
  else
    let header ← index descs 0
    let data ← index descs 1
    let status ← index descs (descs.length - 1)
    let reqType := (← dmaRead header.addr 4).setWidth 32
    let sector ← dmaRead (← add header.addr 8) 8
    let offset ← mul sector SECTOR_SIZE
    let dataLen := data.length.setWidth 64
    if reqType = VIRTIO_BLK_T_IN then
      let stop ← add offset dataLen
      growDisk stop
      let chunk ← slice (← get).dev.virtio.disk offset.toNat stop.toNat
      allocate chunk.length
      writeBytes data.addr 0 chunk
    else if reqType = VIRTIO_BLK_T_OUT then
      allocate dataLen.toNat
      let chunk ← readBytes data.addr 0 dataLen.toNat
      let stop ← add offset dataLen
      growDisk stop
      let disk ← copyFromSlice (← get).dev.virtio.disk offset.toNat stop.toNat chunk
      onVirtio (modify fun device => { device with disk })
    -- any other request type is silently ignored
    dmaWrite status.addr 1 0
    return 0

/-- One iteration of the loop of `process_queue`. -/
def serveChain (device : VirtIOBlk) (last usedIdx : U16) : Call Bus Unit := do
  let slot := last.setWidth 64 % device.queueNum.setWidth 64
  let ringOff ← add (← add device.availAddr 4) (← mul slot 2)
  let head := (← dmaRead ringOff 2).setWidth 16
  let length ← processDescriptorChain device.descAddr head
  let usedSlot := usedIdx.setWidth 64 % device.queueNum.setWidth 64
  let usedElemOff ← add (← add device.usedAddr 4) (← mul usedSlot 8)
  dmaWrite usedElemOff 4 (head.setWidth 64)
  dmaWrite (← add usedElemOff 4) 4 (length.setWidth 64)
  dmaWrite (← add device.usedAddr 2) 2 ((usedIdx + 1).setWidth 64)

/-- The loop `while last != avail_idx` of `process_queue`, returning the cursor.
The cursor moves by one in each round, so 65536 rounds are always enough. -/
def serveChains (device : VirtIOBlk) (availIdx : U16) : (fuel : Nat) → (last usedIdx : U16) →
    Call Bus U16
  | 0, last, _ => if last = availIdx then return last else panic .outOfFuel
  | fuel + 1, last, usedIdx => do
      if last = availIdx then return last
      else
        serveChain device last usedIdx
        serveChains device availIdx fuel (last + 1) (usedIdx + 1)

def processQueue (queueIdx : U32) : Call Bus Unit := do
  let device := (← get).dev.virtio
  if device.queueReady = 0 ∨ device.queueNum = 0 then return ()
  else
    let availIdx := (← dmaRead (← add device.availAddr 2) 2).setWidth 16
    let usedIdxInitial := (← dmaRead (← add device.usedAddr 2) 2).setWidth 16
    let last := (device.lastAvailIdx queueIdx).getD usedIdxInitial
    let last ← serveChains device availIdx 65536 last usedIdxInitial
    onVirtio (modify fun device =>
      { device with
        lastAvailIdx := fun i => if i = queueIdx then some last else device.lastAvailIdx i
        interruptStatus := device.interruptStatus ||| 1 })

def write (address : U64) (size : U8) (value : U64) : Call Bus Unit := do
  if size ≠ 4 then error (.virtioWriteSize size address)
  else
    let v32 := value.setWidth 32
    let update (f : VirtIOBlk → VirtIOBlk) : Call Bus Unit := onVirtio (modify f)
    match address with
    | 0x020#64 => update fun device => { device with driverFeatures := v32 }
    | 0x030#64 => update fun device => { device with queueSel := v32 }
    | 0x038#64 => update fun device => { device with queueNum := v32 }
    | 0x044#64 => update fun device => { device with queueReady := v32 }
    | 0x080#64 => update fun device => { device with descAddr := setLow device.descAddr value }
    | 0x084#64 => update fun device => { device with descAddr := setHigh device.descAddr value }
    | 0x090#64 => update fun device => { device with availAddr := setLow device.availAddr value }
    | 0x094#64 => update fun device => { device with availAddr := setHigh device.availAddr value }
    | 0x0a0#64 => update fun device => { device with usedAddr := setLow device.usedAddr value }
    | 0x0a4#64 => update fun device => { device with usedAddr := setHigh device.usedAddr value }
    | 0x050#64 => processQueue v32
    | 0x064#64 => update fun device =>
        { device with interruptStatus := device.interruptStatus &&& ~~~v32 }
    | 0x070#64 => update fun device =>
        let device := { device with status := v32 }
        if v32 = 0 then device.reset else device
    | _ => return ()

end VirtIOBlk

/-- `Bus::write`. -/
def Bus.write [Host] (address : U64) (size : U8) (value : U64) : Call Bus Unit :=
  Bus.writeWith VirtIOBlk.write address size value

end Riscvm.Rv64rs
