import Riscvm.Rv64rs.Basic

/-!
# CLINT, UART, PLIC and the block device's registers

The state and the register files of `clint.rs`, `uart.rs`, `plic.rs` and
`virtio.rs`. Queue processing needs the bus and is in `Bus.lean`.

The source shares the devices through `Rc<RefCell<_>>`. `Devices` holds the
shared instances; a bus or a hart that holds a handle says so in a flag.
-/

namespace Riscvm.Rv64rs

open Bits Exec

structure Clint where
  size : U64
  mtime : U64
  mtimecmp : List U64
  deriving DecidableEq

namespace Clint

def MTIME_OFFSET : U64 := 0xbff8
def MTIMECMP_OFFSET : U64 := 0x4000

/-- Every timer starts effectively "never". -/
def new (size : U64) (nhart : Nat) : Clint := ⟨size, 0, List.replicate nhart (-1)⟩

def len (clint : Clint) : U64 := clint.size

def tick (clint : Clint) : Clint := { clint with mtime := clint.mtime + 1 }

def pending {σ : Type} (clint : Clint) (hart : Nat) : Call σ Bool := do
  return decide ((← index clint.mtimecmp hart) ≤ clint.mtime)

theorem readOnly_pending {σ : Type} (clint : Clint) (hart : Nat) :
    ReadOnly (clint.pending hart : Call σ Bool) :=
  (readOnly_index _ _).bind fun _ => .pure _

variable [Host]

/-- The slot of `mtimecmp` that `address` selects, if it lies in the array. -/
def mtimecmpIndex (address : U64) : Call Clint (Option Nat) := do
  let clint ← get
  let mtimecmpEnd ← add MTIMECMP_OFFSET (← mul 8 (BitVec.ofNat 64 clint.mtimecmp.length))
  if MTIMECMP_OFFSET ≤ address ∧ address < mtimecmpEnd then
    return some ((address - MTIMECMP_OFFSET) / 8).toNat
  else return none

def read (address : U64) (size : U8) : Call Clint U64 := do
  if size ≠ 8 then error (.clintReadSize size)
  else if address = MTIME_OFFSET then return (← get).mtime
  else match ← mtimecmpIndex address with
    | some i => index (← get).mtimecmp i
    | none => return 0

theorem readOnly_read (address : U64) (size : U8) : ReadOnly (read address size) := by
  unfold read mtimecmpIndex
  refine .ite (readOnly_error _) (.ite (.bind .get fun _ => .pure _) (.bind ?_ fun slot => ?_))
  · refine .bind .get fun clint => .bind (readOnly_mul _ _) fun bytes => ?_
    exact .bind (readOnly_add _ _) fun stop => .ite (.pure _) (.pure _)
  · cases slot with
    | some i => exact .bind .get fun clint => readOnly_index _ _
    | none => exact .pure _

def write (address : U64) (size : U8) (value : U64) : Call Clint Unit := do
  if size ≠ 8 then error (.clintWriteSize size)
  else if address = MTIME_OFFSET then modify fun clint => { clint with mtime := value }
  else match ← mtimecmpIndex address with
    | some i =>
        let clint ← get
        set { clint with mtimecmp := ← copyFromSlice clint.mtimecmp i (i + 1) [value] }
    | none => return ()

end Clint

/-- The configured byte streams are the outside world: `output` collects what was
written to it, and `input` lists what its coming `read` calls deliver, `none`
standing for an `Err`. -/
structure Uart where
  size : U64
  divisorLatchAccessible : Bool
  interruptEnabledRx : Bool
  interruptEnabledTx : Bool
  lineControlNbits : U8
  dllValue : U8
  dlmValue : U8
  rxQueue : List U8
  output : Option (List U8)
  input : Option (List (Option (List U8)))
  deriving DecidableEq

namespace Uart

def LSR_TX_IDLE : U8 := bit 5
def IER_RX_ENABLE : U8 := bit 0
def IER_TX_ENABLE : U8 := bit 1
def LCR_NBITS : U8 := 3
def LCR_BAUD_LATCH : U8 := bit 7

def new (size : U64) (output : Option (List U8)) (input : Option (List (Option (List U8)))) :
    Uart :=
  { size, divisorLatchAccessible := false, interruptEnabledRx := false,
    interruptEnabledTx := false, lineControlNbits := 0, dllValue := 0, dlmValue := 0,
    rxQueue := [], output, input }

def len (uart : Uart) : U64 := uart.size

def dlab (uart : Uart) : Bool := uart.divisorLatchAccessible

def dataAvailable (uart : Uart) : Bool := !uart.rxQueue.isEmpty

def interruptStatus (uart : Uart) : U32 :=
  if uart.dataAvailable && uart.interruptEnabledRx then 1 else 0

def inject (data : List U8) (uart : Uart) : Uart :=
  { uart with rxQueue := uart.rxQueue ++ data }

/-- One `read` into a 256-byte buffer; an `Err` or an empty read adds nothing. -/
def pollInput (uart : Uart) : Uart :=
  match uart.input with
  | some (some bytes :: rest) =>
      { uart with rxQueue := uart.rxQueue ++ bytes.take 256, input := some rest }
  | some (none :: rest) => { uart with input := some rest }
  | some [] | none => uart

def rbr (uart : Uart) : U8 × Uart :=
  match uart.rxQueue with
  | [] => (0, uart)
  | byte :: rest => (byte, { uart with rxQueue := rest })

def ier (uart : Uart) : U8 :=
  (if uart.interruptEnabledRx then IER_RX_ENABLE else 0) |||
    (if uart.interruptEnabledTx then IER_TX_ENABLE else 0)

def lcr (uart : Uart) : U8 :=
  ((if uart.divisorLatchAccessible then 1 else 0) <<< 7) ||| uart.lineControlNbits

def lsr (uart : Uart) : U8 := (if uart.dataAvailable then 1 else 0) ||| LSR_TX_IDLE

def read (address : U64) (size : U8) : Call Uart U64 := do
  if size ≠ 1 then error (.uartReadSize size)
  else
    let uart ← get
    let value ← match address with
      | 0#64 =>
          if uart.dlab then pure uart.dllValue
          else do
            set uart.rbr.2
            pure uart.rbr.1
      | 1#64 => pure (if uart.dlab then uart.dlmValue else uart.ier)
      | 3#64 => pure uart.lcr
      | 5#64 => pure uart.lsr
      | _ => pure 0 -- IIR, MCR, MSR, SCR and the rest of the window
    return value.setWidth 64

/-- Only a one-byte read can take a byte out of the receive queue. -/
theorem readOnly_read (address : U64) {size : U8} (h : size ≠ 1) :
    ReadOnly (read address size) := by
  unfold read
  rw [if_pos h]
  exact readOnly_error _

def write (address : U64) (size : U8) (value : U64) : Call Uart Unit := do
  if size ≠ 1 then error (.uartWriteSize size)
  else
    let value := value.setWidth 8
    let uart ← get
    match address with
    | 5#64 | 6#64 => error .uartIllegalWrite
    | 0#64 =>
        if uart.dlab then set { uart with dllValue := value }
        else set { uart with output := uart.output.map (· ++ [value]) }
    | 1#64 =>
        if uart.dlab then set { uart with dlmValue := value }
        else if value &&& ~~~(IER_RX_ENABLE ||| IER_TX_ENABLE) ≠ 0 then error .uartUnhandledFlags
        else
          set { uart with
            interruptEnabledRx := value &&& IER_RX_ENABLE != 0
            interruptEnabledTx := value &&& IER_TX_ENABLE != 0 }
    | 3#64 =>
        set { uart with
          divisorLatchAccessible := value &&& LCR_BAUD_LATCH != 0
          lineControlNbits := value &&& LCR_NBITS }
    | _ => return () -- FCR, MCR and SCR accept and ignore

end Uart

/-- The closure registered for an irq: a device of the machine, or a line driven
from outside whose current level is `status`. -/
inductive IrqLine where
  | uart
  | virtio
  | external (status : U32)
  deriving DecidableEq

structure Plic where
  size : U64
  devicesByIrq : List (U32 × IrqLine)
  priority : Fin 32 → U32
  enable : Fin 64 → U32
  threshold : Fin 64 → U32

namespace Plic

def PRIORITY_END : U64 := 0x1000
def ENABLE_BASE : U64 := 0x2000
def ENABLE_END : U64 := 0x1f2000
def ENABLE_STRIDE : U64 := 0x80
def CONTEXT_BASE : U64 := 0x200000
def CONTEXT_STRIDE : U64 := 0x1000
def THRESHOLD_OFFSET : U64 := 0x0
def CLAIM_OFFSET : U64 := 0x4
def MAX_IRQ : Nat := 32
def MAX_CONTEXTS : Nat := 64

def new (size : U64) : Plic := ⟨size, [], fun _ => 0, fun _ => 0, fun _ => 0⟩

def len (plic : Plic) : U64 := plic.size

/-- `array.get(i).copied().unwrap_or(0)`. -/
def slot {n : Nat} (array : Fin n → U32) (i : Nat) : U32 :=
  if h : i < n then array ⟨i, h⟩ else 0

/-- Store into an array through `get_mut`, which ignores an index out of range. -/
def setSlot {n : Nat} (array : Fin n → U32) (i : Nat) (value : U32) : Fin n → U32 :=
  fun j => if j.val = i then value else array j

def enableGet (plic : Plic) (context : U64) : U32 := slot plic.enable context.toNat

def enableSet (plic : Plic) (context : U64) (value : U32) : Plic :=
  { plic with enable := setSlot plic.enable context.toNat value }

def thresholdGet (plic : Plic) (context : U64) : U32 := slot plic.threshold context.toNat

def thresholdSet (plic : Plic) (context : U64) (value : U32) : Plic :=
  { plic with threshold := setSlot plic.threshold context.toNat value }

def registerIrq (plic : Plic) (irq : U32) (line : IrqLine) : Plic :=
  { plic with devicesByIrq := plic.devicesByIrq ++ [(irq, line)] }

variable [Host] {σ : Type}

def pendingMask (plic : Plic) (status : IrqLine → Call σ U32) : Call σ U32 :=
  plic.devicesByIrq.foldlM (fun mask device => do
    if (← status device.2) &&& 1 ≠ 0 then return mask ||| (← shl 1 device.1.toNat)
    else return mask) 0

/-- The loop over irqs 1 to 31: the running best irq and its priority. -/
def bestIrq (plic : Plic) (candidates threshold : U32) : U32 × U32 :=
  ((List.finRange MAX_IRQ).drop 1).foldl (fun best irq =>
    if candidates &&& bit irq.val ≠ 0 ∧ best.2 < plic.priority irq then
      (BitVec.ofNat 32 irq.val, plic.priority irq)
    else best) (0, threshold)

def claimIrq (plic : Plic) (status : IrqLine → Call σ U32) (context : U64) : Call σ U32 := do
  let candidates := (← plic.pendingMask status) &&& plic.enableGet context
  return (plic.bestIrq candidates (plic.thresholdGet context)).1

def claimable (plic : Plic) (status : IrqLine → Call σ U32) (context : U64) : Call σ Bool := do
  return (← plic.claimIrq status context) != 0

def read (plic : Plic) (status : IrqLine → Call σ U32) (address : U64) (size : U8) :
    Call σ U64 := do
  if size ≠ 4 then error (.plicSize size)
  else if address < PRIORITY_END then
    return (slot plic.priority (address / 4).toNat).setWidth 64
  else if ENABLE_BASE ≤ address ∧ address < ENABLE_END then
    return (plic.enableGet ((address - ENABLE_BASE) / ENABLE_STRIDE)).setWidth 64
  else if CONTEXT_BASE ≤ address then
    let context := (address - CONTEXT_BASE) / CONTEXT_STRIDE
    let offset := (address - CONTEXT_BASE) % CONTEXT_STRIDE
    if offset = THRESHOLD_OFFSET then return (plic.thresholdGet context).setWidth 64
    else if offset = CLAIM_OFFSET then return (← plic.claimIrq status context).setWidth 64
    else return 0
  else return 0

theorem readOnly_pendingMask (plic : Plic) {status : IrqLine → Call σ U32}
    (hs : ∀ line, ReadOnly (status line)) : ReadOnly (plic.pendingMask status) := by
  unfold pendingMask
  suffices h : ∀ mask : U32, ReadOnly (List.foldlM _ mask plic.devicesByIrq) from h 0
  induction plic.devicesByIrq with
  | nil => exact fun mask => .pure mask
  | cons device devices ih =>
      intro mask
      rw [List.foldlM_cons]
      refine .bind ((hs _).bind fun level => ?_) ih
      exact ((readOnly_shl _ _).bind fun _ => .pure _).ite (.pure _)

theorem readOnly_claimIrq (plic : Plic) {status : IrqLine → Call σ U32}
    (hs : ∀ line, ReadOnly (status line)) (context : U64) :
    ReadOnly (plic.claimIrq status context) :=
  (plic.readOnly_pendingMask hs).bind fun _ => .pure _

theorem readOnly_claimable (plic : Plic) {status : IrqLine → Call σ U32}
    (hs : ∀ line, ReadOnly (status line)) (context : U64) :
    ReadOnly (plic.claimable status context) :=
  (plic.readOnly_claimIrq hs context).bind fun _ => .pure _

theorem readOnly_read (plic : Plic) {status : IrqLine → Call σ U32}
    (hs : ∀ line, ReadOnly (status line)) (address : U64) (size : U8) :
    ReadOnly (plic.read status address size) := by
  unfold read
  refine (readOnly_error _).ite (.ite (.pure _) (.ite (.pure _) (.ite ?_ (.pure _))))
  exact .ite (.pure _) (.ite ((plic.readOnly_claimIrq hs _).bind fun _ => .pure _) (.pure _))

def write (address : U64) (size : U8) (value : U64) : Call Plic Unit := do
  if size ≠ 4 then error (.plicSize size)
  else
    let plic ← get
    let value := value.setWidth 32
    if address < PRIORITY_END then
      set { plic with priority := setSlot plic.priority (address / 4).toNat value }
    else if ENABLE_BASE ≤ address ∧ address < ENABLE_END then
      set (plic.enableSet ((address - ENABLE_BASE) / ENABLE_STRIDE) value)
    else if CONTEXT_BASE ≤ address then
      let context := (address - CONTEXT_BASE) / CONTEXT_STRIDE
      let offset := (address - CONTEXT_BASE) % CONTEXT_STRIDE
      -- a write to the claim register is "complete", a no-op
      if offset = THRESHOLD_OFFSET then set (plic.thresholdSet context value)
      else return ()
    else return ()

end Plic

structure VirtIOBlk where
  disk : List U8
  deviceFeatures : U32
  driverFeatures : U32
  queueSel : U32
  queueNum : U32
  queueReady : U32
  descAddr : U64
  availAddr : U64
  usedAddr : U64
  status : U32
  interruptStatus : U32
  lastAvailIdx : U32 → Option U16

namespace VirtIOBlk

def PAGE_SIZE : U64 := 0x1000

def MAGIC : U64 := 0x74726976
def VENDOR : U64 := 0x554d4551
def DEVICE_ID_BLK : U64 := 2
def MMIO_VERSION : U64 := 2
def QUEUE_NUM_MAX_VALUE : U64 := bit 15

def new (diskSize : U64) (diskImage : Option (List U8)) : VirtIOBlk :=
  let disk := match diskImage with
    | some image => image ++ List.replicate (diskSize.toNat - image.length) 0
    | none => List.replicate diskSize.toNat 0
  { disk, deviceFeatures := 0, driverFeatures := 0, queueSel := 0, queueNum := 0,
    queueReady := 0, descAddr := 0, availAddr := 0, usedAddr := 0, status := 0,
    interruptStatus := 0, lastAvailIdx := fun _ => none }

def len : U64 := PAGE_SIZE

def read (address : U64) (size : U8) : Call VirtIOBlk U64 := do
  if size ≠ 4 then error (.virtioReadSize size address)
  else
    let device ← get
    match address with
    | 0x000#64 => return MAGIC
    | 0x004#64 => return MMIO_VERSION
    | 0x008#64 => return DEVICE_ID_BLK
    | 0x00c#64 => return VENDOR
    | 0x010#64 => return device.deviceFeatures.setWidth 64
    | 0x034#64 => return QUEUE_NUM_MAX_VALUE
    | 0x044#64 => return device.queueReady.setWidth 64
    | 0x060#64 => return device.interruptStatus.setWidth 64
    | 0x070#64 => return device.status.setWidth 64
    | _ => return 0

theorem readOnly_read (address : U64) (size : U8) : ReadOnly (read address size) := by
  unfold read
  refine .ite (readOnly_error _) (.bind .get fun device => ?_)
  split <;> exact .pure _

/-- The address register after a store to its low word: the stored value is ORed
in as it is, without truncation. -/
def setLow (register value : U64) : U64 := (register &&& ~~~0xffffffff) ||| value

/-- The address register after a store to its high word. -/
def setHigh (register value : U64) : U64 := (register &&& 0xffffffff) ||| (value <<< 32)

/-- A store of 0 to the status register: the driver resets the device. -/
def reset (device : VirtIOBlk) : VirtIOBlk :=
  { device with
    queueReady := 0, queueNum := 0, descAddr := 0, availAddr := 0, usedAddr := 0
    lastAvailIdx := fun _ => none }

end VirtIOBlk

/-- The shared device instances. -/
structure Devices where
  clint : Clint
  uart : Uart
  plic : Plic
  virtio : VirtIOBlk

/-- Instances that no handle refers to. -/
def Devices.detached : Devices := ⟨.new 0 0, .new 0 none none, .new 0, .new 0 none⟩

end Riscvm.Rv64rs
