import Riscvm.Python.Bus
import Riscvm.Python.Plic

/-!
# The block device in Python

`virtio.py`, on a bus that maps RAM only. The registers hold whatever integer was stored to them.
A `bytearray` grows as far as the interpreter's host can hold it.
-/

namespace Riscvm.Python

open Exec

/-- How many bytes an object of the interpreter can hold. -/
class Interpreter where
  memory : Nat

/-- What a call of the device can raise. -/
inductive VirtIOBlk.Exception where
  | bus (e : Python.Exception)
  | assertionError
  | memoryError
  deriving DecidableEq, Repr

/-- `lastAvailIdx` is the dictionary `_last_avail_idx`. -/
structure VirtIOBlk where
  bus : Bus
  disk : List (BitVec 8)
  deviceFeatures : Int
  driverFeatures : Int
  queueSel : Int
  queueNum : Int
  queueReady : Int
  descAddr : Int
  availAddr : Int
  usedAddr : Int
  status : Int
  interruptStatus : Int
  lastAvailIdx : Int → Option Int

namespace VirtIOBlk

abbrev Call := EStateM Exception VirtIOBlk

def PAGE_SIZE : Int := 0x1000

def MAGIC_VALUE : Int := 0x000
def VERSION : Int := 0x004
def DEVICE_ID : Int := 0x008
def VENDOR_ID : Int := 0x00c
def DEVICE_FEATURES : Int := 0x010
def DRIVER_FEATURES : Int := 0x020
def QUEUE_SEL : Int := 0x030
def QUEUE_NUM_MAX : Int := 0x034
def QUEUE_NUM : Int := 0x038
def QUEUE_READY : Int := 0x044
def QUEUE_NOTIFY : Int := 0x050
def INTERRUPT_STATUS : Int := 0x060
def INTERRUPT_ACK : Int := 0x064
def STATUS : Int := 0x070
def QUEUE_DESC_LOW : Int := 0x080
def QUEUE_DESC_HIGH : Int := 0x084
def DRIVER_DESC_LOW : Int := 0x090
def DRIVER_DESC_HIGH : Int := 0x094
def DEVICE_DESC_LOW : Int := 0x0a0
def DEVICE_DESC_HIGH : Int := 0x0a4

def MAGIC : Int := 0x74726976
def VENDOR : Int := 0x554d4551
def DEVICE_ID_BLK : Int := 2
def MMIO_VERSION : Int := 2
def QUEUE_NUM_MAX_VALUE : Int := 2 ^ 15

def VIRTQ_DESC_F_NEXT : Int := 1
def VIRTIO_BLK_T_IN : Int := 0
def VIRTIO_BLK_T_OUT : Int := 1
def SECTOR_SIZE : Int := 512

/-- `__init__`. -/
def new (bus : Bus) (diskSize : Nat) (diskImage : Option (List (BitVec 8))) : VirtIOBlk :=
  let disk := match diskImage with
    | some image => image ++ List.replicate (diskSize - image.length) 0
    | none => List.replicate diskSize 0
  { bus, disk, deviceFeatures := 0, driverFeatures := 0, queueSel := 0, queueNum := 0,
    queueReady := 0, descAddr := 0, availAddr := 0, usedAddr := 0, status := 0,
    interruptStatus := 0, lastAvailIdx := fun _ => none }

def assert (p : Prop) [Decidable p] : Call Unit :=
  if p then return () else throw .assertionError

def read (address size : Int) : Call Int := do
  assert (size = 4)
  let device ← get
  if address = MAGIC_VALUE then return MAGIC
  else if address = VERSION then return MMIO_VERSION
  else if address = DEVICE_ID then return DEVICE_ID_BLK
  else if address = VENDOR_ID then return VENDOR
  else if address = DEVICE_FEATURES then return device.deviceFeatures
  else if address = QUEUE_NUM_MAX then return QUEUE_NUM_MAX_VALUE
  else if address = QUEUE_READY then return device.queueReady
  else if address = INTERRUPT_STATUS then return device.interruptStatus
  else if address = STATUS then return device.status
  else return 0

/-- A call of `self.bus`. -/
def onBus {α : Type} (x : Python.Call Bus α) : Call α := fun device =>
  match x device.bus with
  | .ok a bus => .ok a { device with bus }
  | .error e bus => .error (.bus e) { device with bus }

def r16 (addr : Int) : Call Int := onBus (Bus.read addr 2)

def r32 (addr : Int) : Call Int := onBus (Bus.read addr 4)

def r64 (addr : Int) : Call Int := onBus (Bus.read addr 8)

def w16 (addr value : Int) : Call Unit := onBus (Bus.write addr 2 value)

def w32 (addr value : Int) : Call Unit := onBus (Bus.write addr 4 value)

/-- The bytes from `addr + i` on that `_read_bytes` collects; a byte of RAM is a number below
256. -/
def readBytes (addr : Int) : (i n : Nat) → Call (List (BitVec 8))
  | _, 0 => return []
  | i, n + 1 => do
      let b ← onBus (Bus.read (addr + i) 1)
      return BitVec.ofInt 8 b :: (← readBytes addr (i + 1) n)

/-- `_write_bytes`, from the `i`-th byte on. -/
def writeBytes (addr : Int) : (i : Nat) → (data : List (BitVec 8)) → Call Unit
  | _, [] => return ()
  | i, b :: data => do
      onBus (Bus.write (addr + i) 1 b.toNat)
      writeBytes addr (i + 1) data

structure Desc where
  addr : Int
  length : Int
  flags : Int
  deriving DecidableEq, Repr

variable [Interpreter]

omit [Interpreter] in
/-- The loop of `_process_descriptor_chain`. An index is a number below 65536 that has not been
seen before, so 65537 rounds are enough. -/
def collectDescs (descBase : Int) : (fuel : Nat) → (idx : Int) → (seen : List Int) →
    (descs : List Desc) → Call (List Desc)
  | 0, _, _, descs => return descs
  | fuel + 1, idx, seen, descs => do
      if idx ∈ seen then return descs
      else
        let off := descBase + idx * 16
        let addr ← r64 off
        let length ← r32 (off + 8)
        let flags ← r16 (off + 12)
        let nxt ← r16 (off + 14)
        let descs := descs ++ [⟨addr, length, flags⟩]
        if Int.land flags VIRTQ_DESC_F_NEXT ≠ 0 then
          collectDescs descBase fuel nxt (idx :: seen) descs
        else return descs

/-- `self.disk.extend(..)` up to `stop`, when that lies past the disk. -/
def growDisk (stop : Int) : Call Unit := do
  let device ← get
  if (device.disk.length : Int) < stop then
    if (Interpreter.memory : Int) < stop then throw .memoryError
    else
      set { device with
        disk := device.disk ++ List.replicate (stop.toNat - device.disk.length) 0 }
  else return ()

def processDescriptorChain (descBase head : Int) : Call Int := do
  let descs ← collectDescs descBase 65537 head [] []
  match descs with
  | header :: data :: rest =>
      match rest.getLast? with
      | none => return 0
      | some status =>
          let reqType ← r32 header.addr
          let sector ← r64 (header.addr + 8)
          let offset := sector * SECTOR_SIZE
          if reqType = VIRTIO_BLK_T_IN then
            let stop := offset + data.length
            growDisk stop
            let disk := (← get).disk
            writeBytes data.addr 0
              ((disk.drop offset.toNat).take (stop.toNat - offset.toNat))
          else if reqType = VIRTIO_BLK_T_OUT then
            let chunk ← readBytes data.addr 0 data.length.toNat
            let stop := offset + data.length
            growDisk stop
            modify fun device =>
              { device with
                disk := device.disk.take offset.toNat ++ chunk ++ device.disk.drop stop.toNat }
          writeBytes status.addr 0 [0]
          return 0
  | _ => return 0

/-- One iteration of the loop of `_process_queue`. -/
def serveChain (descBase availBase usedBase queueNum last usedIdx : Int) : Call Unit := do
  let ringOff := availBase + 4 + last % queueNum * 2
  let head ← r16 ringOff
  let length ← processDescriptorChain descBase head
  let usedElemOff := usedBase + 4 + usedIdx % queueNum * 8
  w32 usedElemOff head
  w32 (usedElemOff + 4) length
  w16 (usedBase + 2) (u 16 (usedIdx + 1))

/-- The loop `while (last & 0xffff) != avail_idx` of `_process_queue`, returning the cursor. The
cursor moves by one in each round, so 65536 rounds are enough. -/
def serveChains (descBase availBase usedBase queueNum availIdx : Int) : (fuel : Nat) →
    (last usedIdx : Int) → Call Int
  | 0, last, _ => return last
  | fuel + 1, last, usedIdx => do
      if u 16 last = availIdx then return last
      else
        serveChain descBase availBase usedBase queueNum last usedIdx
        serveChains descBase availBase usedBase queueNum availIdx fuel (u 16 (last + 1))
          (u 16 (usedIdx + 1))

def processQueue (queueIdx : Int) : Call Unit := do
  let device ← get
  if device.queueReady = 0 ∨ device.queueNum = 0 then return ()
  else
    let availIdx ← r16 (device.availAddr + 2)
    let usedIdx ← r16 (device.usedAddr + 2)
    let last := (device.lastAvailIdx queueIdx).getD usedIdx
    let last ← serveChains device.descAddr device.availAddr device.usedAddr device.queueNum availIdx
      65536 last usedIdx
    modify fun device =>
      { device with
        lastAvailIdx := Plic.dictSet device.lastAvailIdx queueIdx last
        interruptStatus := Int.lor device.interruptStatus 1 }

omit [Interpreter] in
/-- An address register after a store to its low word. -/
def setLow (register value : Int) : Int := Int.lor (Int.land register (Int.lnot 0xffffffff)) value

omit [Interpreter] in
/-- An address register after a store to its high word. -/
def setHigh (register value : Int) : Int := Int.lor (Int.land register 0xffffffff) (value <<< 32)

def write (address size value : Int) : Call Unit := do
  assert (size = 4)
  if address = DRIVER_FEATURES then modify fun device => { device with driverFeatures := value }
  else if address = QUEUE_SEL then modify fun device => { device with queueSel := value }
  else if address = QUEUE_NUM then modify fun device => { device with queueNum := value }
  else if address = QUEUE_READY then modify fun device => { device with queueReady := value }
  else if address = QUEUE_DESC_LOW then
    modify fun device => { device with descAddr := setLow device.descAddr value }
  else if address = QUEUE_DESC_HIGH then
    modify fun device => { device with descAddr := setHigh device.descAddr value }
  else if address = DRIVER_DESC_LOW then
    modify fun device => { device with availAddr := setLow device.availAddr value }
  else if address = DRIVER_DESC_HIGH then
    modify fun device => { device with availAddr := setHigh device.availAddr value }
  else if address = DEVICE_DESC_LOW then
    modify fun device => { device with usedAddr := setLow device.usedAddr value }
  else if address = DEVICE_DESC_HIGH then
    modify fun device => { device with usedAddr := setHigh device.usedAddr value }
  else if address = QUEUE_NOTIFY then processQueue value
  else if address = INTERRUPT_ACK then
    modify fun device =>
      { device with interruptStatus := Int.land device.interruptStatus (Int.lnot value) }
  else if address = STATUS then
    modify fun device =>
      let device := { device with status := value }
      if value = 0 then
        -- driver-initiated reset
        { device with
          queueReady := 0, queueNum := 0, descAddr := 0, availAddr := 0, usedAddr := 0
          lastAvailIdx := fun _ => none }
      else device
  else return ()

end VirtIOBlk

end Riscvm.Python
