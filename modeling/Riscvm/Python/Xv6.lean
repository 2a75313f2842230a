import Riscvm.Python.Clint
import Riscvm.Python.QueueScript
import Riscvm.Python.UartPort

/-!
# The devices of the XV6 machine in Python

`bus.py` with the devices that `emulator.py` puts on it. The block device is on the bus that it is
given, and so its queue is processed over the whole machine; of that bus `virtio.bus` keeps the
memory. The PLIC reads the lines of the other devices whenever it is asked.
-/

namespace Riscvm.Python

open Exec

/-- What a range of the bus stands for. -/
inductive Device where
  | ram
  | clint
  | uart
  | virtio
  | plic
  deriving DecidableEq, Repr

inductive XV6.Exception where
  | bus (e : Python.Exception)
  | uart (e : UartPort.Exception)
  | virtio (e : VirtIOBlk.Exception)
  | queue (e : DmaScript.Exception)
  | recursionError
  deriving DecidableEq, Repr

/-- How many notifies can be under way inside another before the interpreter's stack is full. -/
class CallStack where
  nested : Nat

/-- The machine without its CPUs. The memory stands in `virtio.bus`; `handle` gives the device the
whole bus. `devicesByIrq` lists the devices whose lines the PLIC reads. -/
structure XV6 where
  rangeManager : RangeManger
  devices : List ((Int × Int) × Device)
  clint : Clint
  uart : UartPort
  virtio : VirtIOBlk
  plic : Plic
  devicesByIrq : List (Nat × Device)

namespace XV6

abbrev Call := EStateM Exception XV6

/-- A call of a part of the machine. -/
def on {σ ε α : Type} (wrap : ε → Exception) (part : XV6 → σ)
    (put : σ → XV6 → XV6) (x : EStateM ε σ α) : Call α := fun machine =>
  match x (part machine) with
  | .ok a s => .ok a (put s machine)
  | .error e s => .error (wrap e) (put s machine)

section Parts

variable {α : Type}

def onRangeManger (x : Python.Call RangeManger α) : Call α :=
  on .bus rangeManager (fun s machine => { machine with rangeManager := s }) x

def onClint (x : Python.Call Clint α) : Call α :=
  on .bus clint (fun s machine => { machine with clint := s }) x

def onUart (x : UartPort.Call α) : Call α :=
  on .uart uart (fun s machine => { machine with uart := s }) x

def onVirtio (x : VirtIOBlk.Call α) : Call α :=
  on .virtio virtio (fun s machine => { machine with virtio := s }) x

/-- `getattr(device, 'interrupt_status', 0)`. -/
def interruptStatus (machine : XV6) : Device → Int
  | .uart => machine.uart.interruptStatus
  | .virtio => machine.virtio.interruptStatus
  | .ram | .clint | .plic => 0

/-- The PLIC with the lines as they are now. -/
def plicNow (machine : XV6) : Plic :=
  { machine.plic with
    devicesByIrq := machine.devicesByIrq.map fun d => (d.1, machine.interruptStatus d.2) }

def onPlic (x : Python.Call Plic α) : Call α :=
  on .bus plicNow (fun s machine => { machine with plic := s }) x

end Parts

/-- `Bus.get_device`. -/
def getDevice (address size : Int) : Call (Device × (Int × Int)) := do
  let range ← onRangeManger (RangeManger.getRange address size)
  match (← get).devices.lookup range with
  | some device => return (device, range)
  | none => throw (.bus .keyError)

/-- `Bus.read`. -/
def read (address size : Int) : Call Int := do
  let (device, range) ← getDevice address size
  match device with
  | .ram => onVirtio (VirtIOBlk.onBus (Bus.read address size))
  | .clint => onClint (Clint.read (address - range.1) size)
  | .uart => onUart (UartPort.read (address - range.1) size)
  | .virtio => onVirtio (VirtIOBlk.read (address - range.1) size)
  | .plic => onPlic (Plic.read (address - range.1) size)

section Writes

variable [Interpreter]

/-- `Bus.write`, where `notify` is what `_process_queue` does. -/
def writeWith (notify : Int → Call Unit) (address size value : Int) : Call Unit := do
  let (device, range) ← getDevice address size
  match device with
  | .ram => onVirtio (VirtIOBlk.onBus (Bus.write address size value))
  | .clint => onClint (Clint.write (address - range.1) size value)
  | .uart => onUart (UartPort.write (address - range.1) size value)
  | .virtio =>
      if size = 4 ∧ address - range.1 = VirtIOBlk.QUEUE_NOTIFY then notify value
      else onVirtio (VirtIOBlk.write (address - range.1) size value)
  | .plic => onPlic (Plic.write (address - range.1) size value)

/-- What the notified device asks of the machine, which stores for it by `store`. -/
def handle (store : Int → Int → Int → Call Unit) : (β : Type) → DmaRequest β → Call β
  | _, .device => do return (← get).virtio
  | _, .setDisk disk => onVirtio (modify fun device => { device with disk })
  | _, .completed queueIdx last => onVirtio (modify (VirtIOBlk.completed queueIdx last))
  | _, .read address size => read address size
  | _, .write address size value => store address size value
  | _, .require holds cause => if holds then pure () else throw (.queue cause)

/-- `_process_queue` on the machine's bus. A store of the device can notify it once more, as often
as the stack has room. -/
def notify : (depth : Nat) → (queueIdx : Int) → Call Unit
  | 0, _ => throw .recursionError
  | depth + 1, queueIdx => (DmaScript.processQueue queueIdx).run
      (handle (writeWith (notify depth)))

/-- `Bus.write`. -/
def write [CallStack] : (address size value : Int) → Call Unit :=
  writeWith (notify (CallStack.nested + 1))

end Writes

def STACK_SIZE : Nat := 0x8000000
def CLINT_BASE : Int := 0x2000000
def CLINT_SIZE : Int := 0x10000
def UART_BASE : Int := 0x10000000
def UART_SIZE : Int := 0x100
def VIRTIO_DISK_BASE : Int := 0x10001000
def VIRTIO_DISK_SIZE : Int := 0x1000
def VIRTIO0_IRQ : Nat := 1
def UART0_IRQ : Nat := 10
def PLIC_BASE : Int := 0xc000000
def PLIC_SIZE : Int := 0xfffffff - PLIC_BASE + 1
def BOOTLOADER_BASE : Int := 0x1000
def DISK_SIZE : Nat := 8 * 1024 * 1024

def bootloader : Ram :=
  [0x97, 0x02, 0x00, 0x00, 0x13, 0x86, 0x82, 0x02, 0x73, 0x25, 0x40, 0xf1, 0x83, 0xb5, 0x02, 0x02,
    0x83, 0xb2, 0x82, 0x01, 0x67, 0x80, 0x02, 0x00, 0x00, 0x00, 0x00, 0x80, 0x00, 0x00, 0x00, 0x00,
    0x00, 0x00, 0x00, 0x87, 0x00, 0x00, 0x00, 0x00]

def stack : Ram := List.replicate STACK_SIZE 0

/-- `Bus.add_device`; `virtio.bus` is the same bus and has the same ranges. -/
def addDevice (entry : (Int × Int) × Device) : Call Unit := do
  onRangeManger (RangeManger.addRange entry.1)
  let machine ← get
  if machine.devices.lookup entry.1 = none then
    let board := { machine.virtio.bus with rangeManager := machine.rangeManager }
    set { machine with
      devices := machine.devices ++ [entry]
      virtio := { machine.virtio with bus := board } }
  else throw (.bus .assertionError)

def attach : List ((Int × Int) × Device) → Call Unit
  | [] => return ()
  | entry :: entries => do
      addDevice entry
      attach entries

/-- What `__init__` puts on the bus, in this order, over memory of these lengths. -/
def layout (ram stack bootloader address stackBegin : Int) : List ((Int × Int) × Device) :=
  [((address, ram), .ram), ((stackBegin, stack), .ram), ((CLINT_BASE, CLINT_SIZE), .clint),
    ((UART_BASE, UART_SIZE), .uart), ((VIRTIO_DISK_BASE, VIRTIO_DISK_SIZE), .virtio),
    ((PLIC_BASE, PLIC_SIZE), .plic), ((BOOTLOADER_BASE, bootloader), .ram)]

/-- The program's length up to the next page. -/
def pages (program : List (BitVec 8)) : Int :=
  ((program.length + 0x1000 - 1) >>> 12 <<< 12 : Nat)

/-- The program, padded to a page. -/
def programRam (program : List (BitVec 8)) : Ram :=
  program ++ List.replicate (pages program - program.length).toNat 0

/-- The devices before any is on the bus, with the memory that will be. -/
def parts (program : List (BitVec 8)) (address : Int) (output : Option (List (BitVec 8)))
    (input : Option (List (Option (List (BitVec 8))))) (diskImage : Option (List (BitVec 8)))
    (ncpu : Nat) : XV6 :=
  let ram := programRam program
  let stackBegin := pages program + address
  let board : Bus := ⟨.new, [((address, ram.length), ram), ((stackBegin, stack.length), stack),
    ((BOOTLOADER_BASE, bootloader.length), bootloader)]⟩
  { rangeManager := .new, devices := [], clint := .new ncpu, uart := .new UART_SIZE output input,
    virtio := .new board DISK_SIZE diskImage, plic := .new PLIC_SIZE [],
    devicesByIrq := [(VIRTIO0_IRQ, .virtio), (UART0_IRQ, .uart)] }

/-- `__init__`, up to the harts. -/
def new (program : List (BitVec 8)) (address : Int) (output : Option (List (BitVec 8)))
    (input : Option (List (Option (List (BitVec 8))))) (diskImage : Option (List (BitVec 8)))
    (ncpu : Nat) : EStateM.Result Exception XV6 Unit :=
  let machine := parts program address output input diskImage ncpu
  if 1 ≤ ncpu then
    attach (layout (programRam program).length stack.length bootloader.length address
      (pages program + address)) machine
  else .error (.bus .assertionError) machine

theorem on_ok {σ ε α : Type} {wrap : ε → Exception} {part : XV6 → σ}
    {put : σ → XV6 → XV6} {x : EStateM ε σ α} {machine machine' : XV6} {a : α}
    (h : on wrap part put x machine = .ok a machine') :
    ∃ s, x (part machine) = .ok a s ∧ machine' = put s machine := by
  rw [on] at h
  cases hx : x (part machine) with
  | ok b s =>
      rw [hx] at h
      cases h
      exact ⟨s, rfl, rfl⟩
  | error e s =>
      rw [hx] at h
      cases h

/-- The range that an access falls into, and what it stands for. -/
theorem getDevice_ok {machine machine' : XV6} {address size : Int}
    {found : Device × (Int × Int)} (h : getDevice address size machine = .ok found machine') :
    ∃ m, RangeManger.getRange address size machine.rangeManager = .ok found.2 m ∧
      machine' = { machine with rangeManager := m } ∧
      machine.devices.lookup found.2 = some found.1 := by
  rw [getDevice, bind_eq_ok] at h
  obtain ⟨range, machine₁, hrange, h⟩ := h
  obtain ⟨m, hget, rfl⟩ := on_ok hrange
  rw [get_bind_apply] at h
  cases hlookup : machine.devices.lookup range with
  | none =>
      simp only [hlookup] at h
      cases h
  | some device =>
      simp only [hlookup] at h
      cases h
      exact ⟨m, hget, rfl, hlookup⟩

theorem attach_ok {entries : List ((Int × Int) × Device)} {machine machine' : XV6} {u : Unit}
    (h : attach entries machine = .ok u machine') :
    ∃ m m', machine' = { machine with
      rangeManager := m
      devices := machine.devices ++ entries
      virtio := { machine.virtio with
        bus := { machine.virtio.bus with rangeManager := m' } } } := by
  induction entries generalizing machine with
  | nil =>
      cases h
      refine ⟨machine'.rangeManager, machine'.virtio.bus.rangeManager, ?_⟩
      rw [List.append_nil]
  | cons entry entries ih =>
      rw [attach, bind_eq_ok] at h
      obtain ⟨_, machine₁, hadd, h⟩ := h
      rw [addDevice, bind_eq_ok] at hadd
      obtain ⟨_, machine₂, hrange, hadd⟩ := hadd
      obtain ⟨m, -, rfl⟩ := on_ok hrange
      rw [get_bind_apply, run_ite] at hadd
      split at hadd
      · cases hadd
        obtain ⟨m', m'', rfl⟩ := ih h
        refine ⟨m', m'', ?_⟩
        dsimp only
        rw [List.append_assoc]
        rfl
      · cases hadd

end XV6

end Riscvm.Python
