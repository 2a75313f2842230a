import Riscvm.Lockstep.Controllers
import Riscvm.Lockstep.Dma
import Riscvm.Lockstep.Drivers
import Riscvm.Lockstep.Ports

/-!
# The two machines' buses

`Boards` relates the devices of the XV6 machine in Python to the bus of the Rust machine. The harts
load and store anywhere, the clock ticks, bytes arrive, and each hart asks whether its timer has run
out and whether an interrupt is claimable in a context.
-/

namespace Riscvm.Lockstep

open Exec TwosComplement Rv64rs Disks

/-- The window of a device. -/
def deviceWindow : Python.Device → Window
  | .ram => .ram
  | .clint => .clint
  | .uart => .uart
  | .virtio => .virtio
  | .plic => .plic

/-- The line of a device; one without a line is never pending. -/
def deviceLine : Python.Device → IrqLine
  | .uart => .uart
  | .virtio => .virtio
  | .ram | .clint | .plic => .external 0

/-- The devices hold the same, and the windows are where the Python bus has its ranges. -/
structure Boards [Python.Interpreter] (range : Window → Range) (machine : Python.XV6) (bus : Bus) :
    Prop where
  disk : Mirrors (surroundings bus) machine.virtio bus
  timers : SameTimers machine.clint bus.dev.clint
  ports : Ports machine.uart bus.dev.uart
  words : SameWords machine.plic bus.dev.plic
  lines : ∀ entry, (∃ d ∈ machine.devicesByIrq, (d.1, deviceLine d.2) = entry) ↔
    ∃ d ∈ bus.dev.plic.devicesByIrq, (d.1.toNat, d.2) = entry
  ranges : bus.range = range
  apart : ∀ w v, v ≠ w → (range w).Apart (range v)
  mapped : ∀ r device, machine.devices.lookup r = some device → device ≠ .ram →
    r = windowRange bus (deviceWindow device) ∧ bus.holds (deviceWindow device) = true

section Parts

variable [Python.Interpreter] {range : Window → Range} {machine : Python.XV6} {bus : Bus}

/-- The registers of the block device do not depend on the other devices. -/
theorem Disks.Mirrors.withDev {around : Surroundings} {device : Python.VirtIOBlk} {dev : Devices}
    (mirrors : Mirrors around device bus) (same : dev.virtio = bus.dev.virtio) :
    Mirrors (surroundings { bus with dev }) device { bus with dev } := by
  obtain ⟨clint, uart, plic, virtio⟩ := dev
  obtain rfl := same
  exact { mirrors with memory := mirrors.memory.withDev _, around := rfl }

/-- The windows do not depend on what the devices hold. -/
theorem Boards.mapped_withDev (boards : Boards range machine bus) (dev : Devices) :
    ∀ r device, machine.devices.lookup r = some device → device ≠ .ram →
      r = windowRange { bus with dev } (deviceWindow device) ∧
        Bus.holds { bus with dev } (deviceWindow device) = true := by
  rw [windowRange_withDev, holds_withDev]
  exact boards.mapped

theorem Boards.withClint (boards : Boards range machine bus) {python : Python.Clint}
    {rust : Clint} (timers : SameTimers python rust) :
    Boards range { machine with clint := python }
      { bus with dev := { bus.dev with clint := rust } } :=
  { boards with
    disk := boards.disk.withDev rfl
    timers := timers
    ranges := (range_withDev _ _).trans boards.ranges
    mapped := boards.mapped_withDev _ }

theorem Boards.withUart (boards : Boards range machine bus) {python : Python.UartPort}
    {rust : Uart} (ports : Ports python rust) :
    Boards range { machine with uart := python }
      { bus with dev := { bus.dev with uart := rust } } :=
  { boards with
    disk := boards.disk.withDev rfl
    ports := ports
    ranges := (range_withDev _ _).trans boards.ranges
    mapped := boards.mapped_withDev _ }

theorem Boards.withPlic (boards : Boards range machine bus) {python : Python.Plic}
    {rust : Plic} (words : SameWords python rust)
    (devices : rust.devicesByIrq = bus.dev.plic.devicesByIrq) :
    Boards range { machine with plic := python }
      { bus with dev := { bus.dev with plic := rust } } :=
  { boards with
    disk := boards.disk.withDev rfl
    words := words
    lines := devices ▸ boards.lines
    ranges := (range_withDev _ _).trans boards.ranges
    mapped := boards.mapped_withDev _ }

/-- The block device changes memory and itself. -/
theorem Boards.withDisk (boards : Boards range machine bus) {virtio : Python.VirtIOBlk}
    {bus' : Bus} (mirrors : Mirrors (surroundings bus) virtio bus') :
    Boards range { machine with virtio } bus' := by
  have haround := mirrors.around
  have hclint : bus'.dev.clint = bus.dev.clint := congrArg Surroundings.clint haround
  have huart : bus'.dev.uart = bus.dev.uart := congrArg Surroundings.uart haround
  have hplic : bus'.dev.plic = bus.dev.plic := congrArg Surroundings.plic haround
  have hrange : bus'.range = bus.range := congrArg Surroundings.range haround
  have hholds : bus'.holds = bus.holds := congrArg Surroundings.holds haround
  have hwindow : windowRange bus' = windowRange bus := by
    funext w
    rw [windowRange, windowRange, hrange]
  exact {
    disk := haround ▸ mirrors
    timers := hclint ▸ boards.timers
    ports := huart ▸ boards.ports
    words := hplic ▸ boards.words
    lines := hplic ▸ boards.lines
    ranges := hrange.trans boards.ranges
    apart := boards.apart
    mapped := by
      rw [hwindow, hholds]
      exact boards.mapped }

theorem Boards.status (boards : Boards range machine bus) (device : Python.Device) :
    machine.interruptStatus device = ((bus.dev.level (deviceLine device)).toNat : Int) := by
  cases device with
  | uart => exact boards.ports.interruptStatus
  | virtio => exact boards.disk.interruptStatus
  | ram | clint | plic => rfl

/-- The PLICs see the same lines. -/
theorem Boards.sameLines (boards : Boards range machine bus) :
    SameLines bus.dev.level machine.plicNow bus.dev.plic := by
  intro irq
  have hpython : machine.plicNow.Pending irq ↔ ∃ d ∈ machine.devicesByIrq,
      d.1 = irq ∧ bus.dev.level (deviceLine d.2) &&& 1 ≠ 0 := by
    rw [Python.Plic.Pending, Python.XV6.plicNow, exists_mem_map]
    simp only [boards.status, land_one_ne_zero]
  rw [hpython, Plic.Pending]
  constructor
  · rintro ⟨d, hd, rfl, hlevel⟩
    obtain ⟨e, he, heq⟩ := (boards.lines _).mp ⟨d, hd, rfl⟩
    obtain ⟨hirq, hline⟩ := Prod.mk.inj heq
    exact ⟨e, he, hirq, hline ▸ hlevel⟩
  · rintro ⟨e, he, rfl, hlevel⟩
    obtain ⟨d, hd, heq⟩ := (boards.lines _).mpr ⟨e, he, rfl⟩
    obtain ⟨hirq, hline⟩ := Prod.mk.inj heq
    exact ⟨d, hd, hirq, hline ▸ hlevel⟩

/-- The registers of the controller do not depend on its lines. -/
theorem Boards.wordsNow (boards : Boards range machine bus) :
    SameWords machine.plicNow bus.dev.plic where
  word r := by
    refine Eq.trans ?_ (boards.words.word r)
    cases r <;> rfl
  unused r hr := by
    refine Eq.trans ?_ (boards.words.unused r hr)
    cases r <;> rfl
  registered := boards.words.registered

/-- An access of a device in Python is one of the same device in Rust. -/
theorem Boards.located (boards : Boards range machine bus) {address : U64} {size : U8}
    {machine' : Python.XV6} {found : Python.Device × (Int × Int)}
    (h : Python.XV6.getDevice address.toNat size.toNat machine = .ok found machine') :
    machine' = machine ∧ (found.1 ≠ .ram →
      bus.locate address (size.setWidth 64) = some (deviceWindow found.1) ∧
      bus.holds (deviceWindow found.1) = true ∧
      (address.toNat : Int) - found.2.1 =
        ((bus.offset (deviceWindow found.1) address).toNat : Int)) := by
  obtain ⟨m, hget, rfl, hlookup⟩ := Python.XV6.getDevice_ok h
  obtain ⟨rfl, hpos, hstart, hstop⟩ := Python.RangeManger.getRange_ok hget
  refine ⟨rfl, fun hdevice => ?_⟩
  obtain ⟨hrange, hholds⟩ := boards.mapped _ _ hlookup hdevice
  have apart := boards.apart (deviceWindow found.1)
  rw [← boards.ranges] at apart
  rw [hrange] at hstart hstop ⊢
  obtain ⟨hlocate, hoffset, -⟩ := reaches boards.disk.memory.wf apart hpos hstart hstop
  rw [ofInt_toNat] at hlocate hoffset
  exact ⟨hlocate, hholds, hoffset.symm⟩

/-- The interrupt enable register of the UART. -/
def readsEnables (bus : Bus) (address : U64) (size : U8) : Bool :=
  match bus.locate address (size.setWidth 64) with
  | some .uart => enablesAt (bus.offset .uart address) bus.dev.uart.dlab
  | _ => false

/-- An access that RAM serves in Python reaches memory. -/
theorem Boards.readsEnables_memory (boards : Boards range machine bus) {address : U64} {size : U8}
    {value : Int} {virtio : Python.VirtIOBlk}
    (h : Python.VirtIOBlk.onBus (Python.Bus.read address.toNat size.toNat) machine.virtio =
      .ok value virtio) :
    readsEnables bus address size = false := by
  obtain ⟨board, hread, -⟩ := onBus_ok h
  rw [Python.Bus.read, bind_eq_ok] at hread
  obtain ⟨found, board', hdevice, -⟩ := hread
  obtain ⟨-, w, hmemory, -, hlocate, -⟩ := boards.disk.memory.reach hdevice
  rw [ofInt_toNat] at hlocate
  rw [readsEnables, hlocate]
  cases w with
  | ram | stack | bootloader => rfl
  | clint | uart | plic | virtio => cases hmemory

end Parts

section Accesses

variable [Host] [Python.Interpreter] {range : Window → Range} {machine : Python.XV6} {bus : Bus}

/-- What a hart reads, and whether it is the interrupt enable register of the UART. -/
def sight (address : U64) (size : U8) : Call Bus Sighting := do
  let bus ← get
  let value ← Bus.read address size
  return .value (readsEnables bus address size) value

omit [Python.Interpreter] in
theorem sight_ok {address value : U64} {size : U8} {bus' : Bus} {enables : Bool}
    (hread : Bus.read address size bus = .ok value bus')
    (henables : readsEnables bus address size = enables) :
    sight address size bus = .ok (.value enables value) bus' := by
  rw [sight, get_bind_apply, bind_ok hread, henables]
  rfl

theorem Boards.read_located (boards : Boards range machine bus) {address : U64} {size : U8}
    {w : Window} (h : bus.locate address (size.setWidth 64) = some w) :
    Bus.read address size bus = Bus.readWindow false w (bus.offset w address) size bus := by
  rw [Bus.read, Bus.readAt_eq boards.disk.memory.wf.bounded, h]

theorem Boards.write_located (boards : Boards range machine bus) {address value : U64} {size : U8}
    {w : Window} (h : bus.locate address (size.setWidth 64) = some w) :
    Bus.write address size value bus =
      Bus.writeWindow VirtIOBlk.write w (bus.offset w address) size value bus := by
  rw [Bus.write, Bus.writeWith_eq boards.disk.memory.wf.bounded, h]

omit [Host] [Python.Interpreter] in
theorem unwrap_bind {α : Type} {handle : Bool} (held : handle = true) (x : Unit → Call Bus α) :
    (Bus.unwrap handle >>= x) bus = x () bus := by
  rw [held]
  rfl

/-- A load of a hart. -/
theorem Boards.load_follows (boards : Boards range machine bus) (address : U64) (size : U8) :
    SimulatesAt (Boards range) (fun v sighting => v = sighting.python)
      (Python.XV6.read address.toNat size.toNat) (sight address size) machine bus := by
  intro value machine' h
  rw [Python.XV6.read, bind_eq_ok] at h
  obtain ⟨⟨device, r⟩, machine₁, hdevice, h⟩ := h
  obtain ⟨rfl, located⟩ := boards.located hdevice
  dsimp only at h located
  cases device with
  | ram =>
      obtain ⟨virtio, hvirtio, rfl⟩ := Python.XV6.on_ok h
      obtain ⟨word, bus', hread, mirrors, hvalue⟩ :=
        Disks.load_follows boards.disk address size value virtio hvirtio
      exact ⟨_, bus', sight_ok hread (boards.readsEnables_memory hvirtio),
        boards.withDisk mirrors, hvalue⟩
  | clint =>
      obtain ⟨hlocate, hholds, hoffset⟩ := located (by decide)
      rw [hoffset] at h
      obtain ⟨clint, hclint, rfl⟩ := Python.XV6.on_ok h
      obtain ⟨word, rust, hrust, timers, hvalue⟩ :=
        boards.timers.read (bus.offset .clint address) size value clint hclint
      have hread := (boards.read_located hlocate).trans <|
        (unwrap_bind hholds _).trans (zoom_ok hrust)
      refine ⟨.value false word, _, sight_ok hread ?_, boards.withClint timers, hvalue⟩
      rw [readsEnables, hlocate]
      rfl
  | uart =>
      obtain ⟨hlocate, hholds, hoffset⟩ := located (by decide)
      rw [hoffset] at h
      obtain ⟨port, hport, rfl⟩ := Python.XV6.on_ok h
      obtain ⟨word, rust, hrust, ports, hvalue⟩ :=
        uart_read_follows boards.ports (bus.offset .uart address) size value port hport
      have hread := (boards.read_located hlocate).trans <|
        (unwrap_bind hholds _).trans (zoom_ok hrust)
      refine ⟨_, _, sight_ok hread ?_, boards.withUart ports, hvalue⟩
      rw [readsEnables, hlocate]
      rfl
  | virtio =>
      obtain ⟨hlocate, hholds, hoffset⟩ := located (by decide)
      rw [hoffset] at h
      obtain ⟨virtio, hvirtio, rfl⟩ := Python.XV6.on_ok h
      obtain ⟨word, bus', hrust, mirrors, hvalue⟩ :=
        Disks.read_follows boards.disk (bus.offset .virtio address) size value virtio hvirtio
      have hread := (boards.read_located hlocate).trans <| (unwrap_bind hholds _).trans hrust
      refine ⟨.value false word, bus', sight_ok hread ?_, boards.withDisk mirrors, hvalue⟩
      rw [readsEnables, hlocate]
      rfl
  | plic =>
      obtain ⟨hlocate, hholds, hoffset⟩ := located (by decide)
      rw [hoffset] at h
      obtain ⟨plic, hplic, rfl⟩ := Python.XV6.on_ok h
      obtain ⟨rfl, word, hrust, hvalue⟩ :=
        boards.wordsNow.read (σ := Bus) boards.sameLines hplic
      rw [← Devices.lineStatus_false] at hrust
      have hread := (boards.read_located hlocate).trans <|
        (unwrap_bind hholds _).trans (congrFun hrust bus)
      refine ⟨.value false word, bus, sight_ok hread ?_, boards.withPlic boards.wordsNow rfl,
        hvalue⟩
      rw [readsEnables, hlocate]
      rfl

/-- A store on a machine whose block device reaches memory only. -/
theorem Boards.storeOwn_follows (limits : Fits) (release : Host.overflowChecks = false)
    (boards : Boards range machine bus) {address : U64} {size : U8} {value : U64}
    (atPlic : (range .plic).Contains address (size.setWidth 64) →
      value.toNat < 2 ^ 32 ∧ Addressed (address - (range .plic).start))
    (atDisk : (range .virtio).Contains address (size.setWidth 64) → value.toNat < 2 ^ 32) :
    SimulatesAt (Boards range) (fun _ _ => True)
      (Python.XV6.writeOwn address.toNat size.toNat value.toNat) (Bus.write address size value)
      machine bus := by
  intro u machine' h
  rw [Python.XV6.writeOwn, Python.XV6.writeWith, bind_eq_ok] at h
  obtain ⟨⟨device, r⟩, machine₁, hdevice, h⟩ := h
  obtain ⟨rfl, located⟩ := boards.located hdevice
  dsimp only at h located
  cases device with
  | ram =>
      obtain ⟨virtio, hvirtio, rfl⟩ := Python.XV6.on_ok h
      obtain ⟨_, bus', hwrite, mirrors, -⟩ :=
        Disks.store_follows boards.disk address size value u virtio hvirtio
      exact ⟨_, bus', hwrite, boards.withDisk mirrors, trivial⟩
  | clint =>
      obtain ⟨hlocate, hholds, hoffset⟩ := located (by decide)
      rw [hoffset] at h
      obtain ⟨clint, hclint, rfl⟩ := Python.XV6.on_ok h
      obtain ⟨_, rust, hrust, timers, -⟩ :=
        boards.timers.write (bus.offset .clint address) size value u clint hclint
      exact ⟨_, _, (boards.write_located hlocate).trans <|
        (unwrap_bind hholds _).trans (zoom_ok hrust), boards.withClint timers, trivial⟩
  | uart =>
      obtain ⟨hlocate, hholds, hoffset⟩ := located (by decide)
      rw [hoffset] at h
      obtain ⟨port, hport, rfl⟩ := Python.XV6.on_ok h
      obtain ⟨_, rust, hrust, ports, -⟩ :=
        uart_write_follows boards.ports (bus.offset .uart address) size value u port hport
      exact ⟨_, _, (boards.write_located hlocate).trans <|
        (unwrap_bind hholds _).trans (zoom_ok hrust), boards.withUart ports, trivial⟩
  | virtio =>
      obtain ⟨hlocate, hholds, hoffset⟩ := located (by decide)
      rw [hoffset, Python.XV6.writeOwn_virtio] at h
      obtain ⟨virtio, hvirtio, rfl⟩ := Python.XV6.on_ok h
      have narrow := atDisk (boards.ranges ▸ Bus.contains_of_locate hlocate)
      obtain ⟨_, bus', hrust, mirrors, -⟩ :=
        Disks.write_follows limits release boards.disk (bus.offset .virtio address) size narrow u
          virtio hvirtio
      exact ⟨_, bus', (boards.write_located hlocate).trans <|
        (unwrap_bind hholds _).trans hrust, boards.withDisk mirrors, trivial⟩
  | plic =>
      obtain ⟨hlocate, hholds, hoffset⟩ := located (by decide)
      rw [hoffset] at h
      obtain ⟨plic, hplic, rfl⟩ := Python.XV6.on_ok h
      obtain ⟨narrow, hplace⟩ := atPlic (boards.ranges ▸ Bus.contains_of_locate hlocate)
      rw [← boards.ranges] at hplace
      obtain ⟨rust, hrust, words, -, hdevices⟩ := boards.wordsNow.write hplace narrow hplic
      exact ⟨_, _, (boards.write_located hlocate).trans <|
        (unwrap_bind hholds _).trans (zoom_ok hrust), boards.withPlic words hdevices, trivial⟩

/-- A store of a hart that leaves the block device to memory. -/
theorem Boards.store_follows [Python.CallStack] (limits : Fits)
    (release : Host.overflowChecks = false) (boards : Boards range machine bus) {address : U64}
    {size : U8} {value : U64}
    (atPlic : (range .plic).Contains address (size.setWidth 64) →
      value.toNat < 2 ^ 32 ∧ Addressed (address - (range .plic).start))
    (atDisk : (range .virtio).Contains address (size.setWidth 64) → value.toNat < 2 ^ 32)
    (inMemory : Python.XV6.storeInMemory address.toNat size.toNat value.toNat machine = true) :
    SimulatesAt (Boards range) (fun _ _ => True)
      (Python.XV6.write address.toNat size.toNat value.toNat) (Bus.write address size value)
      machine bus := fun u machine' h =>
  boards.storeOwn_follows limits release atPlic atDisk u machine'
    (Python.XV6.write_inMemory inMemory h)

end Accesses

/-- What happens next: a hart accesses memory or a device, the clock ticks, bytes arrive, or a hart
asks for its timer or for an interrupt of a context. -/
inductive BoardStep where
  | load (address : U64) (size : U8)
  | store (address : U64) (size : U8) (value : U64)
  | tick
  | inject (data : List U8)
  | pollInput
  | timer (hart : Nat)
  | external (context : U64)

/-- An answer of yes or no as a level. -/
def flag (answer : Bool) : U32 := if answer then 1 else 0

namespace BoardStep

/-- A store to the PLIC or the block device is of 32 bits, and the PLIC has a place for it. -/
def Tame (range : Window → Range) : BoardStep → Prop
  | .store address size value =>
      ((range .plic).Contains address (size.setWidth 64) →
        value.toNat < 2 ^ 32 ∧ Addressed (address - (range .plic).start)) ∧
      ((range .virtio).Contains address (size.setWidth 64) → value.toNat < 2 ^ 32)
  | .load _ _ | .tick | .inject _ | .pollInput | .timer _ | .external _ => True

theorem Tame.congr {range range' : Window → Range} (plic : range .plic = range' .plic)
    (virtio : range .virtio = range' .virtio) {step : BoardStep} (tame : step.Tame range) :
    step.Tame range' := by
  cases step with
  | store address size value =>
      rw [Tame, ← plic, ← virtio]
      exact tame
  | load | tick | inject | pollInput | timer | external => trivial

/-- The step in Python, with what it answers. -/
def python [Python.Interpreter] [Python.CallStack] : BoardStep → Python.XV6.Call (List Int)
  | .load address size => do return [← Python.XV6.read address.toNat size.toNat]
  | .store address size value => do
      Python.XV6.write address.toNat size.toNat value.toNat
      return []
  | .tick => do
      Python.XV6.onClint Python.Clint.tick
      return []
  | .inject data => do
      modify fun machine => { machine with uart := machine.uart.inject data }
      return []
  | .pollInput => do
      modify fun machine => { machine with uart := machine.uart.pollInput }
      return []
  | .timer hart => do return [(flag (← Python.XV6.onClint (Python.Clint.pending hart))).toNat]
  | .external context => do
      return [(flag ((← get).plicNow.claimable context.toNat)).toNat]

/-- The step in Rust, where the harts share the devices with the bus. -/
def rust [Host] : BoardStep → Call Bus (List Sighting)
  | .load address size => do return [← sight address size]
  | .store address size value => do
      Bus.write address size value
      return []
  | .tick => do
      Bus.onClint (modify Clint.tick)
      return []
  | .inject data => do
      Bus.onUart (modify (Uart.inject data))
      return []
  | .pollInput => do
      Bus.onUart (modify Uart.pollInput)
      return []
  | .timer hart => do return [.line (flag (← (← get).dev.clint.pending hart))]
  | .external context => do
      let bus ← get
      return [.line (flag (← bus.dev.plic.claimable (Bus.lineStatus bus.dev false) context))]

def runPython [Python.Interpreter] [Python.CallStack] :
    List BoardStep → Python.XV6.Call (List Int) := runAll python

/-- In this step the block device reads and writes memory only. -/
def inMemory [Python.Interpreter] [Python.CallStack] (machine : Python.XV6) : BoardStep → Bool
  | .store address size value =>
      Python.XV6.storeInMemory address.toNat size.toNat value.toNat machine
  | .load _ _ | .tick | .inject _ | .pollInput | .timer _ | .external _ => true

/-- In each step of the run the block device reads and writes memory only. -/
def allInMemory [Python.Interpreter] [Python.CallStack] : List BoardStep → Python.XV6 → Bool
  | [], _ => true
  | step :: steps, machine =>
      step.inMemory machine &&
        match step.python machine with
        | .ok _ machine' => allInMemory steps machine'
        | .error _ _ => true

def runRust [Host] : List BoardStep → Call Bus (List Sighting) := runAll rust

section Agreement

variable [Host] [Python.Interpreter] [Python.CallStack] {range : Window → Range}
  {machine machine' : Python.XV6} {bus : Bus}

theorem follows (limits : Fits) (release : Host.overflowChecks = false) (step : BoardStep)
    (tame : step.Tame range) (dma : step.inMemory machine = true)
    (boards : Boards range machine bus) :
    SimulatesAt (Boards range) (Answers Sighting.python) step.python step.rust machine bus := by
  cases step with
  | load address size => exact .answer (boards.load_follows address size)
  | store address size value =>
      exact .silent (boards.store_follows limits release tame.1 tame.2 dma)
  | tick =>
      refine .silent (V := fun _ _ => True) fun u machine' h => ?_
      obtain ⟨clint, hclint, rfl⟩ := Python.XV6.on_ok h
      obtain ⟨_, rust, hrust, timers, -⟩ := boards.timers.tick u clint hclint
      exact ⟨_, _, zoom_ok hrust, boards.withClint timers, trivial⟩
  | inject data =>
      exact .silent (.modify rfl (boards.withUart (boards.ports.inject data)))
  | pollInput =>
      exact .silent (.modify rfl (boards.withUart boards.ports.pollInput))
  | timer hart =>
      intro answers machine' h
      rw [python, bind_eq_ok] at h
      obtain ⟨p, machine₁, hpending, h⟩ := h
      obtain ⟨clint, hclint, rfl⟩ := Python.XV6.on_ok hpending
      obtain ⟨rfl, hrust⟩ := boards.timers.pending (σ := Bus) hclint
      cases h
      refine ⟨[.line (flag p)], bus, ?_, boards, rfl⟩
      rw [rust, get_bind_apply, hrust]
      rfl
  | external context =>
      rintro answers machine' ⟨⟩
      have hrust := boards.wordsNow.claimable (σ := Bus) boards.sameLines context
      rw [← Devices.lineStatus_false] at hrust
      refine ⟨[.line (flag (machine.plicNow.claimable context.toNat))], bus, ?_, boards, rfl⟩
      rw [rust, get_bind_apply, hrust]
      rfl

/-- Two machines in step before the rest of a run. -/
structure Ready (range : Window → Range) (steps : List BoardStep) (machine : Python.XV6)
    (bus : Bus) : Prop where
  boards : Boards range machine bus
  tame : ∀ step ∈ steps, step.Tame range
  dma : allInMemory steps machine = true

/-- A run on boards that hold the same. -/
theorem run_follows (limits : Fits) (release : Host.overflowChecks = false)
    {steps : List BoardStep} (tame : ∀ step ∈ steps, step.Tame range)
    (dma : allInMemory steps machine = true) (boards : Boards range machine bus)
    {answers : List Int} (h : runPython steps machine = .ok answers machine') :
    ∃ sightings bus', runRust steps bus = .ok sightings bus' ∧ Boards range machine' bus' ∧
      answers = sightings.map Sighting.python := by
  have each (step : BoardStep) (steps : List BoardStep) (machine : Python.XV6) (bus : Bus)
      (ready : Ready range (step :: steps) machine bus) :
      SimulatesAt (Ready range steps) (Answers Sighting.python) step.python step.rust machine
        bus := by
    obtain ⟨tame, rest⟩ := List.forall_mem_cons.mp ready.tame
    obtain ⟨dma, restDma⟩ := (Bool.and_eq_true_iff ..).mp ready.dma
    intro answers machine' hstep
    obtain ⟨sightings, bus', hrust, boards, hanswers⟩ :=
      follows limits release step tame dma ready.boards answers machine' hstep
    rw [hstep] at restDma
    exact ⟨sightings, bus', hrust, ⟨boards, rest, restDma⟩, hanswers⟩
  obtain ⟨sightings, bus', hrun, ready, hanswers⟩ :=
    SimulatesAt.runAll each steps ⟨boards, tame, dma⟩ answers machine' h
  exact ⟨sightings, bus', hrun, ready.boards, hanswers⟩

end Agreement

end BoardStep

end Riscvm.Lockstep
