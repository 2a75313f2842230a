import Riscvm.Lockstep.Alike
import Riscvm.Lockstep.Disks

/-!
# Drivers

A run of a driver is a list of accesses, of guest memory and of the device's registers. Each step
of the Python device is followed by the Rust device, and so is each run.
-/

namespace Riscvm.Lockstep

open Bytes Exec TwosComplement Rv64rs

namespace Disks

theorem read_eq (address : U64) : VirtIOBlk.read address 4 = (do
    let device ← get
    if address = 0x000#64 then return VirtIOBlk.MAGIC
    else if address = 0x004#64 then return VirtIOBlk.MMIO_VERSION
    else if address = 0x008#64 then return VirtIOBlk.DEVICE_ID_BLK
    else if address = 0x00c#64 then return VirtIOBlk.VENDOR
    else if address = 0x010#64 then return device.deviceFeatures.setWidth 64
    else if address = 0x034#64 then return VirtIOBlk.QUEUE_NUM_MAX_VALUE
    else if address = 0x044#64 then return device.queueReady.setWidth 64
    else if address = 0x060#64 then return device.interruptStatus.setWidth 64
    else if address = 0x070#64 then return device.status.setWidth 64
    else return 0) := by
  rw [VirtIOBlk.read, if_neg (by decide)]
  refine congrArg _ (funext fun device => ?_)
  split
  all_goals simp_all

theorem write_eq [Host] (address value : U64) : VirtIOBlk.write address 4 value =
    (let v32 := value.setWidth 32
    let update (f : VirtIOBlk → VirtIOBlk) : Call Bus Unit := Bus.onVirtio (modify f)
    if address = 0x020#64 then update fun device => { device with driverFeatures := v32 }
    else if address = 0x030#64 then update fun device => { device with queueSel := v32 }
    else if address = 0x038#64 then update fun device => { device with queueNum := v32 }
    else if address = 0x044#64 then update fun device => { device with queueReady := v32 }
    else if address = 0x080#64 then
      update fun device => { device with descAddr := VirtIOBlk.setLow device.descAddr value }
    else if address = 0x084#64 then
      update fun device => { device with descAddr := VirtIOBlk.setHigh device.descAddr value }
    else if address = 0x090#64 then
      update fun device => { device with availAddr := VirtIOBlk.setLow device.availAddr value }
    else if address = 0x094#64 then
      update fun device => { device with availAddr := VirtIOBlk.setHigh device.availAddr value }
    else if address = 0x0a0#64 then
      update fun device => { device with usedAddr := VirtIOBlk.setLow device.usedAddr value }
    else if address = 0x0a4#64 then
      update fun device => { device with usedAddr := VirtIOBlk.setHigh device.usedAddr value }
    else if address = 0x050#64 then VirtIOBlk.processQueue v32
    else if address = 0x064#64 then
      update fun device => { device with interruptStatus := device.interruptStatus &&& ~~~v32 }
    else if address = 0x070#64 then
      update fun device =>
        let device := { device with status := v32 }
        if v32 = 0 then device.reset else device
    else return ()) := by
  rw [VirtIOBlk.write, if_neg (by decide)]
  dsimp only
  split
  all_goals simp_all

section Registers

variable [Python.Interpreter] {around : Surroundings} {device : Python.VirtIOBlk} {bus : Bus}

omit [Python.Interpreter] in
theorem setLow_word (register : U64) {value : U64} :
    Python.VirtIOBlk.setLow register.toNat value.toNat =
      ((VirtIOBlk.setLow register value).toNat : Int) := by
  rw [Python.VirtIOBlk.setLow]
  exact congrArg (Int.lor · value.toNat) (land_lnot_word register 0xffffffff)

omit [Python.Interpreter] in
theorem setHigh_word (register : U64) {value : U64} (hvalue : value.toNat < 2 ^ 32) :
    Python.VirtIOBlk.setHigh register.toNat value.toNat =
      ((VirtIOBlk.setHigh register value).toNat : Int) := by
  have hshift : (value.toNat : Int) <<< 32 = ((value <<< 32).toNat : Int) := by
    rw [BitVec.toNat_shiftLeft, Nat.mod_eq_of_lt]
    · rfl
    · rw [Nat.shiftLeft_eq]
      omega
  rw [Python.VirtIOBlk.setHigh, hshift]
  rfl

/-- A look at the device leaves both sides as they are. -/
theorem looks {α β : Type} {V : α → β → Prop} (mirrors : Mirrors around device bus)
    {x : Python.VirtIOBlk.Call α} {y : Call VirtIOBlk β}
    (h : SimulatesAt (fun d v => d = device ∧ v = bus.dev.virtio) V x y device bus.dev.virtio) :
    SimulatesAt (Mirrors around) V x (Bus.onVirtio y) device bus := by
  intro a device' hx
  obtain ⟨b, virtio, hy, ⟨rfl, rfl⟩, hvalue⟩ := h a device' hx
  exact ⟨b, bus, zoom_ok hy, mirrors, hvalue⟩

/-- An access of another size does not pass the assertion. -/
theorem asserts {α β : Type} {V : α → β → Prop} {size : U8} {x : Python.VirtIOBlk.Call α}
    {y : U8 → Call Bus β} (h : SimulatesAt (Mirrors around) V x (y 4) device bus) :
    SimulatesAt (Mirrors around) V (do Python.VirtIOBlk.assert ((size.toNat : Int) = 4); x) (y size)
      device bus := by
  rcases eq_or_ne size 4 with rfl | hne
  · exact h
  · have hsize : ¬(size.toNat : Int) = 4 := fun h => hne ((toNat_iff (k := 4) (by decide)).mp h)
    rw [Python.VirtIOBlk.assert, if_neg hsize]
    exact .throw fun a s' h => by cases h

/-- What a register holds. -/
theorem read_follows (mirrors : Mirrors around device bus) (address : U64) (size : U8) :
    SimulatesAt (Mirrors around) (fun v w => v = ((w.toNat : Nat) : Int))
      (Python.VirtIOBlk.read address.toNat size.toNat)
      (Bus.onVirtio (VirtIOBlk.read address size)) device bus := by
  refine asserts (y := fun size => Bus.onVirtio (VirtIOBlk.read address size)) ?_
  rw [read_eq]
  have hsmall (word : U32) : ((word.setWidth 64 : U64).toNat : Int) = word.toNat := by
    rw [BitVec.toNat_setWidth_of_le (by decide)]
  refine looks mirrors (.get ?_)
  refine .ite (toNat_iff (k := 0x000) (by decide)) (fun _ => .pure ⟨rfl, rfl⟩ rfl) fun _ => ?_
  refine .ite (toNat_iff (k := 0x004) (by decide)) (fun _ => .pure ⟨rfl, rfl⟩ rfl) fun _ => ?_
  refine .ite (toNat_iff (k := 0x008) (by decide)) (fun _ => .pure ⟨rfl, rfl⟩ rfl) fun _ => ?_
  refine .ite (toNat_iff (k := 0x00c) (by decide)) (fun _ => .pure ⟨rfl, rfl⟩ rfl) fun _ => ?_
  refine .ite (toNat_iff (k := 0x010) (by decide))
    (fun _ => .pure ⟨rfl, rfl⟩ (mirrors.deviceFeatures.trans (hsmall _).symm)) fun _ => ?_
  refine .ite (toNat_iff (k := 0x034) (by decide)) (fun _ => .pure ⟨rfl, rfl⟩ rfl) fun _ => ?_
  refine .ite (toNat_iff (k := 0x044) (by decide))
    (fun _ => .pure ⟨rfl, rfl⟩ (mirrors.queueReady.trans (hsmall _).symm)) fun _ => ?_
  refine .ite (toNat_iff (k := 0x060) (by decide))
    (fun _ => .pure ⟨rfl, rfl⟩ (mirrors.interruptStatus.trans (hsmall _).symm)) fun _ => ?_
  refine .ite (toNat_iff (k := 0x070) (by decide))
    (fun _ => .pure ⟨rfl, rfl⟩ (mirrors.status.trans (hsmall _).symm)) fun _ => ?_
  exact .pure ⟨rfl, rfl⟩ rfl

/-- What a register write does. A wider value than the register is cut by the Rust device only. -/
theorem write_follows [Host] (limits : Fits) (release : Host.overflowChecks = false)
    (mirrors : Mirrors around device bus) (address : U64) (size : U8) {value : U64}
    (hvalue : value.toNat < 2 ^ 32) :
    SimulatesAt (Mirrors around) (fun _ _ => True)
      (Python.VirtIOBlk.write address.toNat size.toNat value.toNat)
      (VirtIOBlk.write address size value) device bus := by
  refine asserts (y := fun size => VirtIOBlk.write address size value) ?_
  rw [write_eq]
  have hword : ((value.toNat : Nat) : Int) = ((value.setWidth 32).toNat : Int) := by
    rw [BitVec.toNat_setWidth, Nat.mod_eq_of_lt hvalue]
  have memory := mirrors.memory.withVirtio
  have low {register : Int} {word : U64} (h : register = word.toNat) :
      Python.VirtIOBlk.setLow register value.toNat = ((VirtIOBlk.setLow word value).toNat : Int) :=
    h ▸ setLow_word word
  have high {register : Int} {word : U64} (h : register = word.toNat) :
      Python.VirtIOBlk.setHigh register value.toNat =
        ((VirtIOBlk.setHigh word value).toNat : Int) :=
    h ▸ setHigh_word word hvalue
  dsimp only
  refine .ite (toNat_iff (k := 0x020) (by decide))
    (fun _ => updates { mirrors with memory := memory _, driverFeatures := hword }) fun _ => ?_
  refine .ite (toNat_iff (k := 0x030) (by decide))
    (fun _ => updates { mirrors with memory := memory _, queueSel := hword }) fun _ => ?_
  refine .ite (toNat_iff (k := 0x038) (by decide))
    (fun _ => updates { mirrors with memory := memory _, queueNum := hword }) fun _ => ?_
  refine .ite (toNat_iff (k := 0x044) (by decide))
    (fun _ => updates { mirrors with memory := memory _, queueReady := hword }) fun _ => ?_
  refine .ite (toNat_iff (k := 0x080) (by decide))
    (fun _ => updates { mirrors with memory := memory _, descAddr := low mirrors.descAddr })
    fun _ => ?_
  refine .ite (toNat_iff (k := 0x084) (by decide))
    (fun _ => updates { mirrors with memory := memory _, descAddr := high mirrors.descAddr })
    fun _ => ?_
  refine .ite (toNat_iff (k := 0x090) (by decide))
    (fun _ => updates { mirrors with memory := memory _, availAddr := low mirrors.availAddr })
    fun _ => ?_
  refine .ite (toNat_iff (k := 0x094) (by decide))
    (fun _ => updates { mirrors with memory := memory _, availAddr := high mirrors.availAddr })
    fun _ => ?_
  refine .ite (toNat_iff (k := 0x0a0) (by decide))
    (fun _ => updates { mirrors with memory := memory _, usedAddr := low mirrors.usedAddr })
    fun _ => ?_
  refine .ite (toNat_iff (k := 0x0a4) (by decide))
    (fun _ => updates { mirrors with memory := memory _, usedAddr := high mirrors.usedAddr })
    fun _ => ?_
  refine .ite (toNat_iff (k := 0x050) (by decide)) (fun _ => ?_) fun _ => ?_
  · rw [hword]
    exact processQueue_follows limits release mirrors _
  refine .ite (toNat_iff (k := 0x064) (by decide)) (fun _ => ?_) fun _ => ?_
  · refine updates { mirrors with memory := memory _, interruptStatus := ?_ }
    rw [hword, mirrors.interruptStatus]
    exact land_lnot_word _ _
  refine .ite (toNat_iff (k := 0x070) (by decide)) (fun _ => ?_) fun _ => .pure mirrors trivial
  refine updates ?_
  by_cases hzero : value.setWidth 32 = (0 : U32)
  · have hzero' : (value.toNat : Int) = 0 :=
      hword.trans ((toNat_iff (k := 0) (by decide)).mpr hzero)
    rw [if_pos hzero, if_pos hzero']
    exact { mirrors with
      memory := memory _, status := hword, queueReady := rfl, queueNum := rfl, descAddr := rfl
      availAddr := rfl, usedAddr := rfl, lastAvailIdx := fun _ => rfl }
  · have hzero' : (value.toNat : Int) ≠ 0 := fun h =>
      hzero ((toNat_iff (k := 0) (by decide)).mp (hword.symm.trans h))
    rw [if_neg hzero, if_neg hzero']
    exact { mirrors with memory := memory _, status := hword }

end Registers

section Memory

variable [Host] [Python.Interpreter] {around : Surroundings} {device : Python.VirtIOBlk}
  {bus : Bus}

/-- A load of the guest. -/
theorem load_follows (mirrors : Mirrors around device bus) (address : U64) (size : U8) :
    SimulatesAt (Mirrors around) (fun v w => v = ((w.toNat : Nat) : Int))
      (Python.VirtIOBlk.onBus (Python.Bus.read address.toNat size.toNat))
      (Bus.read address size) device bus := by
  intro value device' h
  obtain ⟨board, hread, rfl⟩ := onBus_ok h
  have width := width_of_read hread
  obtain ⟨rfl, hword, n, hn, rfl⟩ := mirrors.memory.read width hread
  have hread := hword false
  rw [ofInt_toNat, BitVec.ofInt_natCast] at hread
  refine ⟨_, bus, hread, mirrors, ?_⟩
  have hlt : n < 2 ^ 64 := by
    refine Nat.lt_of_lt_of_le hn ?_
    obtain rfl | rfl | rfl | rfl := width
    all_goals decide
  exact congrArg Int.ofNat (Nat.mod_eq_of_lt hlt).symm

/-- A store of the guest. -/
theorem store_follows (mirrors : Mirrors around device bus) (address : U64) (size : U8)
    (value : U64) :
    SimulatesAt (Mirrors around) (fun _ _ => True)
      (Python.VirtIOBlk.onBus (Python.Bus.write address.toNat size.toNat value.toNat))
      (Bus.write address size value) device bus := by
  intro _ device' h
  obtain ⟨board, hwrite, rfl⟩ := onBus_ok h
  obtain ⟨w, ram, hword, same⟩ := mirrors.memory.write (width_of_write hwrite) hwrite
  have hwritten := hword VirtIOBlk.write
  rw [ofInt_toNat] at hwritten
  exact ⟨(), _, hwritten, mirrors.setMemory same, trivial⟩

end Memory

end Disks

open Disks

/-- What a driver does next: an access of guest memory or of a register, of `size` bytes. -/
inductive DriverStep where
  | load (address : U64) (size : U8)
  | store (address : U64) (size : U8) (value : U64)
  | readRegister (offset : U64) (size : U8)
  | writeRegister (offset : U64) (size : U8) (value : U64)

namespace DriverStep

/-- The value of a register write is one of 32 bits. -/
def Narrow : DriverStep → Prop
  | .writeRegister _ _ value => value.toNat < 2 ^ 32
  | .load _ _ | .store _ _ _ | .readRegister _ _ => True

/-- The step on the Python device, with what it answers. -/
def python [Python.Interpreter] : DriverStep → Python.VirtIOBlk.Call (List Int)
  | .load address size => do
      return [← Python.VirtIOBlk.onBus (Python.Bus.read address.toNat size.toNat)]
  | .store address size value => do
      Python.VirtIOBlk.onBus (Python.Bus.write address.toNat size.toNat value.toNat)
      return []
  | .readRegister offset size => do
      return [← Python.VirtIOBlk.read offset.toNat size.toNat]
  | .writeRegister offset size value => do
      Python.VirtIOBlk.write offset.toNat size.toNat value.toNat
      return []

/-- The step on the Rust device. -/
def rust [Host] : DriverStep → Call Bus (List U64)
  | .load address size => do
      return [← Bus.read address size]
  | .store address size value => do
      Bus.write address size value
      return []
  | .readRegister offset size => do
      return [← Bus.onVirtio (VirtIOBlk.read offset size)]
  | .writeRegister offset size value => do
      VirtIOBlk.write offset size value
      return []

def runPython [Python.Interpreter] : List DriverStep → Python.VirtIOBlk.Call (List Int) :=
  runAll python

def runRust [Host] : List DriverStep → Call Bus (List U64) := runAll rust

section Agreement

variable [Host] [Python.Interpreter] {around : Surroundings} {device device' : Python.VirtIOBlk}
  {bus : Bus}

theorem follows (limits : Fits) (release : Host.overflowChecks = false) (step : DriverStep)
    (narrow : step.Narrow) (mirrors : Mirrors around device bus) :
    SimulatesAt (Mirrors around) (Answers number) step.python step.rust device bus := by
  cases step with
  | load address size => exact .answer (load_follows mirrors address size)
  | store address size value => exact .silent (store_follows mirrors address size value)
  | readRegister offset size => exact .answer (read_follows mirrors offset size)
  | writeRegister offset size value =>
      exact .silent (write_follows limits release mirrors offset size narrow)

/-- Two devices in step before the rest of a run. -/
structure Ready (around : Surroundings) (steps : List DriverStep) (device : Python.VirtIOBlk)
    (bus : Bus) : Prop where
  mirrors : Mirrors around device bus
  narrow : ∀ step ∈ steps, step.Narrow

/-- Whatever a driver does, where the Python device completes its run, the Rust device gives the
same answers and ends with the same RAM, disk and registers. -/
theorem disks_agree (limits : Fits) (release : Host.overflowChecks = false)
    {steps : List DriverStep} (narrow : ∀ step ∈ steps, step.Narrow)
    (mirrors : Mirrors around device bus) {answers : List Int}
    (h : runPython steps device = .ok answers device') :
    ∃ words bus', runRust steps bus = .ok words bus' ∧ Mirrors around device' bus' ∧
      answers = words.map number := by
  have each (step : DriverStep) (steps : List DriverStep) (device : Python.VirtIOBlk) (bus : Bus)
      (ready : Ready around (step :: steps) device bus) :
      SimulatesAt (Ready around steps) (Answers number) step.python step.rust device bus := by
    obtain ⟨narrow, rest⟩ := List.forall_mem_cons.mp ready.narrow
    exact (follows limits release step narrow ready.mirrors).mono
      (fun _ _ mirrors => ⟨mirrors, rest⟩) fun _ _ => id
  obtain ⟨words, bus', hrun, ready, hanswers⟩ :=
    SimulatesAt.runAll each steps ⟨mirrors, narrow⟩ answers device' h
  exact ⟨words, bus', hrun, ready.mirrors, hanswers⟩

end Agreement

section Example

/-- A release build on a host with 4 GiB. -/
@[reducible] def release : Host := ⟨false, 2 ^ 32⟩

@[reducible] def interpreter : Python.Interpreter := ⟨2 ^ 32⟩

attribute [local instance] release interpreter

/-- A disk of four bytes behind a bus with a small RAM. -/
def bareBus : Bus :=
  { Bus.new { Devices.detached with virtio := .new 4 none } with
    ram := .new 192, ramRange := ⟨0x80000000, 192⟩ }

def bareDevice : Python.VirtIOBlk :=
  .new ⟨⟨[0x80000000], [192]⟩, [((0x80000000, 192), List.replicate 192 0)]⟩ 4 none

theorem bare_memory : SameMemory bareDevice.bus bareBus where
  wf := by
    constructor
    · intro w
      cases w <;> decide
    · rintro w ram h
      cases w <;> cases h <;> rfl
  apart w hw v hv := by
    cases w <;> cases v
    all_goals first
      | exact absurd hw Bool.false_ne_true
      | exact absurd rfl hv
      | exact Range.apart_of_le (by decide)
      | exact (Range.apart_of_le (by decide)).symm
  device range data h := by
    have hmem : (range, data) ∈ bareDevice.bus.devices := mem_of_lookup h
    obtain ⟨rfl, rfl⟩ := Prod.mk.inj (List.mem_singleton.mp hmem)
    exact ⟨.ram, rfl, rfl⟩

theorem mirrors_bare : Mirrors (surroundings bareBus) bareDevice bareBus := by
  have fresh : bareBus.dev.virtio = .new 4 none := rfl
  exact mirrors_new bare_memory fresh (by decide)

/-- A driver puts a chain of three descriptors, a header and four bytes of data into RAM, sets the
queue up and notifies the device; then it looks at the interrupt status and the used ring. -/
def session : List DriverStep :=
  [.store 0x80000000 8 0x80000080, .store 0x80000008 8 0x0001000100000010,
    .store 0x80000010 8 0x800000a0, .store 0x80000018 8 0x0002000100000004,
    .store 0x80000020 8 0x800000b0, .store 0x80000028 8 0x0000000000000001,
    .store 0x80000080 4 1, .store 0x800000a0 4 0x04030201, .store 0x80000040 4 0x00010000,
    .writeRegister 0x080 4 0x80000000, .writeRegister 0x090 4 0x80000040,
    .writeRegister 0x0a0 4 0x80000060, .writeRegister 0x038 4 8, .writeRegister 0x044 4 1,
    .writeRegister 0x050 4 0, .readRegister 0x060 4, .load 0x80000062 2]

/-- The bytes are on the Rust disk too. -/
theorem disks_agree_session : ∃ words bus', runRust session bareBus = .ok words bus' ∧
    Mirrors (surroundings bareBus) (finish (runPython session bareDevice)) bus' ∧
    [1, 1] = words.map number := by
  have hrun : runPython session bareDevice = .ok [1, 1] (finish (runPython session bareDevice)) :=
    eq_ok_of_answered (by decide +kernel)
  refine disks_agree ⟨by decide, by decide⟩ rfl ?_ mirrors_bare hrun
  simp [session, Narrow]

end Example

end DriverStep

end Riscvm.Lockstep
