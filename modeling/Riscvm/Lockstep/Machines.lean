import Riscvm.Lockstep.Boards
import Riscvm.Lockstep.Managers
import Riscvm.Rv64rs.Boot

/-!
# The two XV6 machines

Both machines build the same board of the same program, and then no run of the harts, the clock and
the console tells them apart, as long as the Python machine completes it.
-/

namespace Riscvm.Lockstep

open Exec TwosComplement Rv64rs Xv6Emulator

section Rust

variable [Host] {program : List U8} {address : U64} {uartOutput : Option (List U8)}
  {uartInput : Option (List (Option (List U8)))} {diskImage : Option (List U8)} {ncpu : U64}
  {emu : Xv6Emulator} {left : Bus}

theorem attach_memories {stackBegin : U64} {bus bus' : Bus}
    (h : attach program address stackBegin uartOutput uartInput diskImage ncpu bus = .ok () bus') :
    (∃ size, bus'.ram = .withContent size program) ∧ bus'.stack = .new STACK_SIZE ∧
      bus'.bootloader.data = BOOTLOADER := by
  refine ⟨?_, ?_, Boot.attach_bootloader h⟩
  all_goals
    simp only [attach, bind_eq_ok, Bus.setRam_eq_ok, Bus.setStack_eq_ok, Bus.setClint_eq_ok,
      Bus.setUart_eq_ok, Bus.setVirtio_eq_ok, Bus.setPlic_eq_ok, Bus.setBootloader_eq_ok] at h
    obtain ⟨size, _, -, _, _, -, _, _, -, _, _, ⟨_, _, -, hram⟩, _, _, ⟨_, _, -, hstack⟩, _, _,
      ⟨_, _, -, hclint⟩, _, _, ⟨_, _, -, huart⟩, _, _, hdisk, _, _, ⟨_, _, -, hvirtio⟩, _, _,
      ⟨_, _, -, hplic⟩, _, _, -, hboot⟩ := h
    have hsame := (readOnly_allocateDisk _ _).state_eq hdisk
  · exact ⟨size, by simp only [hboot, hplic, hvirtio, hsame, huart, hclint, hstack, hram]⟩
  · simp only [hboot, hplic, hvirtio, hsame, huart, hclint, hstack]

omit [Host] in
/-- Windows that are apart one after the other are apart each from each. -/
theorem apart_of_windows {bus : Bus} (h : bus.windows.Pairwise Range.Apart) :
    ∀ w v, v ≠ w → (bus.range w).Apart (bus.range v) := by
  have hwindows : bus.windows = [Window.ram, .stack, .bootloader, .clint, .uart, .plic,
    .virtio].map bus.range := rfl
  rw [hwindows, List.pairwise_map] at h
  intro w v hne
  have : Std.Symm fun w v => (bus.range w).Apart (bus.range v) := ⟨fun _ _ => Range.Apart.symm⟩
  refine h.forall ?_ ?_ hne.symm
  · cases w <;> decide
  · cases v <;> decide

/-- Where a machine that is built has its windows, and what is in its memory. -/
structure Built (program : List U8) (address : U64) (bus : Bus) : Prop where
  ram : bus.range .ram = ⟨address, BitVec.ofNat 64 (pageBytes program.length)⟩
  stack : (bus.range .stack).start.toNat = address.toNat + pageBytes program.length
  stackSize : (bus.range .stack).size = STACK_SIZE
  devices : ∀ w, w ≠ .ram → w ≠ .stack → bus.range w = kernelWindows w
  ramData : bus.ram.data =
    program ++ List.replicate (pageBytes program.length - program.length) 0
  stackData : bus.stack.data = List.replicate STACK_SIZE.toNat 0
  bootloaderData : bus.bootloader.data = BOOTLOADER
  pages : pageBytes program.length < 2 ^ 64

theorem built (boot : newSmp program address uartOutput uartInput diskImage ncpu = .ok emu left) :
    Built program address emu.bus := by
  obtain ⟨ramLen, stackBegin, hram, hstack, hreserves, hwindows⟩ := newSmp_spec boot
  obtain ⟨sb, -, -, hattach, -⟩ := newSmp_ok boot
  obtain ⟨⟨size, hdata⟩, hstackData, hbootloader⟩ := attach_memories hattach
  obtain ⟨hvalid, -, -⟩ := hreserves.clears RangeManager.new_disjoint.toSorted
  simp only [Bus.windows, List.cons.injEq] at hwindows
  obtain ⟨hramRange, hstackRange, hboot, hclint, huart, hplic, hvirtio, -⟩ := hwindows
  rw [reservations, List.forall_mem_cons, List.forall_mem_cons] at hvalid
  have hbound : address.toNat + ramLen.toNat < 2 ^ 64 := hvalid.1.2
  have hbegin : stackBegin.toNat = address.toNat + pageBytes program.length := by
    rw [hstack, BitVec.toNat_add, hram]
    omega
  have hlen : BitVec.ofNat 64 (pageBytes program.length) = ramLen := by
    rw [← hram, BitVec.ofNat_toNat, BitVec.setWidth_eq]
  have hramRange' : emu.bus.range .ram = ⟨address, ramLen⟩ := hramRange
  have hlength := (booted_newSmp boot).wf.length .ram emu.bus.ram rfl
  rw [hramRange', hdata, Ram.withContent, List.length_append, List.length_replicate] at hlength
  refine ⟨hramRange'.trans (by rw [hlen]), ?_, ?_, fun w hr hs => ?_, ?_, ?_, hbootloader, ?_⟩
  · exact (congrArg (fun r : Range => r.start.toNat) hstackRange).trans hbegin
  · exact congrArg Range.size hstackRange
  · cases w with
    | ram => exact absurd rfl hr
    | stack => exact absurd rfl hs
    | bootloader => exact hboot
    | clint => exact hclint
    | uart => exact huart
    | plic => exact hplic
    | virtio => exact hvirtio
  · rw [hdata, Ram.withContent]
    refine congrArg (program ++ List.replicate · 0) ?_
    dsimp only at hlength
    omega
  · rw [hstackData, Ram.new]
  · omega

end Rust

theorem pages_eq (program : List U8) :
    Python.XV6.pages program = (pageBytes program.length : Int) := by
  rw [Python.XV6.pages, Nat.shiftLeft_eq, Nat.shiftRight_eq_div_pow, pageBytes]
  rfl

section Boot

variable [Host] [Python.Interpreter] {program : List U8} {address : U64} {output : Bool}
  {input : Option (List (Option (List U8)))} {diskImage : Option (List U8)} {ncpu : U64}
  {emu : Xv6Emulator} {left : Bus} {machine : Python.XV6} {u : Unit}

/-- What a file to print to holds when it is opened. -/
def opened (output : Bool) : Option (List U8) := if output then some [] else none

omit [Host] [Python.Interpreter] in
theorem programRam_eq : Python.XV6.programRam program =
    program ++ List.replicate (pageBytes program.length - program.length) 0 := by
  rw [Python.XV6.programRam, pages_eq]
  refine congrArg (program ++ List.replicate · 0) ?_
  omega

omit [Host] [Python.Interpreter] in
theorem programRam_length :
    ((Python.XV6.programRam program).length : Int) = pageBytes program.length := by
  have hpages : program.length ≤ pageBytes program.length := by
    rw [pageBytes]
    omega
  rw [programRam_eq, List.length_append, List.length_replicate]
  omega

omit [Host] [Python.Interpreter] in
theorem stack_length : (Python.XV6.stack.length : Int) = 0x8000000 := by
  rw [Python.XV6.stack, List.length_replicate]
  rfl

omit [Python.Interpreter] in
/-- The memory of both is the same. -/
theorem memory_boot
    (boot : newSmp program address (opened output) input diskImage ncpu = .ok emu left)
    (clear : ClearOfDevices program.length address) (m : Python.RangeManger) :
    SameMemory { (Python.XV6.parts program address.toNat (opened output) input diskImage
      ncpu.toNat).virtio.bus with rangeManager := m } emu.bus where
  wf := (booted_newSmp boot).wf
  apart w _ := apart_of_windows ((windows_apart_iff boot).mpr clear) w
  device range data h := by
    have built := built boot
    have hmem : (range, data) ∈ (Python.XV6.parts program address.toNat (opened output) input
      diskImage ncpu.toNat).virtio.bus.devices := mem_of_lookup h
    have hpages : (BitVec.ofNat 64 (pageBytes program.length)).toNat =
        pageBytes program.length := by
      rw [BitVec.toNat_ofNat, Nat.mod_eq_of_lt built.pages]
    simp only [Python.XV6.parts, Python.VirtIOBlk.new, List.mem_cons, List.not_mem_nil, or_false,
      Prod.mk.injEq] at hmem
    obtain ⟨rfl, rfl⟩ | ⟨rfl, rfl⟩ | ⟨rfl, rfl⟩ := hmem
    · refine ⟨.ram, congrArg (fun d => some (⟨d⟩ : Ram)) (built.ramData.trans programRam_eq.symm),
        ?_⟩
      rw [windowRange, built.ram, programRam_length, hpages]
    · refine ⟨.stack, congrArg (fun d => some (⟨d⟩ : Ram)) built.stackData, ?_⟩
      rw [windowRange, built.stack, built.stackSize, stack_length, pages_eq, Int.add_comm]
      rfl
    · refine ⟨.bootloader, congrArg (fun d => some (⟨d⟩ : Ram)) built.bootloaderData, ?_⟩
      rw [windowRange, built.devices .bootloader (by decide) (by decide)]
      rfl

omit [Host] [Python.Interpreter] in
/-- What a machine holds after its construction. -/
theorem new_ok (h : Python.XV6.new program address.toNat (opened output) input diskImage
    ncpu.toNat = .ok u machine) :
    ∃ m m', machine = { Python.XV6.parts program address.toNat (opened output) input diskImage
        ncpu.toNat with
      rangeManager := m
      devices := Python.XV6.layout (Python.XV6.programRam program).length Python.XV6.stack.length
        Python.XV6.bootloader.length address.toNat (Python.XV6.pages program + address.toNat)
      virtio := { (Python.XV6.parts program address.toNat (opened output) input diskImage
        ncpu.toNat).virtio with
        bus := { (Python.XV6.parts program address.toNat (opened output) input diskImage
          ncpu.toNat).virtio.bus with rangeManager := m' } } } := by
  rw [Python.XV6.new] at h
  split at h
  · exact Python.XV6.attach_ok h
  · cases h

/-- The size of the disk. -/
def diskBytes (diskImage : Option (List U8)) : Nat :=
  max Python.XV6.DISK_SIZE ((diskImage.map List.length).getD 0)

omit [Host] [Python.Interpreter] in
theorem disk_length :
    (VirtIOBlk.new VIRTIO_DISK_SIZE_DEFAULT diskImage).disk.length = diskBytes diskImage := by
  cases diskImage with
  | none => exact List.length_replicate
  | some image =>
      change (image ++ List.replicate (Python.XV6.DISK_SIZE - image.length) 0).length =
        max Python.XV6.DISK_SIZE image.length
      rw [List.length_append, List.length_replicate]
      omega

omit [Host] [Python.Interpreter] in
theorem words_boot : SameWords (.new Python.XV6.PLIC_SIZE []) Xv6Emulator.plic where
  word r := by cases r <;> rfl
  unused r _ := by cases r <;> rfl
  registered := by
    rw [Plic.Registered]
    decide

omit [Host] [Python.Interpreter] in
/-- The one machine registers the disk first, the other the console. -/
theorem lines_boot (entry : Nat × IrqLine) :
    (∃ d ∈ [(Python.XV6.VIRTIO0_IRQ, Python.Device.virtio),
        (Python.XV6.UART0_IRQ, Python.Device.uart)], (d.1, deviceLine d.2) = entry) ↔
      ∃ d ∈ Xv6Emulator.plic.devicesByIrq, (d.1.toNat, d.2) = entry := by
  have hrust : Xv6Emulator.plic.devicesByIrq = [(UART0_IRQ, .uart), (VIRTIO0_IRQ, .virtio)] := rfl
  have huart : UART0_IRQ.toNat = Python.XV6.UART0_IRQ := by decide
  have hvirtio : VIRTIO0_IRQ.toNat = Python.XV6.VIRTIO0_IRQ := by decide
  simp only [hrust, List.exists_mem_cons_iff, List.not_mem_nil, false_and, exists_false, or_false,
    deviceLine, huart, hvirtio]
  exact or_comm

omit [Python.Interpreter] in
theorem mapped_boot
    (boot : newSmp program address (opened output) input diskImage ncpu = .ok emu left)
    {ram stack bootloader start stackBegin : Int} {r : Int × Int} {device : Python.Device}
    (h : (Python.XV6.layout ram stack bootloader start stackBegin).lookup r = some device)
    (hdevice : device ≠ .ram) :
    r = windowRange emu.bus (deviceWindow device) ∧
      emu.bus.holds (deviceWindow device) = true := by
  have booted := booted_newSmp boot
  have hwindow (w : Window) (hram : w ≠ .ram) (hstack : w ≠ .stack) :
      (((kernelWindows w).start.toNat : Int), ((kernelWindows w).size.toNat : Int)) =
        windowRange emu.bus w := by
    rw [windowRange, (built boot).devices w hram hstack]
  have hmem := mem_of_lookup h
  simp only [Python.XV6.layout, List.mem_cons, List.not_mem_nil, or_false, Prod.mk.injEq] at hmem
  obtain ⟨-, rfl⟩ | ⟨-, rfl⟩ | ⟨rfl, rfl⟩ | ⟨rfl, rfl⟩ | ⟨rfl, rfl⟩ | ⟨rfl, rfl⟩ | ⟨-, rfl⟩ := hmem
  · exact absurd rfl hdevice
  · exact absurd rfl hdevice
  · exact ⟨hwindow .clint (by decide) (by decide), booted.clint⟩
  · exact ⟨hwindow .uart (by decide) (by decide), booted.uart⟩
  · exact ⟨hwindow .virtio (by decide) (by decide), booted.virtio⟩
  · exact ⟨hwindow .plic (by decide) (by decide), booted.plic⟩
  · exact absurd rfl hdevice

/-- The machines that are built have the same boards. -/
theorem boards_boot
    (boot : newSmp program address (opened output) input diskImage ncpu = .ok emu left)
    (clear : ClearOfDevices program.length address)
    (fits : diskBytes diskImage ≤ Python.Interpreter.memory)
    (h : Python.XV6.new program address.toNat (opened output) input diskImage ncpu.toNat =
      .ok u machine) :
    Boards emu.bus.range machine emu.bus := by
  obtain ⟨m, m', rfl⟩ := new_ok h
  obtain ⟨sb, hncpu, -, hattach, -⟩ := newSmp_ok boot
  have hdev := attach_dev hattach
  exact {
    disk := Disks.mirrors_new (memory_boot boot clear m') (congrArg Devices.virtio hdev)
      (disk_length.trans_le fits)
    timers := by
      rw [hdev]
      exact timers_new CLINT_SIZE (by omega)
    ports := by
      rw [hdev]
      exact ports_new UART_SIZE output input
    words := by
      rw [hdev]
      exact words_boot
    lines := by
      rw [hdev]
      exact lines_boot
    ranges := rfl
    apart := apart_of_windows ((windows_apart_iff boot).mpr clear)
    mapped := fun _ _ => mapped_boot boot }

omit [Python.Interpreter] in
/-- What the one machine puts on its bus the other can reserve. -/
theorem reserves_of_attach {entries : List (Range × Python.Device)} {rust : RangeManager}
    {before after : Python.XV6} (same : SameRanges before.rangeManager rust)
    (bounded : ∀ e ∈ entries, e.1.start.toNat + e.1.size.toNat < 2 ^ 64)
    (h : Python.XV6.attach (entries.map fun e => (pair e.1, e.2)) before = .ok u after) :
    rust.Reserves (entries.map Prod.fst) := by
  induction entries generalizing before rust with
  | nil => exact trivial
  | cons e entries ih =>
      obtain ⟨he, hrest⟩ := List.forall_mem_cons.mp bounded
      rw [List.map_cons, Python.XV6.attach, bind_eq_ok] at h
      obtain ⟨_, next, hadd, h⟩ := h
      rw [Python.XV6.addDevice, bind_eq_ok] at hadd
      obtain ⟨_, placed, hrange, hadd⟩ := hadd
      obtain ⟨m, hm, rfl⟩ := Python.XV6.on_ok hrange
      rw [get_bind_apply, run_ite] at hadd
      split at hadd
      · cases hadd
        obtain ⟨python', position, rust', hpython, hrust, same'⟩ | ⟨e', _, hpython, -⟩ :=
          same.addRange he
        · obtain ⟨-, rfl⟩ := EStateM.Result.ok.inj (hpython.symm.trans hm)
          exact ⟨position, rust', hrust, ih same' hrest h⟩
        · rw [hm] at hpython
          cases hpython
      · cases hadd

/-- The interpreter can hold the RAM of the program, the stack and the disk. -/
structure Room (program : List U8) (diskImage : Option (List U8)) : Prop where
  ram : pageBytes program.length ≤ Python.Interpreter.memory
  stack : Python.XV6.STACK_SIZE ≤ Python.Interpreter.memory
  disk : diskBytes diskImage ≤ Python.Interpreter.memory

omit [Host] [Python.Interpreter] in
/-- What the one machine puts on its bus is what the other reserves. -/
theorem layout_eq {ramLen stackBegin : U64} (hramLen : ramLen.toNat = pageBytes program.length)
    (hbegin : stackBegin.toNat = ramLen.toNat + address.toNat) :
    Python.XV6.layout (Python.XV6.programRam program).length Python.XV6.stack.length
        Python.XV6.bootloader.length address.toNat (Python.XV6.pages program + address.toNat) =
      ([(⟨address, ramLen⟩, .ram), (⟨stackBegin, STACK_SIZE⟩, .ram),
        (⟨CLINT_BASE, CLINT_SIZE⟩, .clint), (⟨UART_BASE, UART_SIZE⟩, .uart),
        (⟨VIRTIO_DISK_BASE, VirtIOBlk.len⟩, .virtio), (⟨PLIC_BASE, PLIC_SIZE⟩, .plic),
        (⟨BOOTLOADER_ADDR, 40⟩, .ram)] : List (Range × Python.Device)).map
          fun e => (pair e.1, e.2) := by
  rw [programRam_length, stack_length, pages_eq]
  simp only [List.map_cons, List.map_nil, pair, number, hbegin, hramLen, Nat.cast_add]
  rfl

/-- Where the one machine is built the other is. -/
theorem boots_of_new (limits : Disks.Fits) (harts : ncpu.toNat ≤ 32)
    (space : address.toNat + pageBytes program.length + Python.XV6.STACK_SIZE < 2 ^ 64)
    (room : Room program diskImage)
    (construct : Python.XV6.new program address.toNat (opened output) input diskImage ncpu.toNat =
      .ok u machine) :
    ∃ emu left, newSmp program address (opened output) input diskImage ncpu = .ok emu left := by
  have hpages : program.length ≤ pageBytes program.length := by
    rw [pageBytes]
    omega
  have haddressable := limits.addressable
  have hroom := room.ram
  have hramLen : (BitVec.ofNat 64 (pageBytes program.length)).toNat = pageBytes program.length := by
    rw [BitVec.toNat_ofNat]
    omega
  have hbegin : (BitVec.ofNat 64 (pageBytes program.length) + address).toNat =
      (BitVec.ofNat 64 (pageBytes program.length)).toNat + address.toNat := by
    rw [BitVec.toNat_add, hramLen]
    omega
  rw [Python.XV6.new] at construct
  split at construct
  next hncpu =>
    have hzero : ncpu ≠ 0 := by
      rintro rfl
      exact absurd hncpu (by decide)
    have hmax : ¬BitVec.ofNat 64 Plic.MAX_CONTEXTS / 2 < ncpu := by
      intro h
      exact absurd (BitVec.lt_def.mp h) (Nat.not_lt.mpr harts)
    rw [layout_eq hramLen hbegin] at construct
    refine newSmp_of_reserves (by omega) hramLen hbegin hzero hmax ⟨by omega, ?_⟩ ?_
      (reserves_of_attach sameRanges_new ?_ construct)
    · rw [hramLen]
      exact room.ram.trans limits.memory
    · exact room.stack.trans limits.memory
    · have hstack : STACK_SIZE.toNat = Python.XV6.STACK_SIZE := rfl
      simp only [List.forall_mem_cons, hbegin, hramLen, hstack]
      refine ⟨by omega, by omega, by decide, by decide, by decide, by decide, by decide,
        fun _ h => absurd h List.not_mem_nil⟩
  next => cases construct

/-- Whatever the harts load and store, whenever the clock ticks and bytes arrive: where the Python
machine is built and completes a run in which its block device reads and writes memory only, the
Rust machine is built and completes it with the same answers, and both end with the same memory,
disk, devices and console. -/
theorem machines_agree [Python.CallStack] (limits : Disks.Fits)
    (release : Host.overflowChecks = false) (harts : ncpu.toNat ≤ 32)
    (space : address.toNat + pageBytes program.length + Python.XV6.STACK_SIZE < 2 ^ 64)
    (clear : ClearOfDevices program.length address) (room : Room program diskImage)
    (construct : Python.XV6.new program address.toNat (opened output) input diskImage ncpu.toNat =
      .ok u machine)
    {steps : List BoardStep} (tame : ∀ step ∈ steps, step.Tame kernelWindows)
    (dma : BoardStep.allInMemory steps machine = true) {answers : List Int} {machine' : Python.XV6}
    (h : BoardStep.runPython steps machine = .ok answers machine') :
    ∃ emu left sightings bus',
      newSmp program address (opened output) input diskImage ncpu = .ok emu left ∧
      BoardStep.runRust steps emu.bus = .ok sightings bus' ∧
      Boards emu.bus.range machine' bus' ∧ answers = sightings.map Sighting.python := by
  obtain ⟨emu, left, boot⟩ := boots_of_new limits harts space room construct
  have hplic := (built boot).devices .plic (by decide) (by decide)
  have hvirtio := (built boot).devices .virtio (by decide) (by decide)
  obtain ⟨sightings, bus', hrun, boards, hanswers⟩ := BoardStep.run_follows limits release
    (fun step hstep => (tame step hstep).congr hplic.symm hvirtio.symm) dma
    (boards_boot boot clear room.disk construct) h
  exact ⟨emu, left, sightings, bus', boot, hrun, boards, hanswers⟩

end Boot

section Example

/-- A stack of a thousand frames. -/
@[reducible] def callStack : Python.CallStack := ⟨200⟩

attribute [local instance] DriverStep.release DriverStep.interpreter callStack

def kernelProgram : List U8 := [0x13, 0, 0, 0]

/-- What the Python machine of the same program has on its bus. -/
def kernelLayout : List ((Int × Int) × Python.Device) :=
  Python.XV6.layout 0x1000 0x8000000 40 0x80000000 0x80001000

def kernelParts : Python.XV6 :=
  Python.XV6.parts kernelProgram (0x80000000 : U64).toNat (opened true) none none (1 : U64).toNat

theorem new_kernelProgram : Python.XV6.new kernelProgram (0x80000000 : U64).toNat (opened true) none
    none (1 : U64).toNat = .ok () (finish (Python.XV6.attach kernelLayout kernelParts)) := by
  have hlayout : Python.XV6.layout (pageBytes kernelProgram.length) 0x8000000
      Python.XV6.bootloader.length (0x80000000 : U64).toNat
      (Python.XV6.pages kernelProgram + (0x80000000 : U64).toNat) = kernelLayout := by
    decide +kernel
  rw [Python.XV6.new, if_pos (by decide), programRam_length, stack_length, hlayout]
  exact eq_ok_of_answered (by decide +kernel)

/-- The driver of the console: it sets up the PLIC and the UART, waits for a byte, claims its
interrupt and reads it; then it sets the timer, and a tick later the timer has run out. -/
def consoleSession : List BoardStep :=
  [.store 0xc000028 4 1, .store 0xc002080 4 0x400, .store 0x10000001 1 1, .external 1,
    .inject [0x61], .external 1, .load 0xc201004 4, .load 0x10000000 1, .external 1,
    .store 0x80000008 8 0x1234, .load 0x80000008 4, .load 0x80000000 4, .store 0x10000000 1 0x61,
    .timer 0, .store 0x2004000 8 1, .tick, .timer 0]

/-- The driver of the disk puts a chain of three descriptors, a header, a byte of data and a status,
and an avail ring into RAM, sets the queue up and notifies the device of a flush; then it claims the
interrupt and acknowledges it, and looks at the used ring. -/
def flushSession : List BoardStep :=
  [.store 0xc000004 4 1, .store 0xc002080 4 0x402,
    .store 0x80000100 4 0x80000180, .store 0x80000108 4 16, .store 0x8000010c 4 0x00010001,
    .store 0x80000110 4 0x800001a0, .store 0x80000118 4 1, .store 0x8000011c 4 0x00020001,
    .store 0x80000120 4 0x800001b0, .store 0x80000128 4 1, .store 0x8000012c 4 0x00000002,
    .store 0x80000180 4 4, .store 0x80000140 4 0x00010000,
    .store 0x10001080 4 0x80000100, .store 0x10001090 4 0x80000140, .store 0x100010a0 4 0x80000160,
    .store 0x10001038 4 8, .store 0x10001044 4 1, .store 0x10001050 4 0,
    .load 0x10001060 4, .external 1, .load 0xc201004 4, .store 0x10001064 4 1, .external 1,
    .load 0x80000162 2]

/-- Both drivers on the machine that is built. -/
def bothSessions : EStateM.Result Python.XV6.Exception Python.XV6 (List Int) :=
  BoardStep.runPython (consoleSession ++ flushSession)
    (finish (Python.XV6.attach kernelLayout kernelParts))

theorem run_bothSessions :
    bothSessions = .ok [0, 1, 10, 0x61, 0, 0x1234, 0x13, 0, 1, 1, 1, 1, 0, 1]
      (finish bothSessions) :=
  eq_ok_of_answered (by decide +kernel)

theorem tame_consoleSession : ∀ step ∈ consoleSession, step.Tame kernelWindows := by
  have hpriority : Addressed (0xc000028 - PLIC_BASE) := .inl (by decide)
  have henable : Addressed (0xc002080 - PLIC_BASE) := .inr ⟨1, .inl ⟨by decide, by decide⟩⟩
  have off (r : Range) (address n : U64) (h : ¬r.start ≤ address ∨
      ¬address.toNat + n.toNat ≤ r.start.toNat + r.size.toNat) {p : Prop} :
      r.Contains address n → p := by
    rintro ⟨hstart, hstop⟩
    exact absurd hstop (h.resolve_left (not_not_intro hstart))
  simp only [consoleSession, List.forall_mem_cons, BoardStep.Tame, true_and]
  refine ⟨⟨fun _ => ⟨by decide, hpriority⟩, off _ _ _ (by decide)⟩,
    ⟨fun _ => ⟨by decide, henable⟩, off _ _ _ (by decide)⟩,
    ⟨off _ _ _ (by decide), off _ _ _ (by decide)⟩, ⟨off _ _ _ (by decide), off _ _ _ (by decide)⟩,
    ⟨off _ _ _ (by decide), off _ _ _ (by decide)⟩, ⟨off _ _ _ (by decide), off _ _ _ (by decide)⟩,
    fun _ h => absurd h List.not_mem_nil⟩

/-- A store of 32 bits that leaves the PLIC alone. -/
theorem tame_word {address value : U64} {size : U8} (narrow : value.toNat < 2 ^ 32)
    (off : ¬(kernelWindows .plic).start ≤ address ∨ ¬address.toNat + (size.setWidth 64).toNat ≤
      (kernelWindows .plic).start.toNat + (kernelWindows .plic).size.toNat) :
    (BoardStep.store address size value).Tame kernelWindows :=
  ⟨fun h => absurd h.2 (off.resolve_left (not_not_intro h.1)), fun _ => narrow⟩

theorem tame_flushSession : ∀ step ∈ flushSession, step.Tame kernelWindows := by
  have hpriority : Addressed (0xc000004 - PLIC_BASE) := .inl (by decide)
  have henable : Addressed (0xc002080 - PLIC_BASE) := .inr ⟨1, .inl ⟨by decide, by decide⟩⟩
  refine List.forall_mem_cons.mpr ⟨⟨fun _ => ⟨by decide, hpriority⟩, fun _ => by decide⟩,
    List.forall_mem_cons.mpr ⟨⟨fun _ => ⟨by decide, henable⟩, fun _ => by decide⟩, ?_⟩⟩
  -- from here on every store is to RAM or to the block device
  repeat first
    | exact fun _ h => absurd h List.not_mem_nil
    | refine List.forall_mem_cons.mpr ⟨trivial, ?_⟩
    | refine List.forall_mem_cons.mpr ⟨tame_word (by decide) (by decide), ?_⟩

/-- Both consoles echo the byte, and both disks report the flush. -/
theorem machines_agree_sessions : ∃ emu left sightings bus',
    newSmp kernelProgram 0x80000000 (opened true) none none 1 = .ok emu left ∧
    BoardStep.runRust (consoleSession ++ flushSession) emu.bus = .ok sightings bus' ∧
    Boards emu.bus.range (finish bothSessions) bus' ∧
    [0, 1, 10, 0x61, 0, 0x1234, 0x13, 0, 1, 1, 1, 1, 0, 1] = sightings.map Sighting.python := by
  have clear : ClearOfDevices kernelProgram.length 0x80000000 := by
    rw [ClearOfDevices]
    decide
  have room : Room kernelProgram none := ⟨by decide, by decide, by decide⟩
  have tame : ∀ step ∈ consoleSession ++ flushSession, step.Tame kernelWindows :=
    List.forall_mem_append.mpr ⟨tame_consoleSession, tame_flushSession⟩
  exact machines_agree ⟨by decide, by decide⟩ rfl (by decide) (by decide) clear room
    new_kernelProgram tame (by decide +kernel) run_bothSessions

end Example

end Riscvm.Lockstep
