import Riscvm.Foundation.Simulates
import Riscvm.Lockstep.Alike
import Riscvm.Lockstep.Consoles
import Riscvm.Python.UartPort

/-!
# The two serial ports

`Ports` relates the UART of the Python emulator to the one in Rust. Bytes arrive, input is polled
and the guest reads and writes registers, in any order. The two differ in two places: what the
interrupt enable register reads as, and how a byte outside ASCII is printed.
-/

namespace Riscvm.Lockstep

open Bits Exec TwosComplement Rv64rs

/-- The same registers, the same input still to come, and the same bytes printed up to how Python
encodes them. -/
structure Ports (port : Python.UartPort) (uart : Uart) : Prop where
  latch : port.divisorLatchAccessible = uart.divisorLatchAccessible
  rx : port.interruptEnabledReceivedDataAvailable = uart.interruptEnabledRx
  tx : port.interruptEnabledTransmitterHoldingRegisterEmpty = uart.interruptEnabledTx
  nbits : port.lineControlNbits = (uart.lineControlNbits.toNat : Int)
  small : uart.lineControlNbits.toNat < 4
  dll : port.dllValue = (uart.dllValue.toNat : Int)
  dlm : port.dlmValue = (uart.dlmValue.toNat : Int)
  queue : port.rxQueue = uart.rxQueue
  input : port.input = uart.input
  output : port.output = uart.output.map (·.flatMap encoded)

theorem ports_new (size : U64) (output : Bool) (input : Option (List (Option (List U8)))) :
    Ports (.new size.toNat (if output then some [] else none) input)
      (.new size (if output then some [] else none) input) where
  latch := rfl
  rx := rfl
  tx := rfl
  nbits := rfl
  small := Nat.zero_lt_succ 3
  dll := rfl
  dlm := rfl
  queue := rfl
  input := rfl
  output := by cases output <;> rfl

namespace Ports

variable {port : Python.UartPort} {uart : Uart}

theorem dlab_eq (ports : Ports port uart) : port.dlab = uart.dlab :=
  (Normal.dlab_eq ⟨⟨_, ports.small⟩, ports.nbits⟩).trans ports.latch

theorem dlab_iff (ports : Ports port uart) : port.dlab = true ↔ uart.dlab = true := by
  rw [ports.dlab_eq]

theorem dataAvailable (ports : Ports port uart) : port.dataAvailable = uart.dataAvailable := by
  rw [Python.UartPort.dataAvailable, ports.queue]
  rfl

/-- The level of the interrupt line. -/
theorem interruptStatus (ports : Ports port uart) :
    port.interruptStatus = (uart.interruptStatus.toNat : Int) := by
  rw [Python.UartPort.interruptStatus, ports.dataAvailable, ports.rx, Uart.interruptStatus]
  cases uart.dataAvailable && uart.interruptEnabledRx <;> rfl

theorem inject (ports : Ports port uart) (data : List U8) :
    Ports (port.inject data) (uart.inject data) :=
  { ports with queue := congrArg (· ++ data) ports.queue }

theorem pollInput (ports : Ports port uart) : Ports port.pollInput uart.pollInput := by
  rw [Python.UartPort.pollInput, Uart.pollInput, ports.input]
  cases uart.input with
  | none => exact ports
  | some chunks =>
      cases chunks with
      | nil => exact ports
      | cons chunk rest =>
          cases chunk with
          | none => exact { ports with input := rfl }
          | some bytes =>
              exact { ports with
                queue := congrArg (· ++ bytes.take 256) ports.queue
                input := rfl }

theorem lcr (ports : Ports port uart) :
    port.lcr = ((uart.lcr.setWidth 64 : U64).toNat : Int) := by
  rw [BitVec.toNat_setWidth_of_le (by decide), Python.Uart.lcr, ports.latch, ports.nbits, Uart.lcr]
  cases uart.divisorLatchAccessible
  · exact lor_word ((0 : U8) <<< 7) _
  · exact lor_word ((1 : U8) <<< 7) _

theorem lsr (ports : Ports port uart) :
    port.lsr = ((uart.lsr.setWidth 64 : U64).toNat : Int) := by
  rw [Python.UartPort.lsr, ports.dataAvailable, Uart.lsr]
  cases uart.dataAvailable <;> rfl

end Ports

theorem anyBit_word (b mask : U8) :
    Python.Uart.anyBit b.toNat mask.toNat = (b &&& mask != 0) := by
  rw [Python.Uart.anyBit, land_word, Bool.eq_iff_iff, bne_iff_ne, bne_iff_ne, ne_eq, ne_eq,
    natCast_eq_zero]

theorem anyBit_lnot_word (b mask : U8) :
    Python.Uart.anyBit b.toNat (Int.lnot mask.toNat) = (b &&& ~~~mask != 0) := by
  rw [Python.Uart.anyBit, land_lnot_word, Bool.eq_iff_iff, bne_iff_ne, bne_iff_ne, ne_eq, ne_eq,
    natCast_eq_zero]

theorem land_nbits_lt (b : U8) : (b &&& Uart.LCR_NBITS).toNat < 4 := by
  rw [BitVec.toNat_and]
  exact Nat.lt_of_le_of_lt Nat.and_le_right (by decide)

section Accesses

variable {port : Python.UartPort} {uart : Uart}

theorem uart_read_eq (address : U64) : Uart.read address 1 = (do
    let uart ← get
    if address = 0#64 then
      if uart.dlab then return uart.dllValue.setWidth 64
      else
        set uart.rbr.2
        return uart.rbr.1.setWidth 64
    else if address = 1#64 then
      return (if uart.dlab then uart.dlmValue else uart.ier).setWidth 64
    else if address = 2#64 then return 0
    else if address = 3#64 then return uart.lcr.setWidth 64
    else if address = 4#64 then return 0
    else if address = 5#64 then return uart.lsr.setWidth 64
    else return 0) := by
  rw [Uart.read, if_neg (by decide)]
  refine congrArg _ (funext fun uart => ?_)
  split
  all_goals simp_all

theorem uart_write_eq (address value : U64) : Uart.write address 1 value = (do
    let byte := value.setWidth 8
    let uart ← get
    if address = 5#64 ∨ address = 6#64 then error .uartIllegalWrite
    else if address = 0#64 then
      if uart.dlab then set { uart with dllValue := byte }
      else set { uart with output := uart.output.map (· ++ [byte]) }
    else if address = 1#64 then
      if uart.dlab then set { uart with dlmValue := byte }
      else if byte &&& ~~~(Uart.IER_RX_ENABLE ||| Uart.IER_TX_ENABLE) ≠ 0 then
        error .uartUnhandledFlags
      else set { uart with
        interruptEnabledRx := byte &&& Uart.IER_RX_ENABLE != 0
        interruptEnabledTx := byte &&& Uart.IER_TX_ENABLE != 0 }
    else if address = 2#64 then return ()
    else if address = 3#64 then set { uart with
      divisorLatchAccessible := byte &&& Uart.LCR_BAUD_LATCH != 0
      lineControlNbits := byte &&& Uart.LCR_NBITS }
    else return ()) := by
  rw [Uart.write, if_neg (by decide)]
  dsimp only
  refine congrArg _ (funext fun uart => ?_)
  split
  all_goals simp_all

theorem onUart_follows {α β : Type} {V : α → β → Prop} {x : Python.Uart.Call α} {y : Call Uart β}
    (h : SimulatesAt (fun python uart => Ports { port with toUart := python } uart) V x y
      port.toUart uart) :
    SimulatesAt Ports V (Python.UartPort.onUart x) y port uart := by
  intro a port' hx
  obtain ⟨python, hpython, rfl⟩ := Python.UartPort.onUart_ok hx
  exact h a python hpython

/-- The interrupt enable register. -/
def enablesAt (offset : U64) (latch : Bool) : Bool := offset == 1 && !latch

/-- What the guest reads in Python where it reads `value` in Rust. -/
def seen (enables : Bool) (value : U64) : Int := if enables then 0 else value.toNat

theorem seen_of_ne {offset : U64} (h : offset ≠ 1) (latch : Bool) (value : U64) :
    seen (enablesAt offset latch) value = (value.toNat : Int) := by
  rw [seen, enablesAt, beq_false_of_ne h]
  rfl

/-- The oldest byte received, which leaves both queues. -/
theorem rbr_follows (ports : Ports port uart) :
    SimulatesAt Ports (fun v w => v = ((w.toNat : Nat) : Int)) Python.UartPort.getRbr
      (do
        set uart.rbr.2
        return uart.rbr.1.setWidth 64 : Call Uart U64) port uart := by
  refine .get_left ?_
  rw [ports.queue, Uart.rbr]
  cases hqueue : uart.rxQueue with
  | nil => exact .pure ports rfl
  | cons byte rest =>
      refine .bind (.modify rfl { ports with queue := rfl }) fun _ _ _ _ ports _ => .pure ports ?_
      rw [BitVec.toNat_setWidth_of_le (by decide)]

/-- What is left of the register map reads as zero, or is not there. -/
theorem rest_ok {address : Int} {v : Int} {port' : Python.UartPort}
    (h : (if address = 6 then return 0 else if address = 7 then return 0
      else throw .unboundLocalError : Python.UartPort.Call Int) port = .ok v port') :
    v = 0 ∧ port' = port := by
  by_cases h6 : address = 6
  · rw [if_pos h6] at h
    cases h
    exact ⟨rfl, rfl⟩
  · rw [if_neg h6] at h
    by_cases h7 : address = 7
    · rw [if_pos h7] at h
      cases h
      exact ⟨rfl, rfl⟩
    · rw [if_neg h7] at h
      cases h

theorem uart_read_follows (ports : Ports port uart) (address : U64) (size : U8) :
    SimulatesAt Ports (fun v w => v = seen (enablesAt address uart.dlab) w)
      (Python.UartPort.read address.toNat size.toNat) (Uart.read address size) port uart := by
  refine SimulatesAt.check Python.UartPort.require_ok fun hsize => ?_
  obtain rfl : size = 1 := (toNat_iff (k := 1) (by decide)).mp hsize
  have hsmall (byte : U8) : ((byte.setWidth 64 : U64).toNat : Int) = byte.toNat := by
    rw [BitVec.toNat_setWidth_of_le (by decide)]
  rw [uart_read_eq]
  refine .get ?_
  refine .ite (toNat_iff (k := 0) (by decide)) (fun h => ?_) fun h0 => ?_
  · have haddress : address ≠ 1 := by
      rw [(toNat_iff (k := 0) (by decide)).mp h]
      decide
    refine .ite ports.dlab_iff (fun hlatch => ?_) fun hlatch => ?_
    · refine SimulatesAt.check Python.UartPort.require_ok fun _ => .get_left (.pure ports ?_)
      exact ports.dll.trans ((hsmall _).symm.trans (seen_of_ne haddress _ _).symm)
    · exact (rbr_follows ports).mono (fun _ _ => id) fun _ _ hbyte =>
        hbyte.trans (seen_of_ne haddress _ _).symm
  refine .ite (toNat_iff (k := 1) (by decide)) (fun h => ?_) fun h1 => ?_
  · obtain rfl : address = 1 := (toNat_iff (k := 1) (by decide)).mp h
    by_cases hlatch : uart.dlab = true
    · rw [if_pos hlatch, if_pos (ports.dlab_iff.mpr hlatch)]
      refine SimulatesAt.check Python.UartPort.require_ok fun _ => .get_left (.pure ports ?_)
      rw [enablesAt, hlatch, Bool.not_true, Bool.and_false]
      exact ports.dlm.trans (hsmall _).symm
    · rw [if_neg hlatch, if_neg fun h => hlatch (ports.dlab_iff.mp h)]
      exact SimulatesAt.check Python.UartPort.require_ok fun _ =>
        .pure ports (by rw [eq_false_of_ne_true hlatch]; rfl)
  have value {v : Int} {w : U64} (h : v = (w.toNat : Int)) :
      v = seen (enablesAt address uart.dlab) w :=
    h.trans (seen_of_ne (fun h => h1 ((toNat_iff (k := 1) (by decide)).mpr h)) _ _).symm
  refine .ite (toNat_iff (k := 2) (by decide)) (fun _ => .pure ports (value rfl)) fun _ => ?_
  refine .ite (toNat_iff (k := 3) (by decide)) (fun _ => .pure ports (value ports.lcr)) fun _ => ?_
  refine .ite (toNat_iff (k := 4) (by decide)) (fun _ => .pure ports (value rfl)) fun _ => ?_
  refine .ite (toNat_iff (k := 5) (by decide)) (fun _ => .pure ports (value ports.lsr)) fun _ => ?_
  intro v port' hrest
  obtain ⟨rfl, rfl⟩ := rest_ok hrest
  exact ⟨0, uart, rfl, ports, value rfl⟩

theorem printed (ports : Ports port uart) (b : U8) :
    port.output.map (· ++ encoded b) =
      (uart.output.map (· ++ [b])).map (·.flatMap encoded) := by
  rw [ports.output, Option.map_map, Option.map_map]
  refine congrArg (Option.map · uart.output) (funext fun bytes => ?_)
  rw [Function.comp_apply, Function.comp_apply, List.flatMap_append, List.flatMap_singleton]

theorem setIer_follows (ports : Ports port uart) (b : U8) :
    SimulatesAt (fun python uart => Ports { port with toUart := python } uart) (fun _ _ => True)
      (Python.Uart.setIer b.toNat)
      (if b &&& ~~~(Uart.IER_RX_ENABLE ||| Uart.IER_TX_ENABLE) ≠ 0 then error .uartUnhandledFlags
        else set { uart with
          interruptEnabledRx := b &&& Uart.IER_RX_ENABLE != 0
          interruptEnabledTx := b &&& Uart.IER_TX_ENABLE != 0 })
      port.toUart uart := by
  refine .get_left (SimulatesAt.check require_ok fun _ => ?_)
  intro _ python h
  rw [modify_bind_apply] at h
  obtain ⟨hflags, rfl⟩ := require_ok h
  have hmask : b &&& ~~~(Uart.IER_RX_ENABLE ||| Uart.IER_TX_ENABLE) = 0 := by
    refine bne_eq_false_iff_eq.mp ((anyBit_lnot_word b _).symm.trans ?_)
    exact eq_false_of_ne_true hflags
  rw [if_neg (not_not_intro hmask)]
  exact ⟨(), _, rfl, { ports with
    rx := anyBit_word b Uart.IER_RX_ENABLE
    tx := anyBit_word b Uart.IER_TX_ENABLE }, trivial⟩

theorem setLcr_follows (ports : Ports port uart) (b : U8) :
    SimulatesAt (fun python uart => Ports { port with toUart := python } uart) (fun _ _ => True)
      (Python.Uart.setLcr b.toNat)
      (set { uart with
        divisorLatchAccessible := b &&& Uart.LCR_BAUD_LATCH != 0
        lineControlNbits := b &&& Uart.LCR_NBITS } : Call Uart PUnit)
      port.toUart uart := by
  intro _ python h
  rw [Python.Uart.setLcr, modify_bind_apply, run_ite] at h
  split at h
  · cases h
  · cases h
    exact ⟨_, _, rfl, { ports with
      latch := anyBit_word b Uart.LCR_BAUD_LATCH
      nbits := land_word b Uart.LCR_NBITS
      small := land_nbits_lt b }, trivial⟩

theorem setFcr_follows (ports : Ports port uart) (b : U8) :
    SimulatesAt (fun python uart => Ports { port with toUart := python } uart) (fun _ _ => True)
      (Python.Uart.setFcr b.toNat) (return () : Call Uart Unit) port.toUart uart := by
  intro _ python h
  rw [Python.Uart.setFcr, modify_bind_apply] at h
  rw [(require_ok h).2]
  exact ⟨(), uart, rfl, { ports with }, trivial⟩

theorem uart_write_follows (ports : Ports port uart) (address : U64) (size : U8) (value : U64) :
    SimulatesAt Ports (fun _ _ => True)
      (Python.UartPort.write address.toNat size.toNat value.toNat)
      (Uart.write address size value) port uart := by
  refine onUart_follows (SimulatesAt.check require_ok fun hsize => ?_)
  obtain rfl : size = 1 := (toNat_iff (k := 1) (by decide)).mp hsize
  have hbyte : Python.u 8 value.toNat = (value.setWidth 8).toNat := u8_value ⟨address, 1, value⟩
  rw [uart_write_eq, hbyte]
  dsimp only
  generalize value.setWidth 8 = b
  refine SimulatesAt.check require_ok fun hlegal => ?_
  refine .bind_right (c := get) rfl ?_
  have hrust : ¬(address = 5#64 ∨ address = 6#64) := fun h => hlegal <|
    h.imp (toNat_iff (k := 5) (by decide)).mpr (toNat_iff (k := 6) (by decide)).mpr
  rw [if_neg hrust]
  refine .ite (toNat_iff (k := 0) (by decide)) (fun _ => ?_) fun _ => ?_
  · refine .get_left (.ite ports.dlab_iff (fun hlatch => ?_) fun hlatch => ?_)
    · exact .get_left (SimulatesAt.check require_ok fun _ => .modify rfl { ports with dll := rfl })
    · exact .modify rfl { ports with output := printed ports b }
  refine .ite (toNat_iff (k := 1) (by decide)) (fun _ => ?_) fun _ => ?_
  · refine .get_left (.ite ports.dlab_iff (fun hlatch => ?_) fun hlatch => ?_)
    · exact .get_left (SimulatesAt.check require_ok fun _ => .modify rfl { ports with dlm := rfl })
    · exact setIer_follows ports b
  refine .ite (toNat_iff (k := 2) (by decide)) (fun _ => setFcr_follows ports b) fun _ => ?_
  refine .ite (toNat_iff (k := 3) (by decide)) (fun _ => setLcr_follows ports b) fun _ => ?_
  exact .pure { ports with } trivial

end Accesses

/-- What is seen of Rust devices: a value that was read, of the interrupt enable register or not,
and the level of a line. -/
inductive Sighting where
  | value (enables : Bool) (word : U64)
  | line (status : U32)

/-- The same, as it is seen in Python. -/
def Sighting.python : Sighting → Int
  | .value enables word => seen enables word
  | .line status => status.toNat

/-- An event at the UART in Python, with what is read and the line afterwards. -/
def pythonEvent : Uart.Event → Python.UartPort.Call (List Int)
  | .inject data => do
      modify (Python.UartPort.inject data)
      return [(← get).interruptStatus]
  | .pollInput => do
      modify Python.UartPort.pollInput
      return [(← get).interruptStatus]
  | .read address size => do
      let value ← Python.UartPort.read address.toNat size.toNat
      return [value, (← get).interruptStatus]
  | .write address size value => do
      Python.UartPort.write address.toNat size.toNat value.toNat
      return [(← get).interruptStatus]

/-- The event at the UART in Rust. -/
def rustEvent : Uart.Event → Call Uart (List Sighting)
  | .inject data => do
      modify (Uart.inject data)
      return [.line (← get).interruptStatus]
  | .pollInput => do
      modify Uart.pollInput
      return [.line (← get).interruptStatus]
  | .read address size => do
      let latch := (← get).dlab
      let value ← Uart.read address size
      return [.value (enablesAt address latch) value, .line (← get).interruptStatus]
  | .write address size value => do
      Uart.write address size value
      return [.line (← get).interruptStatus]

def pythonPort : List Uart.Event → Python.UartPort.Call (List Int) := runAll pythonEvent

def rustPort : List Uart.Event → Call Uart (List Sighting) := runAll rustEvent

section Runs

variable {port port' : Python.UartPort} {uart : Uart}

/-- The line is seen last. -/
theorem line_follows (ports : Ports port uart) :
    SimulatesAt Ports (Answers Sighting.python)
      (do return [(← get).interruptStatus] : Python.UartPort.Call (List Int))
      (do return [.line (← get).interruptStatus] : Call Uart (List Sighting)) port uart :=
  .get (.pure ports (congrArg (fun level => [level]) ports.interruptStatus))

theorem event_follows (ports : Ports port uart) (event : Uart.Event) :
    SimulatesAt Ports (Answers Sighting.python) (pythonEvent event) (rustEvent event)
      port uart := by
  cases event with
  | inject data =>
      exact .bind (.modify rfl (ports.inject data)) fun _ _ _ _ ports _ => line_follows ports
  | pollInput =>
      exact .bind (.modify rfl ports.pollInput) fun _ _ _ _ ports _ => line_follows ports
  | read address size =>
      refine .bind_right (c := get) rfl ?_
      refine .bind (uart_read_follows ports address size) fun v w _ _ ports value => ?_
      refine .get (.pure ports ?_)
      rw [Answers, value, ports.interruptStatus]
      rfl
  | write address size value =>
      exact .bind (uart_write_follows ports address size value) fun _ _ _ _ ports _ =>
        line_follows ports

/-- Whatever arrives and whatever the guest does, where the Python UART completes a run, the Rust
UART reads the same but for the interrupt enables, its line has the same level after every event,
and it ends with the same registers, the same bytes still to be read and the same printed. -/
theorem ports_agree {events : List Uart.Event} (ports : Ports port uart) {answers : List Int}
    (h : pythonPort events port = .ok answers port') :
    ∃ sightings uart', rustPort events uart = .ok sightings uart' ∧ Ports port' uart' ∧
      answers = sightings.map Sighting.python := by
  obtain ⟨sightings, uart', hrun, ports', hanswers⟩ :=
    SimulatesAt.runAll (R := fun _ => Ports) (fun event _ _ _ ports => event_follows ports event)
      events ports answers port' h
  exact ⟨sightings, uart', hrun, ports', hanswers⟩

end Runs

section Example

/-- Two bytes arrive, one of them polled; the driver turns the receive interrupt on, looks at the
enables and the line status, echoes the first byte and reads the second. -/
def echo : List Uart.Event :=
  [.inject [0x6c], .pollInput, .write 1 1 1, .read 1 1, .read 5 1, .read 0 1, .write 0 1 0x6c,
    .read 0 1]

/-- The Rust UART reads its enables as 1 there. -/
theorem ports_agree_echo : ∃ sightings uart',
    rustPort echo (.new 0x100 (some []) (some [some [0x73]])) = .ok sightings uart' ∧
    Ports (finish (pythonPort echo (.new 0x100 (some []) (some [some [0x73]])))) uart' ∧
    [0, 0, 1, 0, 1, 0x21, 1, 0x6c, 1, 1, 0x73, 0] = sightings.map Sighting.python := by
  have hrun : pythonPort echo (.new 0x100 (some []) (some [some [0x73]])) =
      .ok [0, 0, 1, 0, 1, 0x21, 1, 0x6c, 1, 1, 0x73, 0]
        (finish (pythonPort echo (.new 0x100 (some []) (some [some [0x73]])))) :=
    eq_ok_of_answered (by decide +kernel)
  exact ports_agree (ports_new 0x100 true (some [some [0x73]])) hrun

end Example

end Riscvm.Lockstep
