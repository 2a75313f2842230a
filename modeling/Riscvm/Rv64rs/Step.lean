import Riscvm.Rv64rs.Rvc

/-!
# Fetch and step

The rest of `cpu.rs`. Interrupts are sampled between instructions: a step ticks
the CLINT, now and then polls the UART, delivers a pending interrupt and then
fetches at the resulting pc.
-/

namespace Riscvm.Rv64rs

open Exec

inductive DecodedInstruction where
  | full (instr : Instruction)
  | compressed (instr : CInstruction)
  deriving DecidableEq

namespace Machine

def UART_POLL_INTERVAL : BitVec 64 := 4096

/-- `clint.borrow_mut().tick()` of the hart's handle. -/
def tickClint : Call Machine Unit := do
  if (← get).cpu.clint then
    onBus (Bus.onClint (modify Clint.tick))
  else return ()

/-- The countdown to `poll_input`, and the poll when it runs out. -/
def pollUart : Call Machine Unit := do
  if (← get).cpu.uart then
    modifyCpu fun cpu => { cpu with uartPollCountdown := cpu.uartPollCountdown - 1 }
    if (← get).cpu.uartPollCountdown.sle 0 then
      onBus (Bus.onUart (modify Uart.pollInput))
      modifyCpu fun cpu => { cpu with uartPollCountdown := UART_POLL_INTERVAL }
    else return ()
  else return ()

/-- The machine after `tickClint`. -/
def ticked (m : Machine) : Machine :=
  if m.cpu.clint then
    { m with bus := { m.bus with dev := { m.bus.dev with clint := m.bus.dev.clint.tick } } }
  else m

/-- The machine after `pollUart`. -/
def polled (m : Machine) : Machine :=
  if m.cpu.uart then
    if (m.cpu.uartPollCountdown - 1).sle 0 then
      { cpu := { m.cpu with uartPollCountdown := UART_POLL_INTERVAL }
        bus := { m.bus with dev := { m.bus.dev with uart := m.bus.dev.uart.pollInput } } }
    else { m with cpu := { m.cpu with uartPollCountdown := m.cpu.uartPollCountdown - 1 } }
  else m

theorem tickClint_apply (m : Machine) : tickClint m = .ok () (ticked m) := by
  rw [tickClint, ticked, get_bind_apply, run_ite]
  by_cases h : m.cpu.clint
  · rw [if_pos h, if_pos h]
    rfl
  · rw [if_neg h, if_neg h]
    rfl

theorem pollUart_apply (m : Machine) : pollUart m = .ok () (polled m) := by
  rw [pollUart, polled, get_bind_apply, run_ite]
  by_cases h : m.cpu.uart
  · rw [if_pos h, if_pos h, bind_ok (modifyCpu_apply _ m), get_bind_apply, run_ite]
    by_cases hdue : (m.cpu.uartPollCountdown - 1).sle 0
    · rw [if_pos hdue, if_pos hdue]
      rfl
    · rw [if_neg hdue, if_neg hdue]
      rfl
  · rw [if_neg h, if_neg h]
    rfl

@[simp] theorem ticked_cpu (m : Machine) : (ticked m).cpu = m.cpu := by
  unfold ticked
  split <;> rfl

variable [Host]

/-- The last part of `fetch`: read a word at the translated pc and dispatch on its low two bits. -/
def fetchWord : Call Machine DecodedInstruction := do
  let pa ← Mmu.translate (← get).cpu.pc .X
  let word : U32 := (← onBus (Bus.read pa 4)).setWidth 32
  if word &&& 0b11 = 0b11 then return .full (.new word)
  else return .compressed (.new (word.setWidth 16))

def fetch : Call Machine DecodedInstruction := do
  tickClint
  pollUart
  let _ ← Trap.checkInterrupt
  fetchWord

def step : Call Machine Unit := do
  match ← fetch with
  | .full instr => execute instr
  | .compressed instr => executeCompressed instr

end Machine

end Riscvm.Rv64rs
