import Riscvm.Python.Uart

/-!
# The receiving side of the UART in Python

`uart.py` again, with the receive queue, the input it is filled from, the registers as the guest
reads them and the interrupt line.
-/

namespace Riscvm.Python

/-- What an access can raise. A read of an offset that no case of the source names returns a
variable that was never assigned. -/
inductive UartPort.Exception where
  | uart (e : Uart.Exception)
  | unboundLocalError
  deriving DecidableEq, Repr

/-- `input` lists what each poll of the input source finds, `none` where nothing is ready or the
read fails. -/
structure UartPort extends Uart where
  rxQueue : List (BitVec 8)
  input : Option (List (Option (List (BitVec 8))))

namespace UartPort

abbrev Call := EStateM Exception UartPort

def LSR_TX_IDLE : Int := 0x20

def new (size : Int) (output : Option (List (BitVec 8)))
    (input : Option (List (Option (List (BitVec 8))))) : UartPort :=
  { Uart.new size output with rxQueue := [], input := input }

/-- A call of the registers alone. -/
def onUart {α : Type} (x : Uart.Call α) : Call α := fun port =>
  match x port.toUart with
  | .ok a uart => .ok a { port with toUart := uart }
  | .error e uart => .error (.uart e) { port with toUart := uart }

def require (p : Prop) [Decidable p] : Call Unit := onUart (Uart.require p)

def dataAvailable (port : UartPort) : Bool := !port.rxQueue.isEmpty

def interruptStatus (port : UartPort) : Int :=
  if port.dataAvailable && port.interruptEnabledReceivedDataAvailable then 1 else 0

def inject (data : List (BitVec 8)) (port : UartPort) : UartPort :=
  { port with rxQueue := port.rxQueue ++ data }

def pollInput (port : UartPort) : UartPort :=
  match port.input with
  | some (some chunk :: rest) => { port.inject (chunk.take 256) with input := some rest }
  | some (none :: rest) => { port with input := some rest }
  | some [] | none => port

/-- The getter of RBR, which takes the byte out of the queue. -/
def getRbr : Call Int := do
  match (← get).rxQueue with
  | [] => return 0
  | byte :: rest =>
      modify fun port => { port with rxQueue := rest }
      return byte.toNat

def getIer : Call Int := do
  require (¬(← get).dlab)
  return 0

def getDll : Call Int := do
  require (← get).dlab
  return (← get).dllValue

def getDlm : Call Int := do
  require (← get).dlab
  return (← get).dlmValue

def lsr (port : UartPort) : Int := Int.lor (if port.dataAvailable then 1 else 0) LSR_TX_IDLE

/-- `UART.read`. -/
def read (address size : Int) : Call Int := do
  require (size = 1)
  let port ← get
  if address = 0 then
    if port.dlab then getDll else getRbr
  else if address = 1 then
    if port.dlab then getDlm else getIer
  else if address = 2 then return 0 -- IIR
  else if address = 3 then return port.lcr
  else if address = 4 then return 0 -- MCR
  else if address = 5 then return port.lsr
  else if address = 6 then return 0 -- MSR
  else if address = 7 then return 0 -- SCR
  else throw .unboundLocalError

def write (address size value : Int) : Call Unit := onUart (Uart.write address size value)

theorem onUart_ok {α : Type} {x : Uart.Call α} {a : α} {port port' : UartPort}
    (h : onUart x port = .ok a port') :
    ∃ uart, x port.toUart = .ok a uart ∧ port' = { port with toUart := uart } := by
  rw [onUart] at h
  cases hx : x port.toUart with
  | ok b uart =>
      rw [hx] at h
      cases h
      exact ⟨uart, rfl, rfl⟩
  | error e uart =>
      rw [hx] at h
      cases h

theorem require_ok {p : Prop} [Decidable p] {u : Unit} {port port' : UartPort}
    (h : require p port = .ok u port') : p ∧ port' = port := by
  obtain ⟨uart, hrequire, rfl⟩ := onUart_ok h
  by_cases hp : p
  · rw [Uart.require, if_pos hp] at hrequire
    cases hrequire
    exact ⟨hp, rfl⟩
  · rw [Uart.require, if_neg hp] at hrequire
    cases hrequire

end UartPort

end Riscvm.Python
