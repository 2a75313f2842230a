import Riscvm.Foundation.Exec
import Riscvm.Python.Utils

/-!
# The UART in Python

The guest's register writes of `uart.py`. The registers of the source are objects with a
setter each; a setter that checks its value does so after the assignment.
-/

namespace Riscvm.Python

/-- What a register write can raise. -/
inductive Uart.Exception where
  | assertionError
  | notImplementedError
  deriving DecidableEq, Repr

/-- `output` collects what was written to the output file, if there is one. -/
structure Uart where
  size : Int
  divisorLatchAccessible : Bool
  interruptEnabledReceivedDataAvailable : Bool
  interruptEnabledTransmitterHoldingRegisterEmpty : Bool
  lineControlNbits : Int
  dllValue : Int
  dlmValue : Int
  fifoEnabled : Bool
  fifoReset : Bool
  output : Option (List (BitVec 8))

namespace Uart

abbrev Call := EStateM Exception Uart

def IER_RX_ENABLE : Int := 0x1
def IER_TX_ENABLE : Int := 0x2
def LCR_NBITS : Int := 0x3
def LCR_BAUD_LATCH : Int := 0x80
def FCR_FIFO_ENABLE : Int := 0x1
def FCR_FIFO_CLEAR : Int := 0x6

def new (size : Int) (output : Option (List (BitVec 8))) : Uart where
  size := size
  divisorLatchAccessible := false
  interruptEnabledReceivedDataAvailable := false
  interruptEnabledTransmitterHoldingRegisterEmpty := false
  lineControlNbits := 0
  dllValue := 0
  dlmValue := 0
  fifoEnabled := false
  fifoReset := false
  output := output

def require (p : Prop) [Decidable p] : Call Unit :=
  if p then return () else throw .assertionError

/-- `bool(value & mask)`. -/
def anyBit (value mask : Int) : Bool := Int.land value mask != 0

/-- The getter of LCR. -/
def lcr (uart : Uart) : Int :=
  Int.lor (if uart.divisorLatchAccessible then 0x80 else 0) uart.lineControlNbits

/-- The divisor latch access bit, which the source uses as a condition. -/
def dlab (uart : Uart) : Bool := uart.lcr / 2 ^ 7 != 0

def setIer (value : Int) : Call Unit := do
  require (¬(← get).dlab)
  modify fun uart => { uart with
    interruptEnabledReceivedDataAvailable := anyBit value IER_RX_ENABLE
    interruptEnabledTransmitterHoldingRegisterEmpty := anyBit value IER_TX_ENABLE }
  require (¬anyBit value (Int.lnot (Int.lor IER_RX_ENABLE IER_TX_ENABLE)))

def setLcr (value : Int) : Call Unit := do
  modify fun uart => { uart with
    divisorLatchAccessible := anyBit value LCR_BAUD_LATCH
    lineControlNbits := Int.land value LCR_NBITS }
  if anyBit value (Int.lnot (Int.lor LCR_BAUD_LATCH LCR_NBITS)) then throw .notImplementedError

def setFcr (value : Int) : Call Unit := do
  modify fun uart => { uart with
    fifoEnabled := anyBit value FCR_FIFO_ENABLE
    fifoReset := anyBit value FCR_FIFO_CLEAR }
  require (¬anyBit value (Int.lnot (Int.lor FCR_FIFO_ENABLE FCR_FIFO_CLEAR)))

def setDll (value : Int) : Call Unit := do
  require (← get).dlab
  modify fun uart => { uart with dllValue := value }

def setDlm (value : Int) : Call Unit := do
  require (← get).dlab
  modify fun uart => { uart with dlmValue := value }

/-- `chr(value).encode()`: the character in UTF-8. -/
def encodeChr (value : Int) : List (BitVec 8) :=
  (String.utf8EncodeChar (Char.ofNat value.toNat)).map UInt8.toBitVec

/-- `UART.write`. -/
def write (address size value : Int) : Call Unit := do
  require (size = 1)
  let value := u 8 value
  require (¬(address = 5 ∨ address = 6))
  if address = 0 then
    if (← get).dlab then setDll value
    else
      -- THR
      modify fun uart => { uart with output := uart.output.map (· ++ encodeChr value) }
  else if address = 1 then
    if (← get).dlab then setDlm value else setIer value
  else if address = 2 then setFcr value
  else if address = 3 then setLcr value
  else return ()

end Uart

end Riscvm.Python
