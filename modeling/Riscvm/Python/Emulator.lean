import Riscvm.Python.Rv64i
import Riscvm.Python.Rv64c

/-!
# Fetch, execute and the traced run

The rest of `cpu.py`, `Tracer` of `trace.py` and `Emulator.run`. A run is a sequence of turns
of the harts; hart 0 is the one that the tracer is bound to.
-/

namespace Riscvm.Python

open Exec

section Cpu

variable {σ : Type} [Board σ]

/-- `_PRIORITY`. -/
def PRIORITY : List Nat := [11, 3, 7, 9, 1, 5]

/-- The status register keeps the interrupt from being taken. -/
def blocked (cpu : Cpu) (cause : Nat) : Bool :=
  if delegated cpu cause true then cpu.mode == 1 && !hasBits (cpu.csrs CSR.MSTATUS) MSTATUS_SIE
  else cpu.mode == 3 && !hasBits (cpu.csrs CSR.MSTATUS) MSTATUS_MIE

/-- `mip` with one of the hardware-driven bits set to `level`. -/
def drive (mip bit : Int) (level : Bool) : Int :=
  if level then Int.lor mip bit else Int.ldiff mip bit

/-- `mip` with a bit taken from the device that drives it, if there is one. -/
def refresh (mip bit : Int) (line : Option (Call σ Bool)) : Call (Hart σ) Int :=
  match line with
  | some level => do return drive mip bit (← onBoard level)
  | none => return mip

def checkInterrupt : Call (Hart σ) Bool := do
  let cpu ← getCpu
  let clint : Option (ClintHandle σ) := Board.clint
  let plic : Option (Nat → Call σ Bool) := Board.plic
  let mip ← refresh (cpu.csrs CSR.MIP) MIP_MTIP (clint.map (·.pending cpu.hartid))
  let mip ← refresh mip MIP_SEIP (plic.map (· (2 * cpu.hartid + 1)))
  modifyCpu fun cpu => cpu.setCsr CSR.MIP mip
  let cpu ← getCpu
  let pendingEnabled := Int.land mip (cpu.csrs CSR.MIE)
  match PRIORITY.find? fun cause => Int.testBit pendingEnabled cause && !blocked cpu cause with
  | none => return false
  | some cause =>
      setPc (← deliver cause true 0)
      return true

/-- The class for a word read by `fetch`. -/
def Instruction.ofData (data : Int) : Instruction :=
  if data % 4 = 3 then .rv64i (BitVec.ofInt 32 data) else .rv64c (BitVec.ofInt 16 data)

/-- `clint.tick()`. -/
def tick : Call (Hart σ) Unit :=
  match (Board.clint : Option (ClintHandle σ)) with
  | some clint => onBoard clint.tick
  | none => return ()

/-- `uart.poll_input()`, every so many instructions. -/
def pollUart : Call (Hart σ) Unit :=
  match (Board.uart : Option (Call σ Unit)) with
  | some pollInput => do
      modifyCpu fun cpu => { cpu with uartPollCountdown := cpu.uartPollCountdown - 1 }
      if (← getCpu).uartPollCountdown ≤ 0 then
        onBoard pollInput
        modifyCpu fun cpu => { cpu with uartPollCountdown := Cpu.UART_POLL_INTERVAL }
      else return ()
  | none => return ()

def fetch : Call (Hart σ) Unit := do
  tick
  pollUart
  let _ ← checkInterrupt
  let pc : Int := (← getCpu).pc.toNat
  let address ← translate pc "x"
  let data ← onBoard (Board.read address Cpu.RV64I_SIZE)
  modifyCpu fun cpu => { cpu with instruction := some (.ofData data) }

/-- The actor that `get_actor` selects. -/
def act (instruction : Instruction) : Call (Hart σ) Unit :=
  if instruction.value % 4 = 3 then Rv64i.actor instruction.value else Rv64c.actor instruction.value

/-- The `except` clause of `execute`. -/
def handle (trap : ArchitecturalTrap) : Call (Hart σ) Unit := do
  if trap.illegal ∧ (← getCpu).strictIllegal then raise trap
  else setPc (← deliver trap.cause.toNat false trap.tval)

/-- `execute()` on the instruction that was fetched. -/
def execute : Call (Hart σ) Unit := fun hart =>
  match hart.cpu.instruction with
  | none => .error .attributeError hart
  | some instruction =>
      match act instruction hart with
      | .error (.trap trap) hart => handle trap hart
      | result => result

end Cpu

/-- One line of the commit trace. -/
structure Line where
  pc : Int
  inst : Nat
  write : Option (Nat × Int)

/-- The text of a line. -/
def Line.text (line : Line) : String :=
  let head := s!"{hexPad 16 line.pc} {hexPad 8 line.inst}"
  match line.write with
  | some (idx, val) => if idx ≠ 0 then head ++ s!" x{idx}={hexPad 16 (u 64 val)}" else head
  | none => head

/-- The harts share the board; `trace` is the stream, oldest line first. -/
structure Machine (σ : Type) where
  cpus : List Cpu
  board : σ
  trace : List Line

namespace Machine

variable {σ : Type} [Board σ]

/-- The hart of number `k` with the board. -/
def onHart {α : Type} (k : Nat) (x : Call (Hart σ) α) : Call (Machine σ) α := fun machine =>
  match machine.cpus[k]? with
  | none => .error .indexError machine
  | some cpu =>
      let put (hart : Hart σ) : Machine σ :=
        { machine with cpus := machine.cpus.set k hart.cpu, board := hart.board }
      match x ⟨cpu, machine.board⟩ with
      | .ok a hart => .ok a (put hart)
      | .error e hart => .error e (put hart)

/-- `tracer.before`. -/
def before : Call (Hart σ) Unit :=
  modifyCpu fun cpu => { cpu with tracer := cpu.tracer.map fun _ => ⟨none⟩ }

/-- `tracer.after`. -/
def after (pc : Int) (inst : Nat) (cpu : Cpu) : Call (Machine σ) Unit :=
  modify fun machine =>
    { machine with trace := machine.trace ++ [⟨pc, inst, cpu.tracer.bind (·.write)⟩] }

/-- One turn of the inner loop of `run`. -/
def turn (k : Nat) : Call (Machine σ) Unit := do
  onHart k fetch
  let cpu ← onHart k getCpu
  if k = 0 ∧ cpu.tracer.isSome then
    onHart k before
    onHart k execute
    after cpu.pc.toNat (cpu.instruction.elim 0 (·.value)) (← onHart k getCpu)
  else onHart k execute

/-- `run` with a limit: so many rounds, each a turn of every hart. -/
def run : (limit : Nat) → Call (Machine σ) Unit
  | 0 => return ()
  | limit + 1 => do
      (List.range (← get).cpus.length).forM turn
      run limit

end Machine

end Riscvm.Python
