import Riscvm.Python.Utils

/-!
# The hart of the Python emulator

`register.py`, `csr.py`, `mmu.py`, `trap.py` and the accesses of `cpu.py`. Everything outside
the hart is a `Board`: its operations are the ones that the CPU calls on the bus and on the
devices it holds handles to.
-/

namespace Riscvm.Python

open Exec

/-- What the CPU calls on its `clint`. -/
structure ClintHandle (σ : Type) where
  tick : Call σ Unit
  pending : (hart : Nat) → Call σ Bool

/-- The bus, and the devices whose handles the CPU may hold. Only the CPU raises
architectural traps. -/
class Board (σ : Type) where
  read : (address size : Int) → Call σ Int
  write : (address size value : Int) → Call σ Unit
  clint : Option (ClintHandle σ)
  plic : Option ((context : Nat) → Call σ Bool)
  uart : Option (Call σ Unit)
  read_no_trap : ∀ address size s t s', read address size s ≠ .error (.trap t) s'
  write_no_trap : ∀ address size value s t s', write address size value s ≠ .error (.trap t) s'

/-- The two `Instruction` classes; the word is masked to the class's width. -/
inductive Instruction where
  | rv64i (value : BitVec 32)
  | rv64c (value : BitVec 16)
  deriving DecidableEq, Repr

namespace Instruction

def value : Instruction → Nat
  | .rv64i value => value.toNat
  | .rv64c value => value.toNat

def size : Instruction → Int
  | .rv64i _ => 4
  | .rv64c _ => 2

/-- Both classes have `rd` in the same place. -/
def rd (instruction : Instruction) : Nat := sectionOf instruction.value 7 5

end Instruction

/-- `Tracer`, as far as it hooks into the CPU. -/
structure Tracer where
  write : Option (Nat × Int)
  deriving DecidableEq

/-- `csrs` is 0 where the dictionary has no entry: the source reads it with `get(_, 0)`. -/
structure Cpu where
  instruction : Option Instruction
  registers : Nat → BitVec 64
  pc : BitVec 64
  hartid : Nat
  csrs : Nat → Int
  mode : Nat
  strictIllegal : Bool
  uartPollCountdown : Int
  tracer : Option Tracer

namespace CSR

def SSTATUS : Nat := 0x100
def SIE : Nat := 0x104
def STVEC : Nat := 0x105
def SEPC : Nat := 0x141
def SCAUSE : Nat := 0x142
def STVAL : Nat := 0x143
def SIP : Nat := 0x144
def SATP : Nat := 0x180
def MEDELEG : Nat := 0x302
def MIDELEG : Nat := 0x303
def MSTATUS : Nat := 0x300
def MIE : Nat := 0x304
def MTVEC : Nat := 0x305
def MEPC : Nat := 0x341
def MCAUSE : Nat := 0x342
def MTVAL : Nat := 0x343
def MIP : Nat := 0x344
def MHARTID : Nat := 0xf14

end CSR

namespace Cpu

def RV64I_SIZE : Int := 4
def UART_POLL_INTERVAL : Int := 4096

def new (hartid : Nat) : Cpu where
  instruction := none
  registers := fun _ => 0
  pc := 0
  hartid := hartid
  csrs := fun addr =>
    if addr = CSR.MSTATUS then 0xa00000000
    else if addr = CSR.MIE then 0x222
    else if addr = CSR.MHARTID then hartid
    else 0
  mode := 3
  strictIllegal := false
  uartPollCountdown := 0
  tracer := none

/-- `registers[i].value`; register 0 is a `FixedRegister` of value 0. -/
def reg (cpu : Cpu) (i : Nat) : Int := if i = 0 then 0 else (cpu.registers i).toNat

/-- The registers after `registers[i].value = value`. -/
def setReg (registers : Nat → BitVec 64) (i : Nat) (value : Int) : Nat → BitVec 64 :=
  fun j => if j = i ∧ i ≠ 0 then BitVec.ofInt 64 value else registers j

def setCsr (cpu : Cpu) (addr : Nat) (value : Int) : Cpu :=
  { cpu with csrs := fun a => if a = addr then value else cpu.csrs a }

/-- An assignment changes its own register only, and never `x0`. -/
theorem reg_setReg (cpu : Cpu) (i j : Nat) (value : Int) :
    reg { cpu with registers := setReg cpu.registers i value } j =
      if j = i ∧ i ≠ 0 then ((BitVec.ofInt 64 value).toNat : Int) else reg cpu j := by
  unfold reg setReg
  by_cases hj : j = 0
  · rw [if_pos hj, if_pos hj, if_neg (by omega)]
  · rw [if_neg hj, if_neg hj]
    exact apply_ite (fun x : BitVec 64 => (x.toNat : Int)) _ _ _

end Cpu

/-- A hart and everything around it. -/
structure Hart (σ : Type) where
  cpu : Cpu
  board : σ

variable {σ α : Type}

def onBoard (x : Call σ α) : Call (Hart σ) α :=
  zoom (·.board) (fun board hart => { hart with board }) x

def getCpu : Call (Hart σ) Cpu := return (← get).cpu

theorem getCpu_bind_apply (f : Cpu → Call (Hart σ) α) (hart : Hart σ) :
    (getCpu >>= f) hart = f hart.cpu hart := rfl

def modifyCpu (f : Cpu → Cpu) : Call (Hart σ) Unit :=
  modify fun hart => { hart with cpu := f hart.cpu }

/-- `registers[i].value = value`. -/
def assign (i : Nat) (value : Int) : Call (Hart σ) Unit :=
  modifyCpu fun cpu => { cpu with registers := Cpu.setReg cpu.registers i value }

def setPc (value : Int) : Call (Hart σ) Unit :=
  modifyCpu fun cpu => { cpu with pc := BitVec.ofInt 64 value }

/-- `cpu.rd`, which an installed tracer intercepts. -/
def rd (value : Int) : Call (Hart σ) Unit := do
  let cpu ← getCpu
  match cpu.instruction with
  | none => throw .attributeError
  | some instruction =>
      modifyCpu fun cpu => { cpu with tracer := cpu.tracer.map fun _ =>
        ⟨some (instruction.rd, value)⟩ }
      assign instruction.rd value

def SSTATUS_MASK : Int := 0x122
def SIE_MASK : Int := 0x222
def SIP_MASK : Int := 0x222
def MSTATUS_SIE : Int := 0x2
def MSTATUS_MIE : Int := 0x8
def MSTATUS_SPIE : Int := 0x20
def MSTATUS_MPIE : Int := 0x80
def MSTATUS_SPP : Int := 0x100
def MSTATUS_MPP : Int := 0x1800
def MIP_MTIP : Int := 0x80
def MIP_SEIP : Int := 0x200

/-- `_ALIASED.get`. -/
def aliased (addr : Nat) : Option (Nat × Int) :=
  if addr = CSR.SSTATUS then some (CSR.MSTATUS, SSTATUS_MASK)
  else if addr = CSR.SIE then some (CSR.MIE, SIE_MASK)
  else if addr = CSR.SIP then some (CSR.MIP, SIP_MASK)
  else none

def csrRead (cpu : Cpu) (addr : Nat) : Int :=
  match aliased addr with
  | some (baseAddr, mask) => Int.land (cpu.csrs baseAddr) mask
  | none => cpu.csrs addr

def csrWrite (addr : Nat) (value : Int) (cpu : Cpu) : Cpu :=
  if addr = CSR.MHARTID then cpu
  else
    match aliased addr with
    | some (baseAddr, mask) =>
        let base := cpu.csrs baseAddr
        cpu.setCsr baseAddr (Int.lor (Int.ldiff base mask) (Int.land value mask))
    | none => cpu.setCsr addr value

/-- `value & mask` as a truth value. -/
def hasBits (value mask : Int) : Bool := Int.land value mask != 0

/-- The machine's own causes 3, 7 and 11 are never delegated. -/
def MIDELEG_DELEGATABLE_MASK : Int := Int.lnot 0x888

/-- The decision of `raise_trap` between S-mode and M-mode. -/
def delegated (cpu : Cpu) (cause : Nat) (isInterrupt : Bool) : Bool :=
  let deleg :=
    if isInterrupt then Int.land (cpu.csrs CSR.MIDELEG) MIDELEG_DELEGATABLE_MASK
    else cpu.csrs CSR.MEDELEG
  cpu.mode != 3 && Int.testBit deleg cause

/-- `raise_trap`: the new pc and the hart it leaves. -/
def raiseTrap (cpu : Cpu) (cause : Nat) (isInterrupt : Bool) (tval : Int) : Int × Cpu :=
  let scauseValue : Int := if isInterrupt then (cause : Int) + 2 ^ 63 else cause
  let mstatus := cpu.csrs CSR.MSTATUS
  if delegated cpu cause isInterrupt then
    let sie := hasBits mstatus MSTATUS_SIE
    let mstatus := Int.lor (Int.ldiff mstatus MSTATUS_SPIE) (if sie then MSTATUS_SPIE else 0)
    let mstatus := Int.ldiff mstatus MSTATUS_SIE
    let mstatus := Int.lor (Int.ldiff mstatus MSTATUS_SPP) (if cpu.mode = 1 then MSTATUS_SPP else 0)
    let cpu := (((cpu.setCsr CSR.SEPC cpu.pc.toNat).setCsr CSR.SCAUSE scauseValue).setCsr
      CSR.STVAL tval).setCsr CSR.MSTATUS mstatus
    let cpu := { cpu with mode := 1 }
    (Int.ldiff (cpu.csrs CSR.STVEC) 3, cpu)
  else
    let mie := hasBits mstatus MSTATUS_MIE
    let mstatus := Int.lor (Int.ldiff mstatus MSTATUS_MPIE) (if mie then MSTATUS_MPIE else 0)
    let mstatus := Int.ldiff mstatus MSTATUS_MIE
    let mstatus := Int.lor (Int.ldiff mstatus MSTATUS_MPP) ((cpu.mode : Int) * 2 ^ 11)
    let cpu := (((cpu.setCsr CSR.MEPC cpu.pc.toNat).setCsr CSR.MCAUSE scauseValue).setCsr
      CSR.MTVAL tval).setCsr CSR.MSTATUS mstatus
    let cpu := { cpu with mode := 3 }
    (Int.ldiff (cpu.csrs CSR.MTVEC) 3, cpu)

/-- Deliver the trap and return the new pc. -/
def deliver (cause : Nat) (isInterrupt : Bool) (tval : Int) : Call (Hart σ) Int := do
  let cpu ← getCpu
  let (pc, cpu) := raiseTrap cpu cause isInterrupt tval
  modifyCpu fun _ => cpu
  return pc

def PTE_R : Int := 0x2
def PTE_W : Int := 0x4
def PTE_X : Int := 0x8
def PPN_MASK : Int := 2 ^ 44 - 1

/-- `vpn[level]`. -/
def vpn (va : Int) (level : Nat) : Int := Int.land (va >>> (12 + 9 * level)) 0x1ff

variable [Board σ]

/-- The rest of the loop over the levels, with `levels` of them left: the leaf and its level. -/
def walk (va a : Int) : (levels : Nat) → Call σ (Int × Nat)
  | 0 => error (.walkExhausted va)
  | level + 1 => do
      let pteAddr := a + vpn va level * 8
      let pte ← Board.read pteAddr 8
      if Int.land pte 1 = 0 then error (.invalidPte va level pte pteAddr)
      else if hasBits pte (PTE_R + PTE_X) then return (pte, level)
      else if hasBits pte PTE_W then error (.reservedPte va)
      else walk va (Int.land (pte >>> 10) PPN_MASK * 0x1000) level

/-- The PTE bit that an access needs. -/
def requiredBit (access : String) : Int :=
  if access = "r" then PTE_R else if access = "w" then PTE_W else PTE_X

def translate (va : Int) (access : String) : Call (Hart σ) Int := do
  let satp := (← getCpu).csrs CSR.SATP
  let mode := satp >>> 60
  if mode = 0 then return va
  else if mode ≠ 8 then error (.unsupportedMode mode)
  else
    let (pte, level) ← onBoard (walk va (Int.land satp PPN_MASK * 0x1000) 3)
    if !hasBits pte (requiredBit access) then error (.permission access va pte)
    else
      let ppn := Int.land (pte >>> 10) PPN_MASK
      let lowMask : Int := 2 ^ (9 * level) - 1
      let vaLow := (List.range level).foldl (fun low l => Int.lor low (vpn va l * 2 ^ (9 * l))) 0
      if 0 < level ∧ Int.land ppn lowMask ≠ 0 then error (.misalignedSuperpage va)
      else
        let ppn := if 0 < level then Int.lor (Int.ldiff ppn lowMask) vaLow else ppn
        return Int.lor (ppn * 2 ^ 12) (Int.land va 0xfff)

/-- `_check_alignment`, with `ALIGN_TRAPS` as the source sets it. -/
def checkAlignment (address size : Int) (cause : Nat) : Call (Hart σ) Unit :=
  if size ≠ 0 ∧ Int.land address (size - 1) ≠ 0 then raise ⟨cause, address, false⟩ else return ()

def read (address size : Int) : Call (Hart σ) Int := do
  checkAlignment address size 4
  let address ← translate address "r"
  onBoard (Board.read address size)

def write (address size value : Int) : Call (Hart σ) Unit := do
  checkAlignment address size 6
  let address ← translate address "w"
  onBoard (Board.write address size value)

end Riscvm.Python
