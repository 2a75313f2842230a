import Riscvm.Python.Cpu

/-!
# Uncompressed instructions in Python

The decoder and the actor of `rv64i.py`. `actor` is the `match` over the mnemonics followed by
the commit of the new pc; a mnemonic it does not list is an illegal instruction.
-/

namespace Riscvm.Python.Rv64i

open Exec

def opcode (x : Nat) : Nat := sectionOf x 0 7
def rd (x : Nat) : Nat := sectionOf x 7 5
def funct3 (x : Nat) : Nat := sectionOf x 12 3
def rs1 (x : Nat) : Nat := sectionOf x 15 5
def rs2 (x : Nat) : Nat := sectionOf x 20 5
def funct7 (x : Nat) : Nat := sectionOf x 25 7

def immI (x : Nat) : Int := i 12 (funct7 x <<< 5 ||| rs2 x : Nat)

def immS (x : Nat) : Int := i 12 (funct7 x <<< 5 ||| rd x : Nat)

def immB (x : Nat) : Int :=
  i 13 (sectionOf x 31 1 <<< 12 ||| sectionOf x 7 1 <<< 11 ||| sectionOf x 25 6 <<< 5 |||
    sectionOf x 8 4 <<< 1 : Nat)

def immU (x : Nat) : Int := i 32 (sectionOf x 12 20 <<< 12 : Nat)

def immJ (x : Nat) : Int :=
  i 21 (sectionOf x 31 1 <<< 20 ||| sectionOf x 12 8 <<< 12 ||| sectionOf x 20 1 <<< 11 |||
    sectionOf x 21 10 <<< 1 : Nat)

def shamt (x : Nat) : Nat := sectionOf x 20 6
def atomic (x : Nat) : Nat := funct7 x / 2 ^ 2
def csr (x : Nat) : Nat := sectionOf x 20 12

inductive Mnemonic where
  | UNDEFINED | LUI | AUIPC | JAL | JALR | BEQ | BNE | BLT | BGE | BLTU | BGEU | LB | LH | LW
  | LBU | LHU | SB | SH | SW | ADDI | SLTI | SLTIU | XORI | ORI | ANDI | SLLI | SRLI | SRAI | ADD
  | SUB | SLL | SLT | SLTU | XOR | SRL | SRA | OR | AND | FENCE | ECALL | EBREAK | LWU | LD | SD
  | ADDIW | SLLIW | SRLIW | SRAIW | ADDW | SUBW | SLLW | SRLW | SRAW | FENCE_I | CSRRW | CSRRS
  | CSRRC | CSRRWI | CSRRSI | CSRRCI | MUL | MULH | MULHSU | MULHU | DIV | DIVU | REM | REMU
  | MULW | DIVW | DIVUW | REMW | REMUW | LR_W | SC_W | AMOSWAP_W | AMOADD_W | AMOXOR_W | AMOAND_W
  | AMOOR_W | AMOMIN_W | AMOMAX_W | AMOMINU_W | AMOMAXU_W | LR_D | SC_D | AMOSWAP_D | AMOADD_D
  | AMOXOR_D | AMOAND_D | AMOOR_D | AMOMIN_D | AMOMAX_D | AMOMINU_D | AMOMAXU_D | MRET | SRET
  | WFI | SFENCE_VMA
  deriving DecidableEq, Repr

def MNEMONICS : List (Nat × Table Mnemonic) := [
  (0b0000011, .dict [
    (0b000, .leaf .LB), (0b001, .leaf .LH), (0b010, .leaf .LW), (0b011, .leaf .LD),
    (0b100, .leaf .LBU), (0b101, .leaf .LHU), (0b110, .leaf .LWU)]),
  (0b0001111, .dict [
    (0b000, .leaf .FENCE), (0b001, .leaf .FENCE_I)]),
  (0b0010011, .dict [
    (0b000, .leaf .ADDI),
    (0b001, .dict [(0b0000000, .leaf .SLLI), (0b0000001, .leaf .SLLI)]),
    (0b010, .leaf .SLTI),
    (0b011, .leaf .SLTIU),
    (0b100, .leaf .XORI),
    (0b101, .dict [
      (0b0000000, .leaf .SRLI), (0b0000001, .leaf .SRLI), (0b0100000, .leaf .SRAI),
      (0b0100001, .leaf .SRAI)]),
    (0b110, .leaf .ORI),
    (0b111, .leaf .ANDI)]),
  (0b0010111, .leaf .AUIPC),
  (0b0011011, .dict [
    (0b000, .leaf .ADDIW),
    (0b001, .dict [(0b0000000, .leaf .SLLIW)]),
    (0b101, .dict [(0b0000000, .leaf .SRLIW), (0b0100000, .leaf .SRAIW)])]),
  (0b0100011, .dict [
    (0b000, .leaf .SB), (0b001, .leaf .SH), (0b010, .leaf .SW), (0b011, .leaf .SD)]),
  (0b0101111, .dict [
    (0b010, .dict [
      (0b00000, .leaf .AMOADD_W), (0b00001, .leaf .AMOSWAP_W), (0b00010, .leaf .LR_W),
      (0b00011, .leaf .SC_W), (0b00100, .leaf .AMOXOR_W), (0b01000, .leaf .AMOOR_W),
      (0b01100, .leaf .AMOADD_W), (0b10000, .leaf .AMOMIN_W), (0b10100, .leaf .AMOMAX_W),
      (0b11000, .leaf .AMOMINU_W), (0b11100, .leaf .AMOMAXU_W)]),
    (0b011, .dict [
      (0b00000, .leaf .AMOADD_D), (0b00001, .leaf .AMOSWAP_D), (0b00010, .leaf .LR_D),
      (0b00011, .leaf .SC_D), (0b00100, .leaf .AMOXOR_D), (0b01000, .leaf .AMOOR_D),
      (0b01100, .leaf .AMOADD_D), (0b10000, .leaf .AMOMIN_D), (0b10100, .leaf .AMOMAX_D),
      (0b11000, .leaf .AMOMINU_D), (0b11100, .leaf .AMOMAXU_D)])]),
  (0b0110011, .dict [
    (0b000, .dict [(0b0000000, .leaf .ADD), (0b0000001, .leaf .MUL), (0b0100000, .leaf .SUB)]),
    (0b001, .dict [(0b0000000, .leaf .SLL), (0b0000001, .leaf .MULH)]),
    (0b010, .dict [(0b0000000, .leaf .SLT), (0b0000001, .leaf .MULHSU)]),
    (0b011, .dict [(0b0000000, .leaf .SLTU), (0b0000001, .leaf .MULHU)]),
    (0b100, .dict [(0b0000000, .leaf .XOR), (0b0000001, .leaf .DIV)]),
    (0b101, .dict [(0b0000000, .leaf .SRL), (0b0000001, .leaf .DIVU), (0b0100000, .leaf .SRA)]),
    (0b110, .dict [(0b0000000, .leaf .OR), (0b0000001, .leaf .REM)]),
    (0b111, .dict [(0b0000000, .leaf .AND), (0b0000001, .leaf .REMU)])]),
  (0b0110111, .leaf .LUI),
  (0b0111011, .dict [
    (0b000, .dict [(0b0000000, .leaf .ADDW), (0b0000001, .leaf .MULW), (0b0100000, .leaf .SUBW)]),
    (0b001, .dict [(0b0000000, .leaf .SLLW)]),
    (0b100, .dict [(0b0000001, .leaf .DIVW)]),
    (0b101, .dict [(0b0000000, .leaf .SRLW), (0b0000001, .leaf .DIVUW), (0b0100000, .leaf .SRAW)]),
    (0b110, .dict [(0b0000001, .leaf .REMW)]),
    (0b111, .dict [(0b0000001, .leaf .REMUW)])]),
  (0b1100011, .dict [
    (0b000, .leaf .BEQ), (0b001, .leaf .BNE), (0b100, .leaf .BLT), (0b101, .leaf .BGE),
    (0b110, .leaf .BLTU), (0b111, .leaf .BGEU)]),
  (0b1100111, .dict [
    (0b000, .leaf .JALR)]),
  (0b1101111, .leaf .JAL),
  (0b1110011, .dict [
    (0b000, .dict [
      (0b0000000, .dict [(0b00000, .leaf .ECALL), (0b00001, .leaf .EBREAK)]),
      (0b0001000, .dict [(0b00010, .leaf .SRET), (0b00101, .leaf .WFI)]),
      (0b0001001, .leaf .SFENCE_VMA),
      (0b0011000, .leaf .MRET)]),
    (0b001, .leaf .CSRRW),
    (0b010, .leaf .CSRRS),
    (0b011, .leaf .CSRRC),
    (0b101, .leaf .CSRRWI),
    (0b110, .leaf .CSRRSI),
    (0b111, .leaf .CSRRCI)])]

/-- The matchers of an instruction whose opcode ends in 0b11. -/
def getMatchers (x : Nat) : List (Nat → Nat) :=
  if opcode x = 0b0101111 then [opcode, funct3, atomic] else [opcode, funct3, funct7, rs2]

def mnemonicOf (x : Nat) : Option Mnemonic :=
  lookupMnemonic x .UNDEFINED (getMatchers x) MNEMONICS

def getMnemonic {σ : Type} (x : Nat) : Call σ Mnemonic := do
  assert (opcode x % 4 = 3)
  getattr (mnemonicOf x)

variable {σ : Type} [Board σ]

/-- A comparison as the integer that Python makes of it. -/
def ofBool (b : Bool) : Int := if b then 1 else 0

/-- `DIV` and `DIVW`, which differ in the least value and in a conversion of the quotient. -/
def signedDiv (a b least : Int) (convert : Int → Int) : Int :=
  if b = 0 then -1 else if a = least ∧ b = -1 then a else convert (truncDiv a b)

/-- `REM` and `REMW`. -/
def signedRem (a b least : Int) (convert : Int → Int) : Int :=
  if b = 0 then a else if a = least ∧ b = -1 then 0 else convert (truncRem a b)

/-- `mret` and `sret` on the status register: the interrupt enable bit is restored from its
saved copy, which is set, and the saved privilege is cleared. -/
def restored (status enable saved privilege : Int) : Int :=
  let status := Int.lor (Int.ldiff status enable) (if hasBits status saved then enable else 0)
  Int.ldiff (Int.lor status saved) privilege

/-- The branches of `actor`: what the instruction does, and the new pc. -/
def perform (x : Nat) (mnemonic : Mnemonic) : Call (Hart σ) Int := do
  let cpu ← getCpu
  let pc : Int := cpu.pc.toNat
  let next := pc + 4
  let a := cpu.reg (rs1 x)
  let b := cpu.reg (rs2 x)
  let load (size : Int) (convert : Int → Int) : Call (Hart σ) Int := do
    Python.rd (convert (← read (a + immI x) size))
    return next
  let store (size : Int) : Call (Hart σ) Int := do
    write (a + immS x) size b
    return next
  let result (value : Int) : Call (Hart σ) Int := do
    Python.rd value
    return next
  let branch (taken : Bool) : Call (Hart σ) Int := return if taken then pc + immB x else next
  let jump (target : Int) : Call (Hart σ) Int := do
    Python.rd next
    return target
  -- the old value is read before `rd` is written, which may be the register of the operand
  let csrUpdate (f : Int → Int) : Call (Hart σ) Int := do
    let old := csrRead cpu (csr x)
    Python.rd old
    modifyCpu (csrWrite (csr x) (f old))
    return next
  match mnemonic with
  | .LB => load 1 (i 8)
  | .LH => load 2 (i 16)
  | .LW => load 4 (i 32)
  | .LD => load 8 (i 64)
  | .LBU => load 1 (u 8)
  | .LHU => load 2 (u 16)
  | .LWU => load 4 (u 32)
  | .XORI => result (Int.xor (u 64 a) (u 64 (immI x)))
  | .ADDI => result (a + immI x)
  | .SLLI => result (a * 2 ^ shamt x)
  | .SLTI => result (ofBool (i 64 a < immI x))
  | .SLTIU => result (ofBool (u 64 a < u 64 (immI x)))
  | .SRLI => result (u 64 a >>> shamt x)
  | .SRAI => result (i 64 a >>> shamt x)
  | .BGE => branch (i 64 a ≥ i 64 b)
  | .BLT => branch (i 64 a < i 64 b)
  | .BEQ => branch (a = b)
  | .JALR => jump ((a + immI x) >>> 1 * 2)
  | .ADD => result (a + b)
  | .SLT => result (ofBool (i 64 a < i 64 b))
  | .SLTU => result (ofBool (u 64 a < u 64 b))
  | .SUB => result (a - b)
  | .ADDW => result (i 32 (a + b))
  | .SUBW => result (i 32 (a - b))
  | .BNE => branch (a ≠ b)
  | .BLTU => branch (u 64 a < u 64 b)
  | .BGEU => branch (u 64 a ≥ u 64 b)
  | .AUIPC => result (pc + immU x)
  | .LUI => result (immU x)
  | .CSRRS => csrUpdate fun old => Int.lor old a
  | .CSRRW => csrUpdate fun _ => a
  | .CSRRC => csrUpdate fun old => Int.ldiff old a
  | .CSRRWI => csrUpdate fun _ => rs1 x
  | .CSRRSI => csrUpdate fun old => Int.lor old (rs1 x)
  | .CSRRCI => csrUpdate fun old => Int.ldiff old (rs1 x)
  | .MUL => result (a * b)
  | .MULH => result ((i 64 a * i 64 b) >>> 64)
  | .MULHSU => result ((i 64 a * u 64 b) >>> 64)
  | .MULHU => result ((u 64 a * u 64 b) >>> 64)
  | .DIV => result (signedDiv (i 64 a) (i 64 b) (-2 ^ 63) id)
  | .DIVU => result (if u 64 b = 0 then -1 else u 64 a / u 64 b)
  | .REM => result (signedRem (i 64 a) (i 64 b) (-2 ^ 63) id)
  | .REMU => result (if u 64 b = 0 then u 64 a else u 64 a % u 64 b)
  | .MULW => result (i 32 (a * b))
  | .DIVW => result (signedDiv (i 32 a) (i 32 b) (-2 ^ 31) (i 32))
  | .DIVUW => result (if u 32 b = 0 then -1 else i 32 (u 32 a / u 32 b))
  | .REMW => result (signedRem (i 32 a) (i 32 b) (-2 ^ 31) (i 32))
  | .REMUW => result (if u 32 b = 0 then i 32 (u 32 a) else i 32 (u 32 a % u 32 b))
  | .JAL => jump (pc + immJ x)
  | .SD => store 8
  | .SW => store 4
  | .SH => store 2
  | .SB => store 1
  | .XOR => result (Int.xor a b)
  | .AND => result (Int.land a b)
  | .ANDI => result (Int.land a (immI x))
  | .OR => result (Int.lor a b)
  | .ORI => result (Int.lor a (immI x))
  | .SLLIW => result (i 32 (a * 2 ^ (shamt x % 32)))
  | .SRLIW => result (i 32 (u 32 a >>> (shamt x % 32)))
  | .SRAIW => result (i 32 (i 32 a >>> (shamt x % 32)))
  | .ADDIW => result (i 32 (a + immI x))
  | .MRET => do
      let mstatus := cpu.csrs CSR.MSTATUS
      modifyCpu fun cpu => { cpu.setCsr CSR.MSTATUS
          (restored mstatus MSTATUS_MIE MSTATUS_MPIE MSTATUS_MPP) with
        mode := (Int.land mstatus MSTATUS_MPP >>> 11).toNat }
      return cpu.csrs CSR.MEPC
  | .SRET => do
      let sstatus := cpu.csrs CSR.MSTATUS
      modifyCpu fun cpu => { cpu.setCsr CSR.MSTATUS
          (restored sstatus MSTATUS_SIE MSTATUS_SPIE MSTATUS_SPP) with
        mode := (Int.land sstatus MSTATUS_SPP >>> 8).toNat }
      return cpu.csrs CSR.SEPC
  | .WFI => return next
  | .ECALL => deliver (8 + cpu.mode) false 0
  | .AMOSWAP_W => do
      let oldValue := i 32 (← read a 4)
      write a 4 b
      Python.rd oldValue
      return next
  | .FENCE => return next
  | .FENCE_I => return next
  | .SLL => result (u 64 a * 2 ^ (b % 64).toNat)
  | .SRL => result (u 64 a >>> (b % 64).toNat)
  | .SRA => result (i 64 a >>> (b % 64).toNat)
  | .SLLW => result (i 32 (u 32 a * 2 ^ (b % 32).toNat))
  | .SRLW => result (i 32 (u 32 a >>> (b % 32).toNat))
  | .SRAW => result (i 32 (i 32 a >>> (b % 32).toNat))
  | .SFENCE_VMA => return next
  | .EBREAK => raise ⟨3, pc, false⟩
  | _ => raise ⟨2, x, true⟩

def actor (value : Nat) : Call (Hart σ) Unit := do
  let mnemonic ← getMnemonic value
  setPc (← perform value mnemonic)

end Riscvm.Python.Rv64i
