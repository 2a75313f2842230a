import Riscvm.Python.Cpu

/-!
# Compressed instructions in Python

The decoder and the actor of `rv64c.py`. Its helpers for immediates that must not be zero
raise an internal error, its operand checks are assertions, and its results are assigned to
the registers directly.
-/

namespace Riscvm.Python.Rv64c

open Exec

def op (x : Nat) : Nat := sectionOf x 0 2
def rd (x : Nat) : Nat := sectionOf x 7 5
def rs1 (x : Nat) : Nat := sectionOf x 7 5
def rs2 (x : Nat) : Nat := sectionOf x 2 5
def funct3 (x : Nat) : Nat := sectionOf x 13 3
def funct6 (x : Nat) : Nat := sectionOf x 10 6
def funct2 (x : Nat) : Nat := sectionOf x 5 2
def bit12 (x : Nat) : Nat := sectionOf x 12 1
def rs1Prime (x : Nat) : Nat := sectionOf x 7 3 + 8
def rs2Prime (x : Nat) : Nat := sectionOf x 2 3 + 8

def offset83Sdsp (x : Nat) : Int := (sectionOf x 10 3 <<< 3 ||| sectionOf x 7 3 <<< 6 : Nat)

def offset83Ldsp (x : Nat) : Int :=
  (sectionOf x 12 1 <<< 5 ||| sectionOf x 5 2 <<< 3 ||| sectionOf x 2 3 <<< 6 : Nat)

def offset73 (x : Nat) : Int := (sectionOf x 10 3 <<< 3 ||| sectionOf x 5 2 <<< 6 : Nat)

def offset81 (x : Nat) : Int :=
  i 9 (sectionOf x 12 1 <<< 8 ||| sectionOf x 10 2 <<< 3 ||| sectionOf x 5 2 <<< 6 |||
    sectionOf x 3 2 <<< 1 ||| sectionOf x 2 1 <<< 5 : Nat)

def offset111 (x : Nat) : Int :=
  i 12 (sectionOf x 12 1 <<< 11 ||| sectionOf x 11 1 <<< 4 ||| sectionOf x 9 2 <<< 8 |||
    sectionOf x 8 1 <<< 10 ||| sectionOf x 7 1 <<< 6 ||| sectionOf x 6 1 <<< 7 |||
    sectionOf x 3 3 <<< 1 ||| sectionOf x 2 1 <<< 5 : Nat)

def offset62 (x : Nat) : Int :=
  (sectionOf x 10 3 <<< 3 ||| sectionOf x 6 1 <<< 2 ||| sectionOf x 5 1 <<< 6 : Nat)

/-- The immediate of `ADDI4SPN`, before the check that it is not zero. -/
def uimm92 (x : Nat) : Int :=
  (sectionOf x 11 2 <<< 4 ||| sectionOf x 7 4 <<< 6 ||| sectionOf x 6 1 <<< 2 |||
    sectionOf x 5 1 <<< 3 : Nat)

def uimm50 (x : Nat) : Nat := sectionOf x 12 1 <<< 5 ||| sectionOf x 2 5

def imm50 (x : Nat) : Int := i 6 (uimm50 x)

/-- The immediate of `ADDI16SP`, before the check that it is not zero. -/
def imm94 (x : Nat) : Int :=
  i 10 (sectionOf x 12 1 <<< 9 ||| sectionOf x 6 1 <<< 4 ||| sectionOf x 5 1 <<< 6 |||
    sectionOf x 3 2 <<< 7 ||| sectionOf x 2 1 <<< 5 : Nat)

/-- `value or nz_error()`. -/
def nonzero {σ : Type} (value : Int) : Call σ Int :=
  if value ≠ 0 then return value else error .zeroImmediate

inductive Mnemonic where
  | UNDEFINED | SDSP | LDSP | SD | LD | BEQZ | BNEZ | J | SW | LW | ADDI4SPN | ADDI | LUI
  | ADDI16SP | LI | ADDIW | ANDI | SRAI | SRLI | SLLI | ADD | SUB | XOR | AND | OR | ADDW | SUBW
  | JR | JALR | MV
  deriving DecidableEq, Repr

/-- The last function names `Mnemonic.EBREAK`, which there is not. -/
def MNEMONICS : List (Nat × Table Mnemonic) := [
  (0b00, .dict [
    (0b000, .leaf .ADDI4SPN), (0b010, .leaf .LW), (0b011, .leaf .LD), (0b110, .leaf .SW),
    (0b111, .leaf .SD)]),
  (0b01, .dict [
    (0b000, .leaf .ADDI),
    (0b001, .leaf .ADDIW),
    (0b010, .leaf .LI),
    (0b011, .choose fun x => some (if rd x = 2 then .ADDI16SP else .LUI)),
    (0b100, .dict [
      (0b100000, .leaf .SRLI), (0b100100, .leaf .SRLI), (0b100001, .leaf .SRAI),
      (0b100101, .leaf .SRAI), (0b100010, .leaf .ANDI), (0b100110, .leaf .ANDI),
      (0b100011, .dict [(0b00, .leaf .SUB), (0b01, .leaf .XOR), (0b10, .leaf .OR),
        (0b11, .leaf .AND)]),
      (0b100111, .dict [(0b00, .leaf .SUBW), (0b01, .leaf .ADDW)])]),
    (0b101, .leaf .J),
    (0b110, .leaf .BEQZ),
    (0b111, .leaf .BNEZ)]),
  (0b10, .dict [
    (0b000, .leaf .SLLI),
    (0b011, .leaf .LDSP),
    (0b100, .dict [
      (0b0, .choose fun x => some (if rs2 x ≠ 0 then .MV else .JR)),
      (0b1, .choose fun x =>
        if rs2 x ≠ 0 then some .ADD else if rs1 x ≠ 0 then some .JALR else none)]),
    (0b111, .leaf .SDSP)])]

/-- The matchers of an instruction whose low bits are not 0b11. -/
def getMatchers (x : Nat) : List (Nat → Nat) :=
  if op x = 0b10 then [op, funct3, bit12] else [op, funct3, funct6, funct2]

def mnemonicOf (x : Nat) : Option Mnemonic :=
  lookupMnemonic x .UNDEFINED (getMatchers x) MNEMONICS

def getMnemonic {σ : Type} (x : Nat) : Call σ Mnemonic := getattr (mnemonicOf x)

variable {σ : Type} [Board σ]

/-- The branches of `actor`: what the instruction does, and the new pc. -/
def perform (x : Nat) (mnemonic : Mnemonic) : Call (Hart σ) Int := do
  let cpu ← getCpu
  let pc : Int := cpu.pc.toNat
  let next := pc + 2
  let rd' := cpu.reg (rd x)
  let a := cpu.reg (rs1Prime x)
  let b := cpu.reg (rs2Prime x)
  -- the instructions on a pair of popular registers
  let update (value : Int) : Call (Hart σ) Int := do
    assign (rs1Prime x) value
    return next
  match mnemonic with
  | .SDSP => do
      write (cpu.reg 2 + offset83Sdsp x) 8 (cpu.reg (rs2 x))
      return next
  | .LDSP => do
      assert (rd x ≠ 0)
      assign (rd x) (← read (cpu.reg 2 + offset83Ldsp x) 8)
      return next
  | .SD => do
      write (a + offset73 x) 8 b
      return next
  | .LD => do
      assign (rs2Prime x) (← read (a + offset73 x) 8)
      return next
  | .BEQZ => return if a = 0 then pc + offset81 x else next
  | .BNEZ => return if a ≠ 0 then pc + offset81 x else next
  | .J => return pc + offset111 x
  | .SW => do
      write (a + offset62 x) 4 b
      return next
  | .LW => do
      assign (rs2Prime x) (i 32 (← read (a + offset62 x) 4))
      return next
  | .ADDI4SPN => do
      let imm ← nonzero (uimm92 x)
      assign (rs2Prime x) (cpu.reg 2 + imm)
      return next
  | .ADDI => do
      assign (rd x) (rd' + (← nonzero (imm50 x)))
      return next
  | .LUI => do
      assert (rd x ≠ 0 ∧ rd x ≠ 2)
      let imm ← nonzero (imm50 x)
      assign (rd x) (imm * 2 ^ 12)
      return next
  | .ADDI16SP => do
      assert (rd x = 2)
      let imm ← nonzero (imm94 x)
      assign 2 (cpu.reg 2 + imm)
      return next
  | .LI => do
      assert (rd x ≠ 0)
      assign (rd x) (imm50 x)
      return next
  | .ADDIW => do
      assert (rd x ≠ 0)
      assign (rd x) (i 32 rd' + imm50 x)
      return next
  | .ANDI => update (Int.land a (imm50 x))
  | .SRAI => do
      let shamt ← nonzero (uimm50 x)
      update (i 64 a >>> shamt.toNat)
  | .SRLI => do
      let shamt ← nonzero (uimm50 x)
      update (a >>> shamt.toNat)
  | .SLLI => do
      let shamt ← nonzero (uimm50 x)
      assign (rd x) (rd' * 2 ^ shamt.toNat)
      return next
  | .ADD => do
      assert (rd x ≠ 0)
      assert (rs2 x ≠ 0)
      assign (rd x) (rd' + cpu.reg (rs2 x))
      return next
  | .SUB => update (a - b)
  | .XOR => update (Int.xor a b)
  | .AND => update (Int.land a b)
  | .OR => update (Int.lor a b)
  | .SUBW => update (i 32 (a - b))
  | .ADDW => update (i 32 (a + b))
  | .JR => do
      assert (rs1 x ≠ 0)
      assert (rs2 x = 0)
      return cpu.reg (rs1 x)
  | .JALR => do
      assert (rs1 x ≠ 0)
      assert (rs2 x = 0)
      assign 1 next
      return cpu.reg (rs1 x)
  | .MV => do
      assert (rs1 x ≠ 0)
      assert (rs2 x ≠ 0)
      assign (rs1 x) (cpu.reg (rs2 x))
      return next
  | .UNDEFINED => error (.invalidInstruction x pc)

def actor (value : Nat) : Call (Hart σ) Unit := do
  let mnemonic ← getMnemonic value
  setPc (← perform value mnemonic)

end Riscvm.Python.Rv64c
