import Riscvm.Rv64rs.Basic

/-!
# Decoding of 32-bit instructions

`decode.rs`: register numbers, function fields and the five immediates.
-/

namespace Riscvm.Rv64rs

/-- `((value << shift) as i32 >> shift) as i64` with `shift = 32 - bits`. -/
def sext (value : U32) (bits : Nat) : U64 :=
  ((value <<< (32 - bits)).sshiftRight (32 - bits)).signExtend 64

/-- The double shift is the sign extension of the low bits. -/
theorem sext_eq {value : U32} {bits : Nat} (pos : 0 < bits) (le : bits ≤ 32) :
    sext value bits = (value.setWidth bits).signExtend 64 := by
  unfold sext
  apply BitVec.eq_of_getLsbD_eq
  intro i hi
  simp only [BitVec.getLsbD_signExtend, BitVec.getLsbD_sshiftRight, BitVec.getLsbD_shiftLeft,
    BitVec.msb_eq_getLsbD_last, BitVec.getLsbD_setWidth]
  grind

structure Instruction where
  value : U32
  opcode : BitVec 7
  rd : BitVec 5
  rs1 : BitVec 5
  rs2 : BitVec 5
  funct3 : BitVec 3
  funct7 : BitVec 7
  immI : U64
  immS : U64
  immB : U64
  immU : U64
  immJ : U64
  shamt : BitVec 6
  csr : BitVec 12
  deriving DecidableEq

namespace Instruction

def new (w : U32) : Instruction :=
  { value := w
    opcode := w.setWidth 7
    rd := (w >>> 7).setWidth 5
    rs1 := (w >>> 15).setWidth 5
    rs2 := (w >>> 20).setWidth 5
    funct3 := (w >>> 12).setWidth 3
    funct7 := (w >>> 25).setWidth 7
    immI := sext (w >>> 20) 12
    immS := sext (((w >>> 25) <<< 5) ||| ((w >>> 7) &&& 0x1f)) 12
    immB := sext ((((w >>> 31) &&& 1) <<< 12) ||| (((w >>> 7) &&& 1) <<< 11) |||
      (((w >>> 25) &&& 0x3f) <<< 5) ||| (((w >>> 8) &&& 0xf) <<< 1)) 13
    immU := (w &&& 0xfffff000).signExtend 64
    immJ := sext ((((w >>> 31) &&& 1) <<< 20) ||| (((w >>> 12) &&& 0xff) <<< 12) |||
      (((w >>> 20) &&& 1) <<< 11) ||| (((w >>> 21) &&& 0x3ff) <<< 1)) 21
    shamt := (w >>> 20).setWidth 6
    csr := (w >>> 20).setWidth 12 }

end Instruction

end Riscvm.Rv64rs
