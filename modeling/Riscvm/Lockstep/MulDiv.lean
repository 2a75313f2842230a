import Riscvm.Decoders
import Riscvm.Lockstep.Arithmetic
import Riscvm.Python.Escapes
import Riscvm.Rv64rs.Expansion

/-!
# Multiplication and division

RV64M in the two emulators: the halves of the products are exact, the divisions truncate toward
zero, and the 32-bit forms do the same with the low halves of the operands.
-/

namespace Riscvm.Lockstep

open Exec TwosComplement Rv64rs

/-- An RV64M instruction on operands `a` and `b`: in both emulators every encoding of it writes
`v` to the destination and advances the pc. -/
structure Computes (opcode : BitVec 7) (funct3 : BitVec 3) (a b v : U64) : Prop where
  rust : ∀ [Host] (w : U32) (m : Machine), (Instruction.new w).opcode = opcode →
    (Instruction.new w).funct3 = funct3 → (Instruction.new w).funct7 = 1 →
    m.cpu.regs.read (Instruction.new w).rs1 = a → m.cpu.regs.read (Instruction.new w).rs2 = b →
    Machine.execute (Instruction.new w) m = .ok () { m with cpu := { m.cpu with
      regs := m.cpu.regs.write (Instruction.new w).rd v
      pc := m.cpu.pc + 4 } }
  python : ∀ {σ : Type} [Python.Board σ] (w : U32) (hart : Python.Hart σ),
    (Instruction.new w).opcode = opcode → (Instruction.new w).funct3 = funct3 →
    (Instruction.new w).funct7 = 1 → hart.cpu.instruction = some (.rv64i w) →
    hart.cpu.reg (Instruction.new w).rs1.toNat = a.toNat →
    hart.cpu.reg (Instruction.new w).rs2.toNat = b.toNat →
    ∃ tracer, Python.execute hart = .ok () { hart with cpu := { hart.cpu with
      registers := Python.Cpu.setReg hart.cpu.registers (Instruction.new w).rd.toNat v.toNat
      pc := hart.cpu.pc + 4
      tracer } }

/-- Division truncating toward zero. -/
structure Truncates (a b q r : Int) : Prop where
  quotient : q = a.tdiv b
  exact : a = q * b + r
  small : r.natAbs < b.natAbs
  sign : r = 0 ∨ r.sign = a.sign

/-- The quotients and remainders of `a` by `b`: the signed ones and the unsigned ones. -/
structure Divides {n : Nat} (a b q r qu ru : BitVec n) : Prop where
  signed : b ≠ 0 → ¬(a = BitVec.intMin n ∧ b = -1) → Truncates a.toInt b.toInt q.toInt r.toInt
  overflow : a = BitVec.intMin n → b = -1 → q = BitVec.intMin n ∧ r = 0
  unsigned : b ≠ 0 → Truncates a.toNat b.toNat qu.toNat ru.toNat
  zero : b = 0 → q = BitVec.allOnes n ∧ r = a ∧ qu = BitVec.allOnes n ∧ ru = a

theorem truncates (a : Int) {b : Int} (h : b ≠ 0) : Truncates a b (a.tdiv b) (a.tmod b) where
  quotient := rfl
  exact := by
    rw [Int.mul_comm]
    exact (Int.mul_tdiv_add_tmod a b).symm
  small := by
    rw [Int.natAbs_tmod]
    exact Nat.mod_lt _ (Int.natAbs_pos.mpr h)
  sign := by
    rw [Int.sign_tmod]
    by_cases hd : b ∣ a
    · exact .inl (Int.tmod_eq_zero_of_dvd hd)
    · exact .inr (if_neg hd)

open Rv64rs.Execute in
theorem divides {n : Nat} (pos : 0 < n) (a b : BitVec n) :
    Divides a b (divSigned a b) (remSigned a b) (divUnsigned a b) (remUnsigned a b) where
  signed hb ho := by
    have hzero : b.toInt ≠ 0 := mt (toInt_eq_zero b).mp hb
    rw [divSigned, if_neg hb, if_neg ho, remSigned, if_neg hb, if_neg ho,
      BitVec.toInt_sdiv_of_ne_or_ne a b (not_and_or.mp ho), BitVec.toInt_srem]
    exact truncates _ hzero
  overflow ha hb := by
    have hne : b ≠ 0 := by
      rintro rfl
      have hbit := congrArg (·.getLsbD 0) hb
      simp [BitVec.neg_one_eq_allOnes, pos] at hbit
    rw [divSigned, if_neg hne, if_pos ⟨ha, hb⟩, remSigned, if_neg hne, if_pos ⟨ha, hb⟩]
    exact ⟨ha, rfl⟩
  unsigned hb := by
    have hzero : (b.toNat : Int) ≠ 0 := fun h => hb (BitVec.eq_of_toNat_eq (Int.ofNat.inj h))
    rw [divUnsigned, if_neg hb, remUnsigned, if_neg hb, BitVec.toNat_udiv, BitVec.toNat_umod]
    exact truncates _ hzero
  zero hb := by
    rw [divSigned, if_pos hb, remSigned, if_pos hb, divUnsigned, if_pos hb, remUnsigned, if_pos hb]
    exact ⟨BitVec.neg_one_eq_allOnes, rfl, BitVec.neg_one_eq_allOnes, rfl⟩

section Executors

open Python.Rv64i (Mnemonic)

/-- A branch of `actor` that computes from `rs1` and `rs2`. -/
def ComputesFrom (mnemonic : Mnemonic) (f : Int → Int → Int) : Prop :=
  ∀ {σ : Type} [Python.Board σ] (x : Nat) (hart : Python.Hart σ),
    Python.Rv64i.perform x mnemonic hart = (do
      Python.rd (f (hart.cpu.reg (Python.Rv64i.rs1 x)) (hart.cpu.reg (Python.Rv64i.rs2 x)))
      return (hart.cpu.pc.toNat : Int) + 4 : Python.Call (Python.Hart σ) Int) hart

theorem rd_apply {σ : Type} {hart : Python.Hart σ} {instruction : Python.Instruction}
    (hi : hart.cpu.instruction = some instruction) (value : Int) :
    Python.rd value hart = .ok () { hart with cpu := { hart.cpu with
      registers := Python.Cpu.setReg hart.cpu.registers instruction.rd value
      tracer := hart.cpu.tracer.map fun _ => ⟨some (instruction.rd, value)⟩ } } := by
  unfold Python.rd
  rw [Python.getCpu_bind_apply, hi]
  rfl

variable {opcode : BitVec 7} {funct3 : BitVec 3} {mnemonic : Mnemonic} {f : Int → Int → Int}
  {a b v : U64} {w : U32}

theorem python_computes {σ : Type} [Python.Board σ] {hart : Python.Hart σ}
    (hm : Python.Rv64i.mnemonicOf w.toNat = some mnemonic) (hf : ComputesFrom mnemonic f)
    (hlow : w.toNat % 4 = 3) (hi : hart.cpu.instruction = some (.rv64i w))
    (ha : hart.cpu.reg (Instruction.new w).rs1.toNat = a.toNat)
    (hb : hart.cpu.reg (Instruction.new w).rs2.toNat = b.toNat)
    (hv : BitVec.ofInt 64 (f a.toNat b.toNat) = v) :
    ∃ tracer, Python.execute hart = .ok () { hart with cpu := { hart.cpu with
      registers := Python.Cpu.setReg hart.cpu.registers (Instruction.new w).rd.toNat v.toNat
      pc := hart.cpu.pc + 4
      tracer } } := by
  have hvalue : (Python.Instruction.rv64i w).value % 4 = 3 := hlow
  have hact := (Python.act_rv64i hvalue hm).trans
    (bind_ok ((hf w.toNat hart).trans (bind_ok (rd_apply hi _) _)) Python.setPc)
  have hrd : (Python.Instruction.rv64i w).rd = (Instruction.new w).rd.toNat :=
    (toNat_field w 7 5).symm
  have hrs1 : Python.Rv64i.rs1 w.toNat = (Instruction.new w).rs1.toNat := (toNat_field w 15 5).symm
  have hrs2 : Python.Rv64i.rs2 w.toNat = (Instruction.new w).rs2.toNat := (toNat_field w 20 5).symm
  have hpc : BitVec.ofInt 64 ((hart.cpu.pc.toNat : Int) + 4) = hart.cpu.pc + 4 := by
    rw [BitVec.ofInt_add, ofInt_toNat]
    rfl
  have hvalue : Python.Cpu.setReg hart.cpu.registers (Instruction.new w).rd.toNat
      (f a.toNat b.toNat) =
        Python.Cpu.setReg hart.cpu.registers (Instruction.new w).rd.toNat v.toNat := by
    unfold Python.Cpu.setReg
    rw [hv, ofInt_toNat]
  rw [hrd, hrs1, hrs2, ha, hb, hvalue] at hact
  rw [← hpc]
  exact ⟨_, Python.execute_of_act hi hact⟩

theorem rust_computes [Host] {m : Machine} {v : U64}
    (h : Execute.executeFrom (m.cpu.pc + 4) (Instruction.new w) m = (do
      Machine.writeReg (Instruction.new w).rd v
      return m.cpu.pc + 4 : Call Machine U64) m) :
    Machine.execute (Instruction.new w) m = .ok () { m with cpu := { m.cpu with
      regs := m.cpu.regs.write (Instruction.new w).rd v
      pc := m.cpu.pc + 4 } } := by
  have hdone : Execute.execute (Instruction.new w) m = .ok (m.cpu.pc + 4) { m with cpu :=
      { m.cpu with regs := m.cpu.regs.write (Instruction.new w).rd v } } := by
    rw [Execute.execute, get_bind_apply, h]
    rfl
  exact bind_ok hdone _

/-- RV64M in OP. -/
def opMnemonic (funct3 : BitVec 3) : Mnemonic :=
  match funct3 with
  | 0#3 => .MUL
  | 1#3 => .MULH
  | 2#3 => .MULHSU
  | 3#3 => .MULHU
  | 4#3 => .DIV
  | 5#3 => .DIVU
  | 6#3 => .REM
  | _ => .REMU

/-- RV64M in OP-32. -/
def op32Mnemonic (funct3 : BitVec 3) : Mnemonic :=
  match funct3 with
  | 0#3 => .MULW
  | 4#3 => .DIVW
  | 5#3 => .DIVUW
  | 6#3 => .REMW
  | 7#3 => .REMUW
  | _ => .UNDEFINED

theorem mnemonicOf_op (hop : (Instruction.new w).opcode = 0x33)
    (h7 : (Instruction.new w).funct7 = 1) :
    Python.Rv64i.mnemonicOf w.toNat = some (opMnemonic (Instruction.new w).funct3) := by
  rcases Compressed.cases3 (Instruction.new w).funct3 with h3 | h3 | h3 | h3 | h3 | h3 | h3 | h3 <;>
    simp [Python.Rv64i.mnemonicOf, Python.Rv64i.getMatchers, Python.lookupMnemonic, opMnemonic,
      Python.Rv64i.MNEMONICS, List.lookup_cons, opcode_eq, funct3_eq, funct7_eq, hop, h3, h7]

theorem mnemonicOf_op32 (hop : (Instruction.new w).opcode = 0x3b)
    (h7 : (Instruction.new w).funct7 = 1) :
    Python.Rv64i.mnemonicOf w.toNat = some (op32Mnemonic (Instruction.new w).funct3) := by
  rcases Compressed.cases3 (Instruction.new w).funct3 with h3 | h3 | h3 | h3 | h3 | h3 | h3 | h3 <;>
    simp [Python.Rv64i.mnemonicOf, Python.Rv64i.getMatchers, Python.lookupMnemonic, op32Mnemonic,
      Python.Rv64i.MNEMONICS, List.lookup_cons, opcode_eq, funct3_eq, funct7_eq, hop, h3, h7]

theorem low_bits (hop : (Instruction.new w).opcode = opcode) (h : opcode.toNat % 4 = 3) :
    w.toNat % 4 = 3 := by
  have hopcode : w.toNat % 2 ^ 7 = opcode.toNat := by
    rw [← hop]
    exact (BitVec.toNat_setWidth 7 w).symm
  omega

/-- Both executors compute an OP. -/
theorem computes_op (hf : ComputesFrom (opMnemonic funct3) f)
    (hop : Execute.op funct3 1 a b = some v) (hv : BitVec.ofInt 64 (f a.toNat b.toNat) = v) :
    Computes 0x33 funct3 a b v where
  rust w m h h3 h7 ha hb := by
    subst ha hb
    rw [← h3, ← h7] at hop
    exact rust_computes (Execute.executeFrom_op _ m h hop)
  python w hart h h3 h7 hi ha hb :=
    python_computes (h3 ▸ mnemonicOf_op h h7) hf (low_bits h (by decide)) hi ha hb hv

/-- Both executors compute an OP-32, and sign-extend the result. -/
theorem computes_op32 {v : U32} (hf : ComputesFrom (op32Mnemonic funct3) f)
    (hop : Execute.op32 funct3 1 (a.setWidth 32) (b.setWidth 32) = some v)
    (hv : BitVec.ofInt 64 (f a.toNat b.toNat) = v.signExtend 64) :
    Computes 0x3b funct3 a b (v.signExtend 64) where
  rust w m h h3 h7 ha hb := by
    subst ha hb
    rw [← h3, ← h7] at hop
    exact rust_computes (Execute.executeFrom_op32 _ m h hop)
  python w hart h h3 h7 hi ha hb :=
    python_computes (h3 ▸ mnemonicOf_op32 h h7) hf (low_bits h (by decide)) hi ha hb hv

end Executors

section Instructions

variable (a b : U64)

theorem mul_computes : Computes 0x33 0 a b (a * b) := by
  refine computes_op (f := (· * ·)) (fun _ _ => rfl) rfl ?_
  rw [BitVec.ofInt_mul, ofInt_toNat, ofInt_toNat]

theorem mulh_computes :
    Computes 0x33 1 a b (BitVec.ofInt 64 ((a.toInt * b.toInt) >>> (64 : Nat))) := by
  refine computes_op (f := fun a b => (Python.i 64 a * Python.i 64 b) >>> 64) (fun _ _ => rfl) ?_ ?_
  · rw [(ofInt_high _).1, BitVec.ofInt_mul]
    rfl
  · rw [i64_toNat, i64_toNat]
    exact congrArg _ (Int.shiftRight_natCast_right _ 64)

theorem mulhsu_computes :
    Computes 0x33 2 a b (BitVec.ofInt 64 ((a.toInt * b.toNat) >>> (64 : Nat))) := by
  refine computes_op (f := fun a b => (Python.i 64 a * Python.u 64 b) >>> 64) (fun _ _ => rfl) ?_ ?_
  · rw [(ofInt_high _).1, BitVec.ofInt_mul, ofInt128_toNat]
    rfl
  · rw [i64_toNat, u64_toNat]
    exact congrArg _ (Int.shiftRight_natCast_right _ 64)

theorem mulhu_computes :
    Computes 0x33 3 a b (BitVec.ofInt 64 (((a.toNat : Int) * b.toNat) >>> (64 : Nat))) := by
  refine computes_op (f := fun a b => (Python.u 64 a * Python.u 64 b) >>> 64) (fun _ _ => rfl) ?_ ?_
  · rw [(ofInt_high _).2, BitVec.ofInt_mul, ofInt128_toNat, ofInt128_toNat]
    rfl
  · rw [u64_toNat, u64_toNat]
    exact congrArg _ (Int.shiftRight_natCast_right _ 64)

theorem div_computes : Computes 0x33 4 a b (Execute.divSigned a b) := by
  refine computes_op
    (f := fun a b => Python.Rv64i.signedDiv (Python.i 64 a) (Python.i 64 b) (-2 ^ 63) id)
    (fun _ _ => rfl) rfl ?_
  rw [i64_toNat, i64_toNat, signedDiv_eq (n := 64) (fun _ => rfl) (by decide) (by decide)]
  exact BitVec.ofInt_toInt

theorem divu_computes : Computes 0x33 5 a b (Execute.divUnsigned a b) := by
  refine computes_op
    (f := fun a b => if Python.u 64 b = 0 then -1 else Python.u 64 a / Python.u 64 b)
    (fun _ _ => rfl) rfl ?_
  rw [u64_toNat, u64_toNat, ofInt_divUnsigned]

theorem rem_computes : Computes 0x33 6 a b (Execute.remSigned a b) := by
  refine computes_op
    (f := fun a b => Python.Rv64i.signedRem (Python.i 64 a) (Python.i 64 b) (-2 ^ 63) id)
    (fun _ _ => rfl) rfl ?_
  rw [i64_toNat, i64_toNat, signedRem_eq (n := 64) (fun _ => rfl) (by decide) (by decide)]
  exact BitVec.ofInt_toInt

theorem remu_computes : Computes 0x33 7 a b (Execute.remUnsigned a b) := by
  refine computes_op
    (f := fun a b => if Python.u 64 b = 0 then Python.u 64 a else Python.u 64 a % Python.u 64 b)
    (fun _ _ => rfl) rfl ?_
  rw [u64_toNat, u64_toNat, ofInt_remUnsigned]

/-- A signed 32-bit number is its own conversion. -/
theorem i32_toInt (v : U32) : Python.i 32 v.toInt = v.toInt := by
  rw [Python.i_eq_toInt _ (by decide), BitVec.ofInt_toInt]

theorem mulw_computes :
    Computes 0x3b 0 a b ((a.setWidth 32 * b.setWidth 32 : U32).signExtend 64) := by
  refine computes_op32 (f := fun a b => Python.i 32 (a * b)) (fun _ _ => rfl) rfl ?_
  rw [ofInt_i32, BitVec.ofInt_mul, ofInt32_toNat, ofInt32_toNat]

theorem divw_computes :
    Computes 0x3b 4 a b
      ((Execute.divSigned (a.setWidth 32) (b.setWidth 32) : U32).signExtend 64) := by
  refine computes_op32 (f := fun a b =>
    Python.Rv64i.signedDiv (Python.i 32 a) (Python.i 32 b) (-2 ^ 31) (Python.i 32))
    (fun _ _ => rfl) rfl ?_
  rw [i32_toNat, i32_toNat, signedDiv_eq (n := 32) i32_toInt (by decide) (by decide)]
  rfl

theorem divuw_computes :
    Computes 0x3b 5 a b
      ((Execute.divUnsigned (a.setWidth 32) (b.setWidth 32) : U32).signExtend 64) := by
  refine computes_op32 (f := fun a b =>
    if Python.u 32 b = 0 then -1 else Python.i 32 (Python.u 32 a / Python.u 32 b))
    (fun _ _ => rfl) rfl ?_
  have hminus : (-1 : Int) = Python.i 32 (-1) := by decide
  rw [hminus, ← apply_ite (Python.i 32), ofInt_i32, u32_toNat, u32_toNat, ofInt_divUnsigned]

theorem remw_computes :
    Computes 0x3b 6 a b
      ((Execute.remSigned (a.setWidth 32) (b.setWidth 32) : U32).signExtend 64) := by
  refine computes_op32 (f := fun a b =>
    Python.Rv64i.signedRem (Python.i 32 a) (Python.i 32 b) (-2 ^ 31) (Python.i 32))
    (fun _ _ => rfl) rfl ?_
  rw [i32_toNat, i32_toNat, signedRem_eq (n := 32) i32_toInt (by decide) (by decide)]
  rfl

theorem remuw_computes :
    Computes 0x3b 7 a b
      ((Execute.remUnsigned (a.setWidth 32) (b.setWidth 32) : U32).signExtend 64) := by
  refine computes_op32 (f := fun a b =>
    if Python.u 32 b = 0 then Python.i 32 (Python.u 32 a)
    else Python.i 32 (Python.u 32 a % Python.u 32 b))
    (fun _ _ => rfl) rfl ?_
  rw [← apply_ite (Python.i 32), ofInt_i32, u32_toNat, u32_toNat, ofInt_remUnsigned]

/-- The two halves of a signed product. -/
theorem signed_halves {x y : Int} (hx : x.natAbs ≤ 2 ^ 63) (hy : y.natAbs < 2 ^ 64) :
    (BitVec.ofInt 64 ((x * y) >>> (64 : Nat))).toInt * 2 ^ 64 + (BitVec.ofInt 64 (x * y)).toNat =
      x * y := by
  have hbound : (x * y).natAbs ≤ 2 ^ 63 * (2 ^ 64 - 1) := by
    rw [Int.natAbs_mul]
    exact Nat.mul_le_mul hx (Nat.le_pred_of_lt hy)
  rw [BitVec.toInt_ofInt, BitVec.toNat_ofInt, Int.shiftRight_eq_div_pow,
    Int.bmod_eq_of_le (by omega) (by omega)]
  omega

theorem unsigned_halves {x y : Nat} (hx : x < 2 ^ 64) (hy : y < 2 ^ 64) :
    (BitVec.ofInt 64 (((x : Int) * y) >>> (64 : Nat))).toNat * 2 ^ 64 +
      (BitVec.ofInt 64 ((x : Int) * y)).toNat = x * y := by
  have hbound : x * y ≤ (2 ^ 64 - 1) * (2 ^ 64 - 1) :=
    Nat.mul_le_mul (Nat.le_pred_of_lt hx) (Nat.le_pred_of_lt hy)
  rw [← Int.natCast_mul, BitVec.toNat_ofInt, BitVec.toNat_ofInt, Int.shiftRight_eq_div_pow]
  omega

/-- The low half is the same under the three signednesses. -/
theorem ofInt_mul_toInt : BitVec.ofInt 64 (a.toInt * b.toInt) = a * b := by
  rw [BitVec.ofInt_mul, BitVec.ofInt_toInt, BitVec.ofInt_toInt]

theorem ofInt_mul_toInt_toNat : BitVec.ofInt 64 (a.toInt * b.toNat) = a * b := by
  rw [BitVec.ofInt_mul, BitVec.ofInt_toInt, ofInt_toNat]

theorem ofInt_mul_toNat : BitVec.ofInt 64 ((a.toNat : Int) * b.toNat) = a * b := by
  rw [BitVec.ofInt_mul, ofInt_toNat, ofInt_toNat]

end Instructions

/-- RV64M: the products are exact, the divisions truncate, and the 32-bit forms do the same with
the low halves of the operands. -/
theorem rv64m :
    (∀ a b : U64, ∃ lo high highSigned highUnsigned,
      Computes 0x33 0 a b lo ∧ Computes 0x33 1 a b high ∧ Computes 0x33 2 a b highSigned ∧
      Computes 0x33 3 a b highUnsigned ∧
      high.toInt * 2 ^ 64 + lo.toNat = a.toInt * b.toInt ∧
      highSigned.toInt * 2 ^ 64 + lo.toNat = a.toInt * b.toNat ∧
      highUnsigned.toNat * 2 ^ 64 + lo.toNat = a.toNat * b.toNat) ∧
    (∀ a b : U64, ∃ q qu r ru,
      Computes 0x33 4 a b q ∧ Computes 0x33 5 a b qu ∧ Computes 0x33 6 a b r ∧
      Computes 0x33 7 a b ru ∧ Divides a b q r qu ru) ∧
    (∀ a b : U32, ∃ lo q qu r ru : U32,
      (∀ x y : U32,
        Computes 0x3b 0 (x ++ a) (y ++ b) (lo.signExtend 64) ∧
        Computes 0x3b 4 (x ++ a) (y ++ b) (q.signExtend 64) ∧
        Computes 0x3b 5 (x ++ a) (y ++ b) (qu.signExtend 64) ∧
        Computes 0x3b 6 (x ++ a) (y ++ b) (r.signExtend 64) ∧
        Computes 0x3b 7 (x ++ a) (y ++ b) (ru.signExtend 64)) ∧
      lo.toNat = a.toNat * b.toNat % 2 ^ 32 ∧ Divides a b q r qu ru) := by
  refine ⟨fun a b => ?_, fun a b => ?_, fun a b => ?_⟩
  · have ha := Bits.natAbs_toInt_le a
    have hb := Bits.natAbs_toInt_le b
    have hsigned := signed_halves ha (y := b.toInt) (by omega)
    have hmixed := signed_halves ha (y := b.toNat) (by omega)
    have hunsigned := unsigned_halves a.isLt b.isLt
    rw [ofInt_mul_toInt] at hsigned
    rw [ofInt_mul_toInt_toNat] at hmixed
    rw [ofInt_mul_toNat] at hunsigned
    exact ⟨_, _, _, _, mul_computes a b, mulh_computes a b, mulhsu_computes a b,
      mulhu_computes a b, hsigned, hmixed, hunsigned⟩
  · exact ⟨_, _, _, _, div_computes a b, divu_computes a b, rem_computes a b, remu_computes a b,
      divides (by decide) a b⟩
  · refine ⟨_, _, _, _, _, fun x y => ?_, BitVec.toNat_mul a b, divides (by decide) a b⟩
    have ha : (x ++ a : U64).setWidth 32 = a := BitVec.setWidth_append_eq_right
    have hb : (y ++ b : U64).setWidth 32 = b := BitVec.setWidth_append_eq_right
    have hall := And.intro (mulw_computes (x ++ a) (y ++ b)) <|
      And.intro (divw_computes (x ++ a) (y ++ b)) <|
      And.intro (divuw_computes (x ++ a) (y ++ b)) <|
      And.intro (remw_computes (x ++ a) (y ++ b)) (remuw_computes (x ++ a) (y ++ b))
    rwa [ha, hb] at hall

end Riscvm.Lockstep
