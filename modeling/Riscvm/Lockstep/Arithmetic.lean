import Riscvm.Foundation.TwosComplement
import Riscvm.Python.Rv64i
import Riscvm.Rv64rs.Execute

/-!
# Integers and words

The actors of Python compute on integers and convert; the executors of Rust compute on words.
-/

namespace Riscvm.Lockstep

open TwosComplement Rv64rs Python Python.Rv64i

section Conversions

theorem u_eq_toNat (n : Nat) (v : Int) : u n v = ((BitVec.ofInt n v).toNat : Int) := by
  rw [BitVec.toNat_ofInt, u, Int.natCast_pow, Int.toNat_of_nonneg]
  · rfl
  · exact Int.emod_nonneg _ (Int.ne_of_gt (Int.pow_pos (by decide)))

theorem u64_toNat (x : U64) : u 64 (x.toNat : Int) = x.toNat := by
  rw [u_eq_toNat, ofInt_toNat]

theorem i64_toNat (x : U64) : i 64 (x.toNat : Int) = x.toInt := by
  rw [i_eq_toInt _ (by decide), ofInt_toNat]

theorem u32_toNat (x : U64) : u 32 (x.toNat : Int) = (x.setWidth 32).toNat := by
  rw [u_eq_toNat, ← setWidth_ofInt (w := 64) _ (by decide), ofInt_toNat]

theorem i32_toNat (x : U64) : i 32 (x.toNat : Int) = (x.setWidth 32).toInt := by
  rw [i_eq_toInt _ (by decide), ← setWidth_ofInt (w := 64) _ (by decide), ofInt_toNat]

/-- A 32-bit result, sign-extended. -/
theorem ofInt_i32 (v : Int) : BitVec.ofInt 64 (i 32 v) = (BitVec.ofInt 32 v).signExtend 64 := by
  rw [i_eq_toInt _ (by decide)]
  rfl

theorem ofInt32_toNat (x : U64) : BitVec.ofInt 32 (x.toNat : Int) = x.setWidth 32 := by
  rw [← setWidth_ofInt (w := 64) _ (by decide), ofInt_toNat]

theorem ofInt_ofBool (b : Bool) : BitVec.ofInt 64 (Rv64i.ofBool b) = Execute.ofBool b := by
  cases b with
  | false => rfl
  | true => rfl

theorem ofInt_shiftRight {n : Nat} (x : BitVec n) (k : Nat) :
    BitVec.ofInt n ((x.toNat : Int) >>> k) = x >>> k := by
  change BitVec.ofInt n ((x.toNat >>> k : Nat) : Int) = _
  rw [BitVec.ofInt_natCast, ← BitVec.toNat_ushiftRight, BitVec.ofNat_toNat, BitVec.setWidth_eq]

theorem ofInt_sshiftRight {n : Nat} (x : BitVec n) (k : Nat) :
    BitVec.ofInt n (x.toInt >>> k) = x.sshiftRight k := rfl

theorem natCast_lt (x y : U64) : decide ((x.toNat : Int) < y.toNat) = x.ult y :=
  decide_eq_decide.mpr Int.ofNat_lt

/-- The amount of a shift by a register. -/
theorem shamt6 (y : U64) : ((y.toNat : Int) % 64).toNat = (y &&& 0x3f).toNat := by
  rw [BitVec.toNat_and]
  have hmask := Nat.and_two_pow_sub_one_eq_mod y.toNat 6
  change _ = y.toNat &&& (2 ^ 6 - 1)
  rw [hmask]
  omega

theorem shamt5 (y : U64) : ((y.toNat : Int) % 32).toNat = (y.setWidth 32 &&& 0x1f).toNat := by
  rw [BitVec.toNat_and, BitVec.toNat_setWidth]
  have hmask := Nat.and_two_pow_sub_one_eq_mod (y.toNat % 2 ^ 32) 5
  change _ = y.toNat % 2 ^ 32 &&& (2 ^ 5 - 1)
  rw [hmask]
  omega

/-- The amount of a 32-bit shift by an immediate. -/
theorem shamt5_imm (s : BitVec 6) : s.toNat % 32 = (s.setWidth 5).toNat :=
  (BitVec.toNat_setWidth 5 s).symm

/-- Clearing the lowest bit. -/
theorem ofInt_even (v : Int) :
    BitVec.ofInt 64 (v >>> (1 : Int) * 2) = BitVec.ofInt 64 v &&& ~~~1 := by
  rw [show v >>> (1 : Int) = v >>> (1 : Nat) from Int.shiftRight_natCast_right v 1]
  have hshift := ofInt_shiftLeft (w := 64) (v >>> (1 : Nat)) 1
  refine hshift.trans ?_
  apply BitVec.eq_of_getLsbD_eq
  intro j hj
  have hone : (1#64).getLsbD j = decide (j = 0) := by
    rw [BitVec.getLsbD_one]
    simp
  rw [BitVec.getLsbD_shiftLeft, BitVec.getLsbD_and, BitVec.getLsbD_not]
  change _ = ((BitVec.ofInt 64 v).getLsbD j && (decide (j < 64) && !(1#64).getLsbD j))
  rw [hone, getLsbD_ofInt _ hj]
  cases j with
  | zero => simp
  | succ j =>
      have hbit : Int.testBit (v >>> (1 : Nat)) j = Int.testBit v (j + 1) := by
        cases v with
        | ofNat n =>
            change (n >>> 1).testBit j = n.testBit (j + 1)
            rw [Nat.testBit_shiftRight, Nat.add_comm]
        | negSucc n =>
            change (!(n >>> 1).testBit j) = !n.testBit (j + 1)
            rw [Nat.testBit_shiftRight, Nat.add_comm]
      rw [Nat.succ_sub_one, getLsbD_ofInt _ (by omega), hbit]
      simp [hj]

end Conversions

/-- The high half of a product. -/
theorem ofInt_high (p : Int) :
    BitVec.ofInt 64 (p >>> (64 : Nat)) = ((BitVec.ofInt 128 p).sshiftRight 64).setWidth 64 ∧
      BitVec.ofInt 64 (p >>> (64 : Nat)) = (BitVec.ofInt 128 p >>> (64 : Nat)).setWidth 64 := by
  have hbit (j : Nat) (hj : j < 64) :
      (BitVec.ofInt 64 (p >>> (64 : Nat))).getLsbD j = (BitVec.ofInt 128 p).getLsbD (64 + j) := by
    rw [getLsbD_ofInt _ hj, getLsbD_ofInt _ (by omega)]
    cases p with
    | ofNat n =>
        change (n >>> 64).testBit j = n.testBit (64 + j)
        rw [Nat.testBit_shiftRight]
    | negSucc n =>
        change (!(n >>> 64).testBit j) = !n.testBit (64 + j)
        rw [Nat.testBit_shiftRight]
  constructor
  · apply BitVec.eq_of_getLsbD_eq
    intro j hj
    rw [hbit j hj, BitVec.getLsbD_setWidth, BitVec.getLsbD_sshiftRight]
    grind
  · apply BitVec.eq_of_getLsbD_eq
    intro j hj
    rw [hbit j hj, BitVec.getLsbD_setWidth, BitVec.getLsbD_ushiftRight]
    grind

theorem ofInt128_toNat (x : U64) : BitVec.ofInt 128 (x.toNat : Int) = x.setWidth 128 := by
  rw [BitVec.ofInt_natCast, BitVec.ofNat_toNat]

theorem truncDiv_eq (a b : Int) : truncDiv a b = a.tdiv b := by
  have hpos (n : Nat) : (Int.ofNat n < 0) = False :=
    eq_false (Int.not_lt.mpr (Int.natCast_nonneg n))
  have hneg (n : Nat) : (Int.negSucc n < 0) = True := eq_true (Int.negSucc_lt_zero n)
  cases a with
  | ofNat m =>
      cases b with
      | ofNat n =>
          simp only [truncDiv, hpos, ne_eq, not_true_eq_false, if_false]
          rfl
      | negSucc n =>
          simp only [truncDiv, hpos, hneg, ne_eq, false_ne_true, not_false_eq_true, if_true]
          rfl
  | negSucc m =>
      cases b with
      | ofNat n =>
          simp only [truncDiv, hpos, hneg, ne_eq, true_ne_false, not_false_eq_true, if_true]
          rfl
      | negSucc n =>
          simp only [truncDiv, hneg, ne_eq, not_true_eq_false, if_false]
          rfl

theorem truncRem_eq (a b : Int) : truncRem a b = a.tmod b := by
  rw [truncRem, truncDiv_eq, Int.tmod_def, Int.mul_comm]

section Division

variable {n : Nat} {convert : Int → Int} {x y : BitVec n}

theorem toInt_eq_zero (y : BitVec n) : y.toInt = 0 ↔ y = 0 := by
  constructor
  · intro h
    exact BitVec.toInt_inj.mp (h.trans BitVec.toInt_zero.symm)
  · rintro rfl
    exact BitVec.toInt_zero

theorem signedDiv_eq (hconvert : ∀ v : BitVec n, convert v.toInt = v.toInt)
    (hneg : (-1 : BitVec n).toInt = -1) (hmin : (BitVec.intMin n).toInt = -2 ^ (n - 1)) :
    signedDiv x.toInt y.toInt (-2 ^ (n - 1)) convert = (Execute.divSigned x y).toInt := by
  unfold signedDiv Execute.divSigned
  by_cases hy : y = 0
  · rw [if_pos ((toInt_eq_zero y).mpr hy), if_pos hy, hneg]
  · rw [if_neg (mt (toInt_eq_zero y).mp hy), if_neg hy, ← hmin, ← hneg]
    by_cases ho : x = BitVec.intMin n ∧ y = -1
    · rw [if_pos ⟨congrArg _ ho.1, congrArg _ ho.2⟩, if_pos ho]
    · rw [if_neg (fun h => ho ⟨BitVec.toInt_inj.mp h.1, BitVec.toInt_inj.mp h.2⟩), if_neg ho,
        truncDiv_eq]
      have hsdiv := BitVec.toInt_sdiv_of_ne_or_ne x y (not_and_or.mp ho)
      rw [← hsdiv, hconvert]

theorem signedRem_eq (hconvert : ∀ v : BitVec n, convert v.toInt = v.toInt)
    (hneg : (-1 : BitVec n).toInt = -1) (hmin : (BitVec.intMin n).toInt = -2 ^ (n - 1)) :
    signedRem x.toInt y.toInt (-2 ^ (n - 1)) convert = (Execute.remSigned x y).toInt := by
  unfold signedRem Execute.remSigned
  by_cases hy : y = 0
  · rw [if_pos ((toInt_eq_zero y).mpr hy), if_pos hy]
  · rw [if_neg (mt (toInt_eq_zero y).mp hy), if_neg hy, ← hmin, ← hneg]
    by_cases ho : x = BitVec.intMin n ∧ y = -1
    · rw [if_pos ⟨congrArg _ ho.1, congrArg _ ho.2⟩, if_pos ho]
      exact BitVec.toInt_zero.symm
    · rw [if_neg (fun h => ho ⟨BitVec.toInt_inj.mp h.1, BitVec.toInt_inj.mp h.2⟩), if_neg ho,
        truncRem_eq, ← BitVec.toInt_srem, hconvert]

theorem ofInt_udiv (x y : BitVec n) :
    BitVec.ofInt n ((x.toNat : Int) / (y.toNat : Int)) = x / y := by
  rw [← Int.natCast_ediv, BitVec.ofInt_natCast, ← BitVec.toNat_udiv, BitVec.ofNat_toNat,
    BitVec.setWidth_eq]

theorem ofInt_umod (x y : BitVec n) :
    BitVec.ofInt n ((x.toNat : Int) % (y.toNat : Int)) = x % y := by
  rw [← Int.natCast_emod, BitVec.ofInt_natCast, ← BitVec.toNat_umod, BitVec.ofNat_toNat,
    BitVec.setWidth_eq]

theorem natCast_eq_zero (y : BitVec n) : (y.toNat : Int) = 0 ↔ y = 0 := by
  constructor
  · intro h
    exact BitVec.eq_of_toNat_eq (Int.ofNat.inj h)
  · rintro rfl
    rfl

theorem ofInt_divUnsigned (x y : BitVec n) :
    BitVec.ofInt n (if (y.toNat : Int) = 0 then -1 else x.toNat / y.toNat) =
      Execute.divUnsigned x y := by
  unfold Execute.divUnsigned
  by_cases hy : y = 0
  · rw [if_pos ((natCast_eq_zero y).mpr hy), if_pos hy, BitVec.ofInt_neg]
    rfl
  · rw [if_neg (mt (natCast_eq_zero y).mp hy), if_neg hy, ofInt_udiv]

theorem ofInt_remUnsigned (x y : BitVec n) :
    BitVec.ofInt n (if (y.toNat : Int) = 0 then x.toNat else x.toNat % y.toNat) =
      Execute.remUnsigned x y := by
  unfold Execute.remUnsigned
  by_cases hy : y = 0
  · rw [if_pos ((natCast_eq_zero y).mpr hy), if_pos hy, ofInt_toNat]
  · rw [if_neg (mt (natCast_eq_zero y).mp hy), if_neg hy, ofInt_umod]

end Division

end Riscvm.Lockstep
