import Mathlib.Data.BitVec
import Mathlib.Data.Int.Bitwise

/-!
# Words as residues of integers

`BitVec.ofInt w` keeps the low `w` bits of an integer in two's complement. It carries the
operations on unbounded integers to those on words, so that a computation which masks only its
result agrees with one on words throughout.
-/

namespace Riscvm.TwosComplement

variable {w : Nat}

/-- Bit `i` of the word is bit `i` of the integer. -/
theorem getLsbD_ofInt (n : Int) {i : Nat} (h : i < w) :
    (BitVec.ofInt w n).getLsbD i = Int.testBit n i := by
  cases n with
  | ofNat n =>
      change (BitVec.ofInt w (n : Int)).getLsbD i = _
      rw [BitVec.ofInt_natCast, BitVec.getLsbD_ofNat, decide_eq_true h, Bool.true_and]
      rfl
  | negSucc n =>
      rw [BitVec.ofInt_negSucc_eq_not_ofNat, BitVec.getLsbD_not, BitVec.getLsbD_ofNat,
        decide_eq_true h, Bool.true_and, Bool.true_and]
      rfl

@[simp] theorem ofInt_toNat (x : BitVec w) : BitVec.ofInt w (x.toNat : Int) = x := by
  rw [BitVec.ofInt_natCast, BitVec.ofNat_toNat, BitVec.setWidth_eq]

theorem ofInt_land (a b : Int) :
    BitVec.ofInt w (Int.land a b) = BitVec.ofInt w a &&& BitVec.ofInt w b := by
  apply BitVec.eq_of_getLsbD_eq
  intro i hi
  rw [BitVec.getLsbD_and, getLsbD_ofInt _ hi, getLsbD_ofInt _ hi, getLsbD_ofInt _ hi,
    Int.testBit_land]

theorem ofInt_lor (a b : Int) :
    BitVec.ofInt w (Int.lor a b) = BitVec.ofInt w a ||| BitVec.ofInt w b := by
  apply BitVec.eq_of_getLsbD_eq
  intro i hi
  rw [BitVec.getLsbD_or, getLsbD_ofInt _ hi, getLsbD_ofInt _ hi, getLsbD_ofInt _ hi,
    Int.testBit_lor]

theorem ofInt_xor (a b : Int) :
    BitVec.ofInt w (Int.xor a b) = BitVec.ofInt w a ^^^ BitVec.ofInt w b := by
  apply BitVec.eq_of_getLsbD_eq
  intro i hi
  rw [BitVec.getLsbD_xor, getLsbD_ofInt _ hi, getLsbD_ofInt _ hi, getLsbD_ofInt _ hi,
    Int.testBit_lxor]

theorem ofInt_sub (a b : Int) : BitVec.ofInt w (a - b) = BitVec.ofInt w a - BitVec.ofInt w b := by
  rw [Int.sub_eq_add_neg, BitVec.ofInt_add, BitVec.ofInt_neg, BitVec.sub_eq_add_neg]

/-- Shifting left is multiplication. -/
theorem ofInt_shiftLeft (a : Int) (s : Nat) :
    BitVec.ofInt w (a * 2 ^ s) = BitVec.ofInt w a <<< s := by
  have hpow : BitVec.ofInt w (2 ^ s) = BitVec.ofNat w (2 ^ s) := by
    rw [← BitVec.ofInt_natCast]
    exact congrArg (BitVec.ofInt w) (Int.natCast_pow 2 s).symm
  have htwo : BitVec.ofNat w (2 ^ s) = BitVec.twoPow w s := by
    apply BitVec.eq_of_toNat_eq
    rw [BitVec.toNat_ofNat, BitVec.toNat_twoPow]
  rw [BitVec.ofInt_mul, hpow, htwo, BitVec.shiftLeft_eq_mul_twoPow]

/-- The low bits of a word determine those of a shorter one. -/
theorem setWidth_ofInt {v : Nat} (n : Int) (h : v ≤ w) :
    (BitVec.ofInt w n).setWidth v = BitVec.ofInt v n := by
  apply BitVec.eq_of_getLsbD_eq
  intro i hi
  rw [BitVec.getLsbD_setWidth, decide_eq_true hi, Bool.true_and, getLsbD_ofInt _ (by omega),
    getLsbD_ofInt _ hi]

end Riscvm.TwosComplement
