import Mathlib.Data.BitVec

/-!
# Bits and fields of machine words

`bit i` is the word `1 << i`. Masks built from such words are described by what
they do to each bit of their argument, so that a sequence of mask operations is
compared bit by bit.
-/

namespace Riscvm.Bits

variable {w : Nat}

/-- `1 << i`. -/
def bit (i : Nat) : BitVec w := 1#w <<< i

theorem getLsbD_bit (i j : Nat) :
    (bit i : BitVec w).getLsbD j = (decide (j < w) && decide (j = i)) := by
  rw [bit, BitVec.getLsbD_shiftLeft]
  by_cases hj : j < w
  · by_cases h : j < i
    · simp [h, Nat.ne_of_lt h]
    · have hji : j - i = 0 ↔ j = i := by omega
      simp [hj, h, hji, Nat.zero_lt_of_lt hj]
  · simp [hj]

@[simp, grind =] theorem getElem_bit (i : Nat) {j : Nat} (h : j < w) :
    (bit i : BitVec w)[j] = decide (j = i) := by
  rw [← BitVec.getLsbD_eq_getElem, getLsbD_bit, decide_eq_true h, Bool.true_and]

theorem bit_eq_ofNat (i : Nat) : (bit i : BitVec w) = BitVec.ofNat w (2 ^ i) := by
  apply BitVec.eq_of_toNat_eq
  rw [bit, BitVec.toNat_shiftLeft, BitVec.toNat_ofNat, BitVec.toNat_ofNat, Nat.shiftLeft_eq,
    Nat.mod_mul_mod, Nat.one_mul]

/-- `(1 << n) - 1` is a mask of the low `n` bits. -/
theorem getElem_mask {n j : Nat} (hn : n ≤ w) (h : j < w) :
    (bit n - 1 : BitVec w)[j] = decide (j < n) := by
  have hmask : (bit n - 1 : BitVec w) = BitVec.ofNat w (2 ^ n - 1) := by
    apply BitVec.eq_of_toNat_eq
    have hpow : 2 ^ n ≤ 2 ^ w := Nat.pow_le_pow_right (by decide) hn
    have hpos : 0 < 2 ^ n := Nat.two_pow_pos n
    have hone : (1 : BitVec w).toNat = 1 % 2 ^ w := by simp
    have hsum : 2 ^ w - 1 + 2 ^ n = 2 ^ n - 1 + 2 ^ w := by omega
    rw [BitVec.toNat_sub, bit_eq_ofNat, BitVec.toNat_ofNat, BitVec.toNat_ofNat, hone,
      Nat.mod_eq_of_lt (Nat.one_lt_two_pow (by omega)), Nat.add_mod_mod, hsum, Nat.add_mod_right]
  rw [hmask, ← BitVec.getLsbD_eq_getElem, BitVec.getLsbD_ofNat, Nat.testBit_two_pow_sub_one]
  simp [h]

/-- The test `x & (1 << i) != 0` reads bit `i`. -/
theorem and_bit_ne_zero {x : BitVec w} {i : Nat} : x &&& bit i ≠ 0 ↔ x.getLsbD i = true := by
  constructor
  · intro h
    refine Decidable.byContradiction fun hx => h ?_
    ext j hj
    by_cases hji : j = i
    · subst hji
      rw [Bool.not_eq_true, BitVec.getLsbD_eq_getElem hj] at hx
      simp [hx]
    · simp [hji]
  · intro h hz
    have hi := BitVec.lt_of_getLsbD h
    have hbit := congrArg (fun y => BitVec.getLsbD y i) hz
    simp [BitVec.getLsbD_eq_getElem hi] at hbit h
    exact absurd h (by simp [hbit])

theorem and_bit_eq_zero {x : BitVec w} {i : Nat} : x &&& bit i = 0 ↔ x.getLsbD i = false := by
  rw [← Bool.not_eq_true, ← and_bit_ne_zero, Decidable.not_not]

/-- `(x & !(1 << i)) | if p { 1 << i } else { 0 }` stores `p` in bit `i`. -/
theorem getElem_setFlag (x : BitVec w) (i : Nat) {j : Nat} (p : Prop) [Decidable p] (h : j < w) :
    ((x &&& ~~~bit i) ||| (if p then bit i else 0))[j] = if j = i then decide p else x[j] := by
  by_cases hji : j = i <;> by_cases hp : p <;> simp [hji, hp]

/-- `x & !(1 << i)` clears bit `i`. -/
theorem getElem_clear (x : BitVec w) (i : Nat) {j : Nat} (h : j < w) :
    (x &&& ~~~bit i)[j] = (x[j] && decide (j ≠ i)) := by
  simp

/-- `x | (1 << i)` sets bit `i`. -/
theorem getElem_set (x : BitVec w) (i : Nat) {j : Nat} (h : j < w) :
    (x ||| bit i)[j] = (x[j] || decide (j = i)) := by
  simp

/-- `(x >> i) & 1 != 0` also reads bit `i`. -/
theorem ushiftRight_and_one_ne_zero {x : BitVec w} {i : Nat} :
    (x >>> i) &&& 1 ≠ 0 ↔ x.getLsbD i = true := by
  have h : (x >>> i) &&& bit 0 ≠ 0 ↔ (x >>> i).getLsbD 0 = true := and_bit_ne_zero
  rw [BitVec.getLsbD_ushiftRight, Nat.add_zero, bit, BitVec.shiftLeft_zero] at h
  exact h

/-- A word is what a mask keeps of it and what the mask removes. -/
theorem and_or_and_not (x mask : BitVec w) : (x &&& mask) ||| (x &&& ~~~mask) = x := by
  rw [← BitVec.and_or_distrib_left, BitVec.or_not_self, BitVec.and_allOnes]

theorem and_two_bits_ne_zero {x : BitVec w} {i j : Nat} :
    x &&& (bit i ||| bit j) ≠ 0 ↔ x.getLsbD i = true ∨ x.getLsbD j = true := by
  rw [BitVec.and_or_distrib_left, ← and_bit_ne_zero, ← and_bit_ne_zero]
  exact (not_congr BitVec.or_eq_zero_iff).trans not_and_or

/-- Words that share no bit are added by `|`. -/
theorem toNat_or_of_low {x y : BitVec w} {n : Nat} (hx : x.toNat % 2 ^ n = 0)
    (hy : y.toNat < 2 ^ n) : (x ||| y).toNat = x.toNat + y.toNat := by
  have hshift : x.toNat = (x.toNat / 2 ^ n) <<< n := by
    rw [Nat.shiftLeft_eq, Nat.div_mul_cancel (Nat.dvd_of_mod_eq_zero hx)]
  rw [BitVec.toNat_or, hshift, Nat.shiftLeft_add_eq_or_of_lt hy]

/-- A field that is zero-extended first has no sign. -/
theorem signExtend_setWidth_of_lt {n k v : Nat} (x : BitVec n) (h : n < k) :
    (x.setWidth k).signExtend v = x.setWidth v := by
  have hmsb : (x.setWidth k).msb = false := by
    rw [BitVec.msb_setWidth, BitVec.getLsbD_of_ge x (k - 1) (by omega), Bool.and_false]
  apply BitVec.eq_of_getLsbD_eq
  intro j hj
  rw [BitVec.getLsbD_signExtend, hmsb]
  simp only [BitVec.getLsbD_setWidth]
  by_cases hjk : j < k
  · simp [hj, hjk]
  · simp [hjk, BitVec.getLsbD_of_ge x j (by omega)]

/-- Zero extension in two steps. -/
theorem setWidth_setWidth_of_ge {n k v : Nat} (x : BitVec n) (h : n ≤ k) :
    (x.setWidth k).setWidth v = x.setWidth v := by
  apply BitVec.eq_of_getLsbD_eq
  intro j hj
  simp only [BitVec.getLsbD_setWidth]
  by_cases hjk : j < k
  · simp [hjk]
  · simp [BitVec.getLsbD_of_ge x j (by omega)]

theorem setWidth_eq_zero {n k : Nat} (x : BitVec n) (h : n ≤ k) : x.setWidth k = 0 ↔ x = 0 := by
  constructor
  · intro hx
    have hback := congrArg (BitVec.setWidth n) hx
    rw [BitVec.setWidth_setWidth_of_le _ h, BitVec.setWidth_eq] at hback
    simpa using hback
  · rintro rfl
    simp

/-- Cutting a sign extension back gives the value that was extended. -/
theorem setWidth_signExtend_self {n k : Nat} (x : BitVec n) (h : n ≤ k) :
    (x.signExtend k).setWidth n = x := by
  apply BitVec.eq_of_getLsbD_eq
  intro j hj
  have hjk : j < k := by omega
  simp only [BitVec.getLsbD_setWidth, BitVec.getLsbD_signExtend, hj, hjk, decide_true,
    Bool.true_and, if_true]

theorem signExtend_eq_zero {n k : Nat} (x : BitVec n) (h : n ≤ k) :
    x.signExtend k = 0 ↔ x = 0 := by
  constructor
  · intro hx
    have hback := congrArg (BitVec.setWidth n) hx
    rw [setWidth_signExtend_self x h] at hback
    simpa using hback
  · rintro rfl
    apply BitVec.eq_of_getLsbD_eq
    intro j hj
    simp [BitVec.getLsbD_signExtend]

/-- Extending in two steps. -/
theorem signExtend_signExtend {n k v : Nat} (x : BitVec n) (h : n ≤ k) :
    (x.signExtend k).signExtend v = x.signExtend v := by
  apply BitVec.eq_of_getLsbD_eq
  intro j hj
  simp only [BitVec.getLsbD_signExtend, BitVec.msb_eq_getLsbD_last]
  grind

/-- Extending the upper part of a concatenation first. -/
theorem signExtend_signExtend_append {n k m v : Nat} (x : BitVec n) (y : BitVec m) (hn : 0 < n)
    (h : n ≤ k) : (x.signExtend k ++ y).signExtend v = (x ++ y).signExtend v := by
  apply BitVec.eq_of_getLsbD_eq
  intro j hj
  simp only [BitVec.getLsbD_signExtend, BitVec.getLsbD_append, BitVec.msb_eq_getLsbD_last]
  grind

theorem natAbs_toInt_le (a : BitVec 64) : a.toInt.natAbs ≤ 2 ^ 63 := by
  have hlower := BitVec.le_toInt a
  have hupper := BitVec.toInt_lt (x := a)
  omega

end Riscvm.Bits
