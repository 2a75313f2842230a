import Mathlib.Data.Int.Bitwise
import Riscvm.Foundation.TwosComplement
import Riscvm.Python.Basic

/-!
# Integer converters and table lookup

`utils.py`. Python's integers are unbounded, so masking and sign conversion are explicit in
the source; `u n` and `i n` are its `u8 .. u64` and `i(n)`.
-/

namespace Riscvm.Python

/-- `value & ((1 << n) - 1)`. -/
def u (n : Nat) (value : Int) : Int := value % 2 ^ n

/-- `i(n)`: the low `n` bits read as a signed number. -/
def i (n : Nat) (value : Int) : Int :=
  let npower : Int := 2 ^ (n - 1)
  let positive := value % npower
  if value / npower % 2 ≠ 0 then positive - npower else positive

/-- `value >> pos & ((1 << nbits) - 1)`; instruction words are not negative. -/
def sectionOf (value pos nbits : Nat) : Nat := value / 2 ^ pos % 2 ^ nbits

/-- `i(n)` reads the low bits in two's complement. -/
theorem i_eq_toInt (v : Int) {n : Nat} (h : 0 < n) : i n v = (BitVec.ofInt n v).toInt := by
  obtain ⟨k, rfl⟩ : ∃ k, n = k + 1 := ⟨n - 1, by omega⟩
  have hpos : (0 : Int) < 2 ^ k := Int.pow_pos (by decide)
  have hcast : ((2 ^ (k + 1) : Nat) : Int) = 2 * 2 ^ k := by
    rw [Int.natCast_pow]
    exact Int.pow_succ' 2 k
  rw [BitVec.toInt_ofInt, Int.bmod_def, hcast, i, Nat.add_sub_cancel]
  generalize (2 : Int) ^ k = p at hpos
  have hlow := Int.emod_nonneg v (Int.ne_of_gt hpos)
  have hhigh := Int.emod_lt_of_pos v hpos
  have hv := Int.mul_ediv_add_emod v p
  have hquot := Int.mul_ediv_add_emod (v / p) 2
  -- the bit above the low ones is the parity of the quotient
  have hmod : v % (2 * p) = p * (v / p % 2) + v % p := by
    have hsplit : v = p * (v / p % 2) + v % p + 2 * p * (v / p / 2) := by
      rw [← hquot, Int.mul_add] at hv
      have hassoc : p * (2 * (v / p / 2)) = 2 * p * (v / p / 2) := by
        rw [Int.mul_comm 2 p, Int.mul_assoc]
      omega
    have hsmall : (p * (v / p % 2) + v % p + 2 * p * (v / p / 2)) % (2 * p) =
        p * (v / p % 2) + v % p := by
      rw [Int.add_mul_emod_self_left]
      rcases Int.emod_two_eq (v / p) with hbit | hbit <;> rw [hbit] <;>
        exact Int.emod_eq_of_lt (by omega) (by omega)
    rwa [← hsplit] at hsmall
  rw [hmod]
  rcases Int.emod_two_eq (v / p) with hbit | hbit
  · rw [hbit, if_neg (not_not_intro rfl), if_pos (by omega), Int.mul_zero, Int.zero_add]
  · rw [hbit, if_pos (by decide), if_neg (by omega)]
    omega

/-- A field of an instruction word. -/
theorem sectionOf_toNat {w : Nat} (x : BitVec w) (pos n : Nat) :
    sectionOf x.toNat pos n = (x.extractLsb' pos n).toNat := by
  rw [BitVec.extractLsb'_toNat, Nat.shiftRight_eq_div_pow, sectionOf]

theorem testBit_flag (k i : Nat) : Int.testBit ((2 ^ k : Nat) : Int) i = decide (k = i) :=
  Nat.testBit_two_pow

theorem land_flag (x : Int) (k : Nat) :
    Int.land x ((2 ^ k : Nat) : Int) = if Int.testBit x k then ((2 ^ k : Nat) : Int) else 0 := by
  have hand (n m : Nat) (h : ∀ i, n.testBit i = (decide (k = i) && Int.testBit x k)) (hm : m = n) :
      (m : Int) = if Int.testBit x k then ((2 ^ k : Nat) : Int) else 0 := by
    rw [hm]
    cases hx : Int.testBit x k with
    | false =>
        refine congrArg Int.ofNat (Nat.eq_of_testBit_eq fun i => ?_)
        rw [h, hx, Bool.and_false, Nat.zero_testBit]
    | true =>
        refine congrArg Int.ofNat (Nat.eq_of_testBit_eq fun i => ?_)
        rw [h, hx, Bool.and_true, Nat.testBit_two_pow]
  have hbits (i : Nat) : Int.testBit (Int.land x ((2 ^ k : Nat) : Int)) i =
      (decide (k = i) && Int.testBit x k) := by
    rw [Int.testBit_land, testBit_flag]
    by_cases hi : k = i
    · rw [hi, decide_eq_true rfl, Bool.and_true, Bool.true_and]
    · rw [decide_eq_false hi, Bool.and_false, Bool.false_and]
  cases x with
  | ofNat n => exact hand _ _ hbits rfl
  | negSucc n => exact hand _ _ hbits rfl

/-- Division truncated toward zero. -/
def truncDiv (a b : Int) : Int :=
  let q : Int := ((a.natAbs / b.natAbs : Nat) : Int)
  if (a < 0) ≠ (b < 0) then -q else q

def truncRem (a b : Int) : Int := a - truncDiv a b * b

/-- A level of the mnemonic tables: a mnemonic, a function of the word, or a dictionary. A
function that names a member its enumeration lacks gives `none`. -/
inductive Table (μ : Type) where
  | leaf (mnemonic : μ)
  | choose (f : Nat → Option μ)
  | dict (entries : List (Nat × Table μ))

/-- `lookup_mnemonic`, with the word, the default, the matchers and the dictionary; `none` is an
`AttributeError`. -/
def lookupMnemonic {μ : Type} (value : Nat) (default : μ) :
    (matcher : List (Nat → Nat)) → (mnemonics : List (Nat × Table μ)) → Option μ
  | [], _ => some default
  | level :: levels, mnemonics =>
      match mnemonics.lookup (level value) with
      | none => some default
      | some (.leaf mnemonic) => some mnemonic
      | some (.choose f) => f value
      | some (.dict entries) => lookupMnemonic value default levels entries

/-- The member of an enumeration that a name stands for. -/
def getattr {σ μ : Type} (member : Option μ) : Call σ μ :=
  match member with
  | some mnemonic => return mnemonic
  | none => throw .attributeError

end Riscvm.Python
