import Mathlib.Data.BitVec

/-!
# Little-endian byte strings

`leNat` reads a list of bytes as a number, least significant byte first, and
`leBytes n` writes the low `n` bytes of a number. They are inverse up to
reduction modulo `256 ^ n`, and byte `i` of the number is byte `i` of the list.
-/

namespace Riscvm.Bytes

/-- `Σ bᵢ · 256ⁱ`. -/
def leNat : List (BitVec 8) → Nat
  | [] => 0
  | b :: bs => b.toNat + 256 * leNat bs

/-- The low `n` bytes of `v`, least significant first. -/
def leBytes : Nat → Nat → List (BitVec 8)
  | 0, _ => []
  | n + 1, v => BitVec.ofNat 8 v :: leBytes n (v / 256)

@[simp] theorem leNat_nil : leNat [] = 0 := rfl

@[simp] theorem leNat_cons (b : BitVec 8) (bs : List (BitVec 8)) :
    leNat (b :: bs) = b.toNat + 256 * leNat bs := rfl

@[simp] theorem leBytes_length (n v : Nat) : (leBytes n v).length = n := by
  induction n generalizing v with
  | zero => rfl
  | succ n ih => simp [leBytes, ih]

theorem leNat_lt (bs : List (BitVec 8)) : leNat bs < 256 ^ bs.length := by
  induction bs with
  | nil => simp
  | cons b bs ih =>
      have hb := b.isLt
      rw [leNat_cons, List.length_cons, Nat.pow_succ]
      omega

theorem leNat_leBytes (n v : Nat) : leNat (leBytes n v) = v % 256 ^ n := by
  induction n generalizing v with
  | zero => simp [leBytes, Nat.mod_one]
  | succ n ih =>
      rw [leBytes, leNat_cons, ih, Nat.pow_succ, Nat.mul_comm (256 ^ n) 256, Nat.mod_mul]
      simp

theorem leBytes_leNat (bs : List (BitVec 8)) : leBytes bs.length (leNat bs) = bs := by
  induction bs with
  | nil => rfl
  | cons b bs ih =>
      have hb := b.isLt
      have hdiv : (b.toNat + 256 * leNat bs) / 256 = leNat bs := by omega
      have hlow : BitVec.ofNat 8 (b.toNat + 256 * leNat bs) = b := by
        apply BitVec.eq_of_toNat_eq
        rw [BitVec.toNat_ofNat]
        omega
      rw [leNat_cons, List.length_cons, leBytes, hdiv, hlow, ih]

/-- Only the low `n` bytes of a number are written. -/
theorem leBytes_mod (n v : Nat) : leBytes n (v % 256 ^ n) = leBytes n v := by
  have h := leBytes_leNat (leBytes n v)
  rwa [leBytes_length, leNat_leBytes] at h

theorem leNat_injective {xs ys : List (BitVec 8)} (length : xs.length = ys.length)
    (h : leNat xs = leNat ys) : xs = ys := by
  rw [← leBytes_leNat xs, ← leBytes_leNat ys, length, h]

/-- Byte `i` of the written string is byte `i` of the number. -/
theorem getElem?_leBytes {n v i : Nat} (h : i < n) :
    (leBytes n v)[i]? = some (BitVec.ofNat 8 (v / 256 ^ i)) := by
  induction n generalizing v i with
  | zero => omega
  | succ n ih =>
      cases i with
      | zero => simp [leBytes]
      | succ i =>
          rw [leBytes, List.getElem?_cons_succ, ih (by omega), Nat.div_div_eq_div_mul,
            Nat.pow_succ, Nat.mul_comm 256]

/-- Byte `i` of the number is byte `i` of the string. -/
theorem ofNat_leNat_div {bs : List (BitVec 8)} {i : Nat} {b : BitVec 8} (h : bs[i]? = some b) :
    BitVec.ofNat 8 (leNat bs / 256 ^ i) = b := by
  have hi : i < bs.length := (List.getElem?_eq_some_iff.mp h).1
  have hbyte := getElem?_leBytes (v := leNat bs) hi
  rw [leBytes_leNat, h] at hbyte
  exact (Option.some.inj hbyte).symm

section Splice

variable {α : Type} {xs ys : List α} {a : Nat}

/-- `xs` with the items from `a` on replaced by `ys`. -/
def splice (xs : List α) (a : Nat) (ys : List α) : List α :=
  xs.take a ++ ys ++ xs.drop (a + ys.length)

theorem length_splice (h : a + ys.length ≤ xs.length) : (splice xs a ys).length = xs.length := by
  simp only [splice, List.length_append, List.length_take, List.length_drop]
  omega

theorem getElem?_splice (h : a + ys.length ≤ xs.length) (k : Nat) :
    (splice xs a ys)[k]? = if a ≤ k ∧ k < a + ys.length then ys[k - a]? else xs[k]? := by
  have htake : (xs.take a).length = a := by
    rw [List.length_take]
    omega
  rw [splice, List.append_assoc]
  rcases Nat.lt_or_ge k a with hlow | hlow
  · rw [List.getElem?_append_left (by omega), List.getElem?_take_of_lt hlow, if_neg (by omega)]
  · rw [List.getElem?_append_right (by omega), htake]
    rcases Nat.lt_or_ge k (a + ys.length) with hin | hout
    · rw [List.getElem?_append_left (by omega), if_pos ⟨hlow, hin⟩]
    · rw [List.getElem?_append_right (by omega), List.getElem?_drop, if_neg (by omega)]
      congr 1
      omega

/-- Two adjacent replacements are one. -/
theorem splice_splice {zs : List α} (h : a + ys.length + zs.length ≤ xs.length) :
    splice (splice xs a ys) (a + ys.length) zs = splice xs a (ys ++ zs) := by
  have hfirst := @length_splice α xs ys a (by omega)
  apply List.ext_getElem?
  intro i
  rw [getElem?_splice (by omega), getElem?_splice (by omega),
    getElem?_splice (by rw [List.length_append]; omega), List.length_append]
  rcases Nat.lt_or_ge i a with hlow | hlow
  · rw [if_neg (by omega), if_neg (by omega), if_neg (by omega)]
  rcases Nat.lt_or_ge i (a + ys.length) with hmid | hmid
  · rw [if_neg (by omega), if_pos ⟨hlow, hmid⟩, if_pos ⟨hlow, by omega⟩,
      List.getElem?_append_left (by omega)]
  rcases Nat.lt_or_ge i (a + ys.length + zs.length) with hhigh | hhigh
  · rw [if_pos ⟨hmid, hhigh⟩, if_pos ⟨hlow, by omega⟩, List.getElem?_append_right (by omega)]
    congr 1
    omega
  · rw [if_neg (by omega), if_neg (by omega), if_neg (by omega)]

/-- The `n` items from `a` on. -/
def extract (xs : List α) (a n : Nat) : List α := (xs.drop a).take n

theorem length_extract {n : Nat} (h : a + n ≤ xs.length) : (extract xs a n).length = n := by
  simp only [extract, List.length_take, List.length_drop]
  omega

theorem getElem?_extract {n i : Nat} (h : i < n) : (extract xs a n)[i]? = xs[a + i]? := by
  rw [extract, List.getElem?_take_of_lt h, List.getElem?_drop]

end Splice

/-- Byte `i` of a word, the least significant byte being byte 0. -/
def byteOf {w : Nat} (v : BitVec w) (i : Nat) : BitVec 8 := BitVec.ofNat 8 (v.toNat / 256 ^ i)

theorem byteOf_ofNat_leNat {w : Nat} {bs : List (BitVec 8)} (h : 8 * bs.length ≤ w) {i : Nat}
    {b : BitVec 8} (hb : bs[i]? = some b) : byteOf (BitVec.ofNat w (leNat bs)) i = b := by
  have hlt : leNat bs < 2 ^ w := by
    calc leNat bs < 256 ^ bs.length := leNat_lt bs
      _ = 2 ^ (8 * bs.length) := by rw [Nat.pow_mul]
      _ ≤ 2 ^ w := Nat.pow_le_pow_right (by decide) h
  rw [byteOf, BitVec.toNat_ofNat, Nat.mod_eq_of_lt hlt, ofNat_leNat_div hb]

theorem getElem?_leBytes_toNat {w n i : Nat} (v : BitVec w) (h : i < n) :
    (leBytes n v.toNat)[i]? = some (byteOf v i) :=
  getElem?_leBytes h

end Riscvm.Bytes
