import Riscvm.Foundation.Bits
import Riscvm.Foundation.Exec

/-!
# Machine words, faults and checked operators

Rust's fixed-width integers are bit vectors. A call of the crate ends in a value,
in an `EmuError`, or in a panic; the last two are one fault type, so that
"returns `Ok` or `Err`" is a statement about the model and not an assumption.

`error.rs` carries a formatted string. Here an error is its constructor and the
interpolated values, and `EmuError.message` renders the text of the source.
-/

namespace Riscvm.Rv64rs

abbrev U8 := BitVec 8
abbrev U16 := BitVec 16
abbrev U32 := BitVec 32
abbrev U64 := BitVec 64

/-- What the source leaves to the build and to the host: cargo's `dev` profile
checks arithmetic and shift amounts while `release` wraps, and a `Vec` can grow
only as far as the allocator allows. -/
class Host where
  overflowChecks : Bool
  memory : Nat

/-- A `dev` build on a host with 4 GiB. -/
@[reducible] def Host.dev : Host := ⟨true, 2 ^ 32⟩

/-- The ways a Rust call can panic. -/
inductive Panic where
  | overflow
  | indexOutOfBounds
  | unwrapNone
  | alreadyBorrowed
  | capacityOverflow
  | outOfMemory
  | outOfFuel
  deriving DecidableEq, Repr

/-- Every error the crate constructs, with the values its text interpolates. -/
inductive EmuError where
  | invalidRange (start size : U64)
  | overflowRange (start size : U64)
  | cannotFit (start size : U64) (ranges : List (U64 × U64))
  | noDevice
  | noDeviceCovers (start stop : U64)
  | invalidAddressSize (address : U64)
  | clintReadSize (size : U8)
  | clintWriteSize (size : U8)
  | uartReadSize (size : U8)
  | uartWriteSize (size : U8)
  | uartIllegalWrite
  | uartUnhandledFlags
  | plicSize (size : U8)
  | virtioReadSize (size : U8) (address : U64)
  | virtioWriteSize (size : U8) (address : U64)
  | unsupportedMode (mode : U64)
  | cachedPermission (va perm : U64)
  | walkExhausted (va : U64)
  | invalidPte (va : U64) (level : Nat) (pte address : U64)
  | reservedPte (va : U64)
  | permission (va pte : U64)
  | misalignedSuperpage (va : U64)
  | illegalInstruction (opcode word : U32) (pc : U64)
  | illegalCInstruction (word : U16) (pc : U64)
  | zeroImmediate
  | noHart
  | tooManyHarts (ncpu maxNcpu : U64) (contexts : Nat)
  deriving DecidableEq, Repr

/-- A number in the lower-case hexadecimal of `{:x}`. -/
def hex (n : Nat) : String := String.ofList (Nat.toDigits 16 n)

/-- `{:0wx}`: hexadecimal padded with zeros to `width` digits. -/
def hexPad (width n : Nat) : String :=
  let digits := Nat.toDigits 16 n
  String.ofList (List.replicate (width - digits.length) '0' ++ digits)

/-- The text of `EmuError.0`. -/
def EmuError.message : EmuError → String
  | .invalidRange start size => s!"invalid range ({start.toNat}, {size.toNat})"
  | .overflowRange start size => s!"overflow range ({start.toNat}, {size.toNat})"
  | .cannotFit start size ranges =>
      let held := String.join (ranges.map fun r => s!"[{hex r.1.toNat} - {hex r.2.toNat})")
      s!"range ({start.toNat}, {size.toNat}) cannot fit in {held}"
  | .noDevice => "no device mapped to this address range"
  | .noDeviceCovers start stop =>
      s!"no device mapped to cover (0x{hex start.toNat}, 0x{hex stop.toNat})"
  | .invalidAddressSize address => s!"invalid address size {address.toNat}"
  | .clintReadSize size => s!"clint reads are 8 bytes, got {size.toNat}"
  | .clintWriteSize size => s!"clint writes are 8 bytes, got {size.toNat}"
  | .uartReadSize size => s!"uart reads are 1 byte, got {size.toNat}"
  | .uartWriteSize size => s!"uart writes are 1 byte, got {size.toNat}"
  | .uartIllegalWrite => "uart register illegal write"
  | .uartUnhandledFlags => "uart IER: unhandled flag bits"
  | .plicSize size => s!"plic accesses are 4 bytes, got {size.toNat}"
  | .virtioReadSize size address =>
      s!"virtio-mmio register reads must be 4 bytes, got {size.toNat} @0x{hex address.toNat}"
  | .virtioWriteSize size address =>
      s!"virtio-mmio register writes must be 4 bytes, got {size.toNat} @0x{hex address.toNat}"
  | .unsupportedMode mode =>
      s!"unsupported satp MODE {mode.toNat} (only Bare and Sv39 are implemented)"
  | .cachedPermission va perm =>
      s!"page fault: permission denied translating VA 0x{hex va.toNat} " ++
        s!"(cached pte perm 0x{hex perm.toNat})"
  | .walkExhausted va =>
      s!"page fault: page table walk exhausted translating VA 0x{hex va.toNat}"
  | .invalidPte va level pte address =>
      s!"page fault: invalid PTE translating VA 0x{hex va.toNat} " ++
        s!"(level {level}, pte 0x{hex pte.toNat} @0x{hex address.toNat})"
  | .reservedPte va =>
      "page fault: reserved PTE encoding (W without R/X) translating VA " ++
        s!"0x{hex va.toNat}"
  | .permission va pte =>
      s!"page fault: permission denied translating VA 0x{hex va.toNat} (pte 0x{hex pte.toNat})"
  | .misalignedSuperpage va =>
      s!"page fault: misaligned superpage translating VA 0x{hex va.toNat}"
  | .illegalInstruction opcode word pc =>
      s!"not implemented at this stage: opcode=0x{hexPad 2 opcode.toNat} " ++
        s!"word=0x{hexPad 8 word.toNat} @0x{hex pc.toNat}"
  | .illegalCInstruction word pc =>
      s!"not implemented at this stage: compressed word=0x{hexPad 4 word.toNat} @0x{hex pc.toNat}"
  | .zeroImmediate => "unexpected zero immediate value"
  | .noHart => "ncpu must be at least 1"
  | .tooManyHarts ncpu maxNcpu contexts =>
      s!"ncpu {ncpu.toNat} exceeds the {maxNcpu.toNat} harts this Plic's {contexts} contexts " ++
        "can address (context = 2*hartid+1)"

/-- How a call can fail to return a value. -/
inductive Fault where
  | err (error : EmuError)
  | panic (cause : Panic)
  deriving DecidableEq, Repr

/-- A call with `&mut σ` returning `Result<α, EmuError>`. -/
abbrev Call (σ α : Type) := EStateM Fault σ α

/-- `error(message)` of `error.rs`. -/
def error {σ α : Type} (e : EmuError) : Call σ α := throw (.err e)

def panic {σ α : Type} (p : Panic) : Call σ α := throw (.panic p)

@[simp] theorem error_apply {σ α : Type} (e : EmuError) (s : σ) :
    (error e : Call σ α) s = .error (.err e) s := rfl

@[simp] theorem panic_apply {σ α : Type} (p : Panic) (s : σ) :
    (panic p : Call σ α) s = .error (.panic p) s := rfl

theorem readOnly_error {σ α : Type} (e : EmuError) : Exec.ReadOnly (error e : Call σ α) :=
  Exec.ReadOnly.throw _

theorem readOnly_panic {σ α : Type} (p : Panic) : Exec.ReadOnly (panic p : Call σ α) :=
  Exec.ReadOnly.throw _

section Operators

variable [Host] {σ : Type} {w : Nat}

/-- `a + b` on an unsigned type. -/
def add (a b : BitVec w) : Call σ (BitVec w) :=
  if Host.overflowChecks && decide (2 ^ w ≤ a.toNat + b.toNat) then panic .overflow
  else pure (a + b)

/-- `a - b` on an unsigned type. -/
def sub (a b : BitVec w) : Call σ (BitVec w) :=
  if Host.overflowChecks && decide (a.toNat < b.toNat) then panic .overflow
  else pure (a - b)

/-- `a * b` on an unsigned type. -/
def mul (a b : BitVec w) : Call σ (BitVec w) :=
  if Host.overflowChecks && decide (2 ^ w ≤ a.toNat * b.toNat) then panic .overflow
  else pure (a * b)

/-- `a << n`; an unchecked build masks the shift amount. -/
def shl (a : BitVec w) (n : Nat) : Call σ (BitVec w) :=
  if Host.overflowChecks && decide (w ≤ n) then panic .overflow
  else pure (a <<< (n % w))

/-- `a >> n` on an unsigned type; an unchecked build masks the shift amount. -/
def shr (a : BitVec w) (n : Nat) : Call σ (BitVec w) :=
  if Host.overflowChecks && decide (w ≤ n) then panic .overflow
  else pure (a >>> (n % w))

theorem add_of_lt {a b : BitVec w} (h : a.toNat + b.toNat < 2 ^ w) :
    (add a b : Call σ (BitVec w)) = pure (a + b) := by
  simp [add, Nat.not_le.mpr h]

theorem add_eq_ok {a b c : BitVec w} {s t : σ} (h : (add a b : Call σ (BitVec w)) s = .ok c t) :
    c = a + b := by
  unfold add at h
  split at h <;> cases h
  rfl

theorem sub_eq_ok {a b c : BitVec w} {s t : σ} (h : (sub a b : Call σ (BitVec w)) s = .ok c t) :
    c = a - b := by
  unfold sub at h
  split at h <;> cases h
  rfl

theorem sub_of_le {a b : BitVec w} (h : b.toNat ≤ a.toNat) :
    (sub a b : Call σ (BitVec w)) = pure (a - b) := by
  simp [sub, Nat.not_lt.mpr h]

theorem mul_of_lt {a b : BitVec w} (h : a.toNat * b.toNat < 2 ^ w) :
    (mul a b : Call σ (BitVec w)) = pure (a * b) := by
  simp [mul, Nat.not_le.mpr h]

theorem shl_of_lt {a : BitVec w} {n : Nat} (h : n < w) :
    (shl a n : Call σ (BitVec w)) = pure (a <<< n) := by
  simp [shl, Nat.not_le.mpr h, Nat.mod_eq_of_lt h]

theorem shr_of_lt {a : BitVec w} {n : Nat} (h : n < w) :
    (shr a n : Call σ (BitVec w)) = pure (a >>> n) := by
  simp [shr, Nat.not_le.mpr h, Nat.mod_eq_of_lt h]

theorem readOnly_add (a b : BitVec w) : Exec.ReadOnly (add a b : Call σ (BitVec w)) :=
  (readOnly_panic _).ite (.pure _)

theorem readOnly_sub (a b : BitVec w) : Exec.ReadOnly (sub a b : Call σ (BitVec w)) :=
  (readOnly_panic _).ite (.pure _)

theorem readOnly_mul (a b : BitVec w) : Exec.ReadOnly (mul a b : Call σ (BitVec w)) :=
  (readOnly_panic _).ite (.pure _)

theorem readOnly_shl (a : BitVec w) (n : Nat) : Exec.ReadOnly (shl a n : Call σ (BitVec w)) :=
  (readOnly_panic _).ite (.pure _)

theorem readOnly_shr (a : BitVec w) (n : Nat) : Exec.ReadOnly (shr a n : Call σ (BitVec w)) :=
  (readOnly_panic _).ite (.pure _)

end Operators

/-- `checked_add`. -/
def checkedAdd (a b : U64) : Option U64 :=
  if a.toNat + b.toNat < 2 ^ 64 then some (a + b) else none

section Slices

variable {σ α : Type}

/-- `xs[i]`. -/
def index (xs : List α) (i : Nat) : Call σ α :=
  match xs[i]? with
  | some x => pure x
  | none => panic .indexOutOfBounds

/-- `xs[a..b]`. -/
def slice (xs : List α) (a b : Nat) : Call σ (List α) :=
  if a ≤ b ∧ b ≤ xs.length then pure ((xs.drop a).take (b - a)) else panic .indexOutOfBounds

/-- The vector after `xs[a..b].copy_from_slice(ys)`. -/
def copyFromSlice (xs : List α) (a b : Nat) (ys : List α) : Call σ (List α) :=
  if a ≤ b ∧ b ≤ xs.length ∧ ys.length = b - a then pure (xs.take a ++ ys ++ xs.drop b)
  else panic .indexOutOfBounds

/-- Obtain room for `n` bytes, as `vec!`, `resize` and `to_vec` do. -/
def allocate [Host] (n : Nat) : Call σ Unit :=
  if 2 ^ 63 ≤ n then panic .capacityOverflow
  else if Host.memory < n then panic .outOfMemory
  else pure ()

theorem readOnly_index (xs : List α) (i : Nat) : Exec.ReadOnly (index xs i : Call σ α) := by
  unfold index
  cases xs[i]? with
  | some x => exact .pure x
  | none => exact readOnly_panic _

theorem readOnly_slice (xs : List α) (a b : Nat) :
    Exec.ReadOnly (slice xs a b : Call σ (List α)) :=
  (Exec.ReadOnly.pure _).ite (readOnly_panic _)

theorem index_of_lt {xs : List α} {i : Nat} (h : i < xs.length) :
    (index xs i : Call σ α) = pure xs[i] := by
  simp [index, List.getElem?_eq_getElem h]

theorem slice_of_le {xs : List α} {a b : Nat} (hab : a ≤ b) (hb : b ≤ xs.length) :
    (slice xs a b : Call σ (List α)) = pure ((xs.drop a).take (b - a)) := by
  simp [slice, hab, hb]

theorem copyFromSlice_of_le {xs ys : List α} {a b : Nat} (hb : b ≤ xs.length)
    (length : a + ys.length = b) :
    (copyFromSlice xs a b ys : Call σ (List α)) = pure (xs.take a ++ ys ++ xs.drop b) := by
  subst length
  simp [copyFromSlice, hb]

theorem allocate_of_le [Host] {n : Nat} (h : n < 2 ^ 63) (hm : n ≤ Host.memory) :
    (allocate n : Call σ Unit) = pure () := by
  rw [allocate, if_neg (Nat.not_le.mpr h), if_neg (Nat.not_lt.mpr hm)]

theorem allocate_eq_ok [Host] {n : Nat} {u : Unit} {s t : σ} :
    (allocate n : Call σ Unit) s = .ok u t ↔ n < 2 ^ 63 ∧ n ≤ Host.memory ∧ t = s := by
  unfold allocate
  by_cases hn : 2 ^ 63 ≤ n
  · rw [if_pos hn]
    exact ⟨fun h => (nomatch h), fun h => absurd h.1 (Nat.not_lt.mpr hn)⟩
  · rw [if_neg hn]
    by_cases hm : Host.memory < n
    · rw [if_pos hm]
      exact ⟨fun h => (nomatch h), fun h => absurd h.2.1 (Nat.not_le.mpr hm)⟩
    · rw [if_neg hm]
      constructor
      · intro h
        cases h
        exact ⟨Nat.not_le.mp hn, Nat.not_lt.mp hm, rfl⟩
      · rintro ⟨-, -, rfl⟩
        rfl

end Slices

end Riscvm.Rv64rs
