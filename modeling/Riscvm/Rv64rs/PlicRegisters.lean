import Riscvm.Foundation.Bank
import Riscvm.Rv64rs.PlicClaims

/-!
# The registers of the interrupt controller

The priorities, the enable words and the thresholds are a bank of words; only the claim registers
are computed. A context has one enable word, which all the addresses of its block select.
-/

namespace Riscvm.Rv64rs

open Exec

namespace Plic

/-- The words that the controller stores. -/
inductive Register where
  | priority (irq : Fin 32)
  | enable (context : Fin 64)
  | threshold (context : Fin 64)
  deriving DecidableEq

def word (plic : Plic) : Register → U32
  | .priority irq => plic.priority irq
  | .enable context => plic.enable context
  | .threshold context => plic.threshold context

/-- The word at `i` of an array, if it has one. -/
def elem {n : Nat} (register : Fin n → Register) (i : Nat) : Option Register :=
  if h : i < n then some (register ⟨i, h⟩) else none

/-- The word that an address selects. -/
def select (address : U64) : Option Register :=
  if address < PRIORITY_END then elem .priority (address / 4).toNat
  else if ENABLE_BASE ≤ address ∧ address < ENABLE_END then
    elem .enable ((address - ENABLE_BASE) / ENABLE_STRIDE).toNat
  else if CONTEXT_BASE ≤ address ∧ (address - CONTEXT_BASE) % CONTEXT_STRIDE = THRESHOLD_OFFSET then
    elem .threshold ((address - CONTEXT_BASE) / CONTEXT_STRIDE).toNat
  else none

theorem elem_eq_some {n : Nat} {register : Fin n → Register} {i : Nat} {r : Register} :
    elem register i = some r ↔ ∃ j : Fin n, j.val = i ∧ register j = r := by
  unfold elem
  constructor
  · intro h
    split at h
    next hi => exact ⟨⟨i, hi⟩, rfl, Option.some.inj h⟩
    next => cases h
  · rintro ⟨j, rfl, rfl⟩
    rw [dif_pos j.isLt]

theorem slot_eq_word {n : Nat} (plic : Plic) (register : Fin n → Register) (array : Fin n → U32)
    (words : ∀ j, plic.word (register j) = array j) (i : Nat) :
    slot array i = ((elem register i).map plic.word).getD 0 := by
  unfold slot elem
  by_cases h : i < n
  · rw [dif_pos h, dif_pos h]
    exact (words _).symm
  · rw [dif_neg h, dif_neg h]
    rfl

/-- A store of four bytes. -/
def store (address : U64) (value : U32) (plic : Plic) : Plic :=
  finish (write address 4 (value.setWidth 64) plic)

theorem word_store (address : U64) (value : U32) (plic : Plic) (r : Register) :
    (plic.store address value).word r =
      if select address = some r then value else plic.word r := by
  have hvalue : (value.setWidth 64 : U64).setWidth 32 = value := by
    rw [BitVec.setWidth_setWidth_of_le _ (by decide), BitVec.setWidth_eq]
  have hset (plic' : Plic) : (set plic' : Call Plic Unit) plic = .ok () plic' := rfl
  unfold store Plic.write select
  rw [if_neg (not_not_intro rfl), get_bind_apply, hvalue]
  dsimp only
  simp only [run_ite]
  by_cases hpriority : address < PRIORITY_END
  · rw [if_pos hpriority, if_pos hpriority, hset, finish_ok]
    cases r <;> simp [elem_eq_some, word, setSlot]
  rw [if_neg hpriority, if_neg hpriority]
  by_cases henable : ENABLE_BASE ≤ address ∧ address < ENABLE_END
  · rw [if_pos henable, if_pos henable, hset, finish_ok]
    cases r <;> simp [elem_eq_some, word, setSlot, enableSet]
  rw [if_neg henable, if_neg henable]
  by_cases hcontext : CONTEXT_BASE ≤ address
  · rw [if_pos hcontext]
    by_cases hoffset : (address - CONTEXT_BASE) % CONTEXT_STRIDE = THRESHOLD_OFFSET
    · have hthreshold := And.intro hcontext hoffset
      rw [if_pos hoffset, if_pos hthreshold, hset, finish_ok]
      cases r <;> simp [elem_eq_some, word, setSlot, thresholdSet]
    · simp [hoffset]
  · simp [hcontext]

/-- The controller is a bank of words. -/
def bank : Bank Plic U64 Register U32 where
  select := select
  word := word
  store := store
  word_store := word_store

/-- The upper half of a stored value is dropped. -/
theorem finish_write (address value : U64) (plic : Plic) :
    finish (write address 4 value plic) = bank.store address (value.setWidth 32) plic := by
  have hvalue : ((value.setWidth 32 : U32).setWidth 64 : U64).setWidth 32 = value.setWidth 32 := by
    rw [BitVec.setWidth_setWidth_of_le _ (by decide), BitVec.setWidth_eq]
  change _ = finish (write address 4 ((value.setWidth 32 : U32).setWidth 64) plic)
  unfold write
  rw [hvalue]

/-- The block of addresses of a context's enable words. -/
def EnableBlock (context address : Nat) : Prop :=
  ENABLE_BASE.toNat + 0x80 * context ≤ address ∧
    address < ENABLE_BASE.toNat + 0x80 * (context + 1)

/-- The selection on the offset as a number. -/
theorem select_eq (address : U64) :
    select address =
      if address.toNat < 0x1000 then elem .priority (address.toNat / 4)
      else if 0x2000 ≤ address.toNat ∧ address.toNat < 0x1f2000 then
        elem .enable ((address.toNat - 0x2000) / 0x80)
      else if 0x200000 ≤ address.toNat ∧ (address.toNat - 0x200000) % 0x1000 = 0 then
        elem .threshold ((address.toNat - 0x200000) / 0x1000)
      else none := by
  have hsub {base : U64} (h : base ≤ address) :
      (address - base).toNat = address.toNat - base.toNat := by
    have hle := BitVec.le_def.mp h
    bv_omega
  have hpriority : address < PRIORITY_END ↔ address.toNat < 0x1000 := BitVec.lt_def
  have henable : ENABLE_BASE ≤ address ∧ address < ENABLE_END ↔
      0x2000 ≤ address.toNat ∧ address.toNat < 0x1f2000 := and_congr BitVec.le_def BitVec.lt_def
  have hcontext : CONTEXT_BASE ≤ address ↔ 0x200000 ≤ address.toNat := BitVec.le_def
  have hthreshold : CONTEXT_BASE ≤ address ∧
      (address - CONTEXT_BASE) % CONTEXT_STRIDE = THRESHOLD_OFFSET ↔
      0x200000 ≤ address.toNat ∧ (address.toNat - 0x200000) % 0x1000 = 0 := by
    rw [← hcontext]
    refine and_congr_right fun h => ?_
    rw [← BitVec.toNat_inj, BitVec.toNat_umod, hsub h]
    rfl
  refine ite_congr (propext hpriority) (fun _ => rfl) fun _ => ?_
  refine ite_congr (propext henable) (fun h => ?_) fun _ => ?_
  · rw [BitVec.toNat_udiv, hsub (henable.mpr h).1]
    rfl
  refine ite_congr (propext hthreshold) (fun h => ?_) fun _ => rfl
  rw [BitVec.toNat_udiv, hsub (hcontext.mpr h.1)]
  rfl

theorem select_priority_iff {address : U64} {irq : Fin 32} :
    select address = some (.priority irq) ↔ address.toNat / 4 = irq.val := by
  have hirq := irq.isLt
  rw [select_eq]
  split
  · simp [elem_eq_some, eq_comm]
  · refine iff_of_false ?_ (by omega)
    split
    · simp [elem_eq_some]
    · split <;> simp [elem_eq_some]

theorem select_enable_iff {address : U64} {context : Fin 64} :
    select address = some (.enable context) ↔ EnableBlock context.val address.toNat := by
  have hcontext := context.isLt
  have hbase : ENABLE_BASE.toNat = 0x2000 := rfl
  rw [select_eq, EnableBlock, hbase]
  split
  · refine iff_of_false (by simp [elem_eq_some]) (by omega)
  · split
    · simp only [elem_eq_some, Register.enable.injEq, exists_eq_right]
      omega
    · refine iff_of_false ?_ (by omega)
      split <;> simp [elem_eq_some]

theorem select_threshold_iff {address : U64} {context : Fin 64} :
    select address = some (.threshold context) ↔
      address.toNat = CONTEXT_BASE.toNat + 0x1000 * context.val := by
  have hbase : CONTEXT_BASE.toNat = 0x200000 := rfl
  rw [select_eq, hbase]
  split
  · refine iff_of_false (by simp [elem_eq_some]) (by omega)
  · split
    · refine iff_of_false (by simp [elem_eq_some]) (by omega)
    · split
      · simp only [elem_eq_some, Register.threshold.injEq, exists_eq_right]
        omega
      · refine iff_of_false (by simp) (by omega)

/-- Two addresses of words that select the same one lie in the block of a context. -/
theorem select_shared_iff {a b : U64} (ha : a.toNat % 4 = 0) (hb : b.toNat % 4 = 0) (hne : a ≠ b)
    {r : Register} : (select a = some r ∧ select b = some r) ↔
      ∃ context : Fin 64, r = .enable context ∧ EnableBlock context.val a.toNat ∧
        EnableBlock context.val b.toNat := by
  constructor
  · rintro ⟨hra, hrb⟩
    cases r with
    | priority irq =>
        rw [select_priority_iff] at hra hrb
        exact absurd (BitVec.eq_of_toNat_eq (by omega)) hne
    | enable context => exact ⟨context, rfl, select_enable_iff.mp hra, select_enable_iff.mp hrb⟩
    | threshold context =>
        rw [select_threshold_iff] at hra hrb
        exact absurd (BitVec.eq_of_toNat_eq (hra.trans hrb.symm)) hne
  · rintro ⟨context, rfl, hra, hrb⟩
    exact ⟨select_enable_iff.mpr hra, select_enable_iff.mpr hrb⟩

variable [Host] {σ : Type}

/-- Away from the claim registers a read returns a word of the bank. -/
theorem read_eq_load {address : U64} (h : ¬ClaimRegister address) (plic : Plic)
    (status : IrqLine → Call σ U32) :
    plic.read status address 4 = pure ((bank.load 0 address plic).setWidth 64) := by
  have hload : bank.load 0 address plic = ((select address).map plic.word).getD 0 := rfl
  rw [hload]
  unfold Plic.read select
  rw [if_neg (not_not_intro rfl)]
  by_cases hpriority : address < PRIORITY_END
  · rw [if_pos hpriority, if_pos hpriority, slot_eq_word plic .priority plic.priority fun _ => rfl]
  rw [if_neg hpriority, if_neg hpriority]
  by_cases henable : ENABLE_BASE ≤ address ∧ address < ENABLE_END
  · rw [if_pos henable, if_pos henable, enableGet,
      slot_eq_word plic .enable plic.enable fun _ => rfl]
  rw [if_neg henable, if_neg henable]
  by_cases hcontext : CONTEXT_BASE ≤ address
  · rw [if_pos hcontext]
    dsimp only
    by_cases hoffset : (address - CONTEXT_BASE) % CONTEXT_STRIDE = THRESHOLD_OFFSET
    · have hthreshold := And.intro hcontext hoffset
      rw [if_pos hoffset, if_pos hthreshold, thresholdGet,
        slot_eq_word plic .threshold plic.threshold fun _ => rfl]
    · have hclaim : (address - CONTEXT_BASE) % CONTEXT_STRIDE ≠ CLAIM_OFFSET :=
        fun hclaim => h ⟨hcontext, hclaim⟩
      simp [hoffset, hclaim]
  · simp [hcontext]

/-- A store shows at another aligned address exactly if both are enable words of one context and
the stored bits differ from those that the context had. -/
theorem read_write_iff {a b : U64} (ha : a.toNat % 4 = 0) (hb : b.toNat % 4 = 0) (hne : a ≠ b)
    (hclaim : ¬ClaimRegister b) (plic : Plic) (value : U64) (status : IrqLine → Call σ U32)
    (s : σ) :
    (finish (write a 4 value plic)).read status b 4 s = plic.read status b 4 s ↔
      ¬∃ context : Fin 64, EnableBlock context.val a.toNat ∧
        EnableBlock context.val b.toNat ∧ plic.enable context ≠ value.setWidth 32 := by
  have hinj (x y : U32) :
      (pure (x.setWidth 64) : Call σ U64) s = (pure (y.setWidth 64) : Call σ U64) s ↔ x = y := by
    rw [pure_apply, pure_apply, EStateM.Result.ok.injEq, and_iff_left rfl]
    refine ⟨fun h => ?_, congrArg _⟩
    have hlow := congrArg (BitVec.setWidth 32) h
    rwa [BitVec.setWidth_setWidth_of_le _ (by decide), BitVec.setWidth_setWidth_of_le _ (by decide),
      BitVec.setWidth_eq, BitVec.setWidth_eq] at hlow
  rw [finish_write, read_eq_load hclaim, read_eq_load hclaim, hinj, bank.load_store_iff]
  refine not_congr ⟨?_, ?_⟩
  · rintro ⟨r, hra, hrb, hword⟩
    obtain ⟨context, rfl, hblock, hblock'⟩ := (select_shared_iff ha hb hne).mp ⟨hra, hrb⟩
    exact ⟨context, hblock, hblock', hword⟩
  · rintro ⟨context, hblock, hblock', hword⟩
    exact ⟨.enable context, select_enable_iff.mpr hblock, select_enable_iff.mpr hblock', hword⟩

end Plic

end Riscvm.Rv64rs
