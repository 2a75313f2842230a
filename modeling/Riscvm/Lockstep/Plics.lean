import Riscvm.Foundation.Agree
import Riscvm.Python.Plic
import Riscvm.Rv64rs.PlicRegisters

/-!
# The two interrupt controllers

Both map their windows to words by the same divisions, so two offsets share a word in both or in
neither. Those of a context's enable block all share its one word: a store to any of them is seen
at every other.
-/

namespace Riscvm.Lockstep

open Exec Rv64rs

section Select

open Python.Plic (Register)

theorem python_select (n : Nat) :
    Python.Plic.select n =
      if n < 0x1000 then if h : n / 4 < 32 then some (.priority ⟨n / 4, h⟩) else none
      else if 0x2000 ≤ n ∧ n < 0x1f2000 then some (.enable ((n - 0x2000) / 0x80 : Nat))
      else if 0x200000 ≤ n ∧ (n - 0x200000) % 0x1000 = 0 then
        some (.threshold ((n - 0x200000) / 0x1000 : Nat))
      else none := by
  have hirq : ((n : Int) / 4).toNat = n / 4 := by omega
  unfold Python.Plic.select Python.Plic.PRIORITY_BASE Python.Plic.PRIORITY_END
    Python.Plic.ENABLE_BASE Python.Plic.ENABLE_END Python.Plic.ENABLE_STRIDE
    Python.Plic.CONTEXT_BASE Python.Plic.CONTEXT_STRIDE Python.Plic.THRESHOLD_OFFSET
  refine ite_congr (propext (by omega)) (fun _ => by simp only [hirq]) fun _ => ?_
  refine ite_congr (propext (by omega)) (fun h => ?_) fun _ => ?_
  · congr 2
    omega
  refine ite_congr (propext (by omega)) (fun h => ?_) fun _ => rfl
  congr 2
  omega

theorem python_select_priority {n : Nat} {irq : Fin 32} :
    Python.Plic.select n = some (.priority irq) ↔ n / 4 = irq.val := by
  have hirq := irq.isLt
  rw [python_select]
  split
  · split
    · rw [Option.some_inj, Register.priority.injEq, Fin.ext_iff]
    · refine iff_of_false (fun h => ?_) (by omega)
      cases h
  · refine iff_of_false (fun h => ?_) (by omega)
    split at h
    next => cases h
    next =>
      split at h
      next => cases h
      next => cases h

theorem python_select_enable {n : Nat} {context : Int} :
    Python.Plic.select n = some (.enable context) ↔
      ∃ c : Nat, context = c ∧ c < 0x3e00 ∧ Plic.EnableBlock c n := by
  have hbase : Plic.ENABLE_BASE.toNat = 0x2000 := rfl
  rw [python_select]
  unfold Plic.EnableBlock
  rw [hbase]
  split
  · refine iff_of_false (fun h => ?_) (by omega)
    split at h
    next => cases h
    next => cases h
  · split
    · rw [Option.some_inj, Register.enable.injEq]
      constructor
      · intro h
        exact ⟨(n - 0x2000) / 0x80, h.symm, by omega, by omega, by omega⟩
      · rintro ⟨c, rfl, hc, hlow, hhigh⟩
        congr 1
        omega
    · refine iff_of_false (fun h => ?_) (by omega)
      split at h
      next => cases h
      next => cases h

theorem python_select_threshold {n : Nat} {context : Int} :
    Python.Plic.select n = some (.threshold context) ↔
      ∃ c : Nat, context = c ∧ n = 0x200000 + 0x1000 * c := by
  rw [python_select]
  split
  · refine iff_of_false (fun h => ?_) (by omega)
    split at h
    next => cases h
    next => cases h
  · split
    · refine iff_of_false (fun h => ?_) (by omega)
      cases h
    · split
      · rw [Option.some_inj, Register.threshold.injEq]
        constructor
        · intro h
          exact ⟨(n - 0x200000) / 0x1000, h.symm, by omega⟩
        · rintro ⟨c, rfl, hc⟩
          congr 1
          omega
      · refine iff_of_false (fun h => ?_) (by omega)
        cases h

/-- Two offsets of words that select the same one lie in the block of a context. -/
theorem python_select_shared {n m : Nat} (hn : n % 4 = 0) (hm : m % 4 = 0) (hne : n ≠ m)
    {r : Register} :
    (Python.Plic.select n = some r ∧ Python.Plic.select m = some r) ↔
      ∃ context : Nat, r = .enable context ∧ context < 0x3e00 ∧ Plic.EnableBlock context n ∧
        Plic.EnableBlock context m := by
  constructor
  · rintro ⟨hrn, hrm⟩
    cases r with
    | priority irq =>
        rw [python_select_priority] at hrn hrm
        omega
    | enable context =>
        obtain ⟨c, rfl, hc, hblock⟩ := python_select_enable.mp hrn
        obtain ⟨c', heq, -, hblock'⟩ := python_select_enable.mp hrm
        obtain rfl := Int.ofNat_inj.mp heq
        exact ⟨c, rfl, hc, hblock, hblock'⟩
    | threshold context =>
        obtain ⟨c, rfl, hc⟩ := python_select_threshold.mp hrn
        obtain ⟨c', heq, hc'⟩ := python_select_threshold.mp hrm
        omega
  · rintro ⟨context, rfl, hcontext, hblock, hblock'⟩
    exact ⟨python_select_enable.mpr ⟨context, rfl, hcontext, hblock⟩,
      python_select_enable.mpr ⟨context, rfl, hcontext, hblock'⟩⟩

end Select

theorem claimRegister_iff {address : U64} :
    Plic.ClaimRegister address ↔ Python.Plic.ClaimRegister address.toNat := by
  have hpython : Python.Plic.ClaimRegister address.toNat ↔
      (0x200000 : Int) ≤ address.toNat ∧ ((address.toNat : Int) - 0x200000) % 0x1000 = 4 := Iff.rfl
  have hbase : Plic.CONTEXT_BASE ≤ address ↔ 0x200000 ≤ address.toNat := BitVec.le_def
  have hoffset (h : Plic.CONTEXT_BASE ≤ address) :
      (address - Plic.CONTEXT_BASE) % Plic.CONTEXT_STRIDE = Plic.CLAIM_OFFSET ↔
        (address.toNat - 0x200000) % 0x1000 = 4 := by
    rw [← BitVec.toNat_inj, BitVec.toNat_umod, BitVec.toNat_sub_of_le h]
    rfl
  rw [hpython]
  unfold Plic.ClaimRegister
  rw [and_congr_right hoffset, hbase]
  omega

theorem contextOf_toNat {address : U64} (h : Plic.ClaimRegister address) :
    ((Plic.contextOf address).toNat : Int) =
      ((address.toNat : Int) - Python.Plic.CONTEXT_BASE) / Python.Plic.CONTEXT_STRIDE := by
  have hbase : 0x200000 ≤ address.toNat := BitVec.le_def.mp h.1
  have hcontext : (Plic.contextOf address).toNat = (address.toNat - 0x200000) / 0x1000 := by
    unfold Plic.contextOf
    rw [BitVec.toNat_udiv, BitVec.toNat_sub_of_le h.1]
    rfl
  rw [hcontext]
  unfold Python.Plic.CONTEXT_BASE Python.Plic.CONTEXT_STRIDE
  omega

theorem python_read_write_iff {a b : Nat} (ha : a % 4 = 0) (hb : b % 4 = 0) (hne : a ≠ b)
    (hclaim : ¬Python.Plic.ClaimRegister b) (plic : Python.Plic) (value : Int) :
    answer (Python.Plic.read b 4 (finish (Python.Plic.write a 4 value plic))) =
        answer (Python.Plic.read b 4 plic) ↔
      ¬∃ context : Nat, context < 0x3e00 ∧ Plic.EnableBlock context a ∧
        Plic.EnableBlock context b ∧ Python.Plic.dictGet plic.enable context ≠ value := by
  rw [Python.Plic.finish_write, Python.Plic.read_eq_load hclaim, Python.Plic.read_eq_load hclaim]
  unfold answer
  rw [Except.ok.injEq, Bank.load_store_iff, Python.Plic.bank_select, Python.Plic.bank_select]
  refine not_congr ⟨?_, ?_⟩
  · rintro ⟨r, hra, hrb, hword⟩
    obtain ⟨context, rfl, hcontext, hblock, hblock'⟩ :=
      (python_select_shared ha hb hne).mp ⟨hra, hrb⟩
    exact ⟨context, hcontext, hblock, hblock', hword⟩
  · rintro ⟨context, hcontext, hblock, hblock', hword⟩
    obtain ⟨hra, hrb⟩ := (python_select_shared ha hb hne).mpr
      ⟨context, rfl, hcontext, hblock, hblock'⟩
    exact ⟨.enable context, hra, hrb, hword⟩

/-- A store to one aligned offset is seen at another exactly if both lie in the block of one context
and the stored bits differ from those that the context had, in Rust and in Python. -/
theorem registers_independent_iff [Host] {a b : U64} (ha : a.toNat % 4 = 0) (hb : b.toNat % 4 = 0)
    (hne : a ≠ b) (hclaim : ¬Plic.ClaimRegister b) :
    (∀ {σ : Type} (plic : Plic) (value : U64) (status : IrqLine → Call σ U32) (s : σ),
      (finish (Plic.write a 4 value plic)).read status b 4 s = plic.read status b 4 s ↔
        ¬∃ context : Fin 64, Plic.EnableBlock context.val a.toNat ∧
          Plic.EnableBlock context.val b.toNat ∧ plic.enable context ≠ value.setWidth 32) ∧
    ∀ (plic : Python.Plic) (value : Int),
      answer (Python.Plic.read b.toNat 4 (finish (Python.Plic.write a.toNat 4 value plic))) =
          answer (Python.Plic.read b.toNat 4 plic) ↔
        ¬∃ context : Nat, context < 0x3e00 ∧ Plic.EnableBlock context a.toNat ∧
          Plic.EnableBlock context b.toNat ∧
          Python.Plic.dictGet plic.enable context ≠ value := by
  refine ⟨fun plic value status s => ?_, fun plic value => ?_⟩
  · exact Plic.read_write_iff ha hb hne hclaim plic value status s
  · exact python_read_write_iff ha hb (fun h => hne (BitVec.eq_of_toNat_eq h))
      (mt claimRegister_iff.mpr hclaim) plic value

theorem registers_independent_priority :
    let plic := Python.Plic.new 0x400000 []
    answer (Python.Plic.read (0x2080 : U64).toNat 4
        (finish (Python.Plic.write (0x4 : U64).toNat 4 7 plic))) =
      answer (Python.Plic.read (0x2080 : U64).toNat 4 plic) := by
  have h := @registers_independent_iff .dev 0x4 0x2080 (by decide) (by decide) (by decide)
    (by decide)
  refine (h.2 (.new 0x400000 []) 7).mpr ?_
  rintro ⟨context, -, hblock, -⟩
  exact absurd hblock.1 (Nat.not_le.mpr (Nat.lt_of_lt_of_le (by decide) (Nat.le_add_right _ _)))

/-- The enable words of irqs 32 to 63 of context 1 are cleared, and with them the bit of irq 10. -/
theorem enable_words_alias :
    let rust := finish (Plic.write 0x2080 4 0x400 (.new 0x400000))
    let python := finish (Python.Plic.write 0x2080 4 0x400 (.new 0x400000 []))
    (@Plic.read .dev Unit rust (fun _ => pure 0) 0x2080 4 () = .ok 0x400 () ∧
      @Plic.read .dev Unit (finish (Plic.write 0x2084 4 0 rust)) (fun _ => pure 0) 0x2080 4 () =
        .ok 0 ()) ∧
    answer (Python.Plic.read 0x2080 4 python) = .ok 0x400 ∧
      answer (Python.Plic.read 0x2080 4 (finish (Python.Plic.write 0x2084 4 0 python))) = .ok 0 :=
  ⟨⟨rfl, rfl⟩, rfl, rfl⟩

end Riscvm.Lockstep
