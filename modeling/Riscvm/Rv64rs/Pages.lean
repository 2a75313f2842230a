import Riscvm.Rv64rs.TlbTransparency

/-!
# Where an address leads

`Reaches m va access pa` says that the machine translates `va` to `pa`. Within a page
translation is a shift: an address of the same page reaches the same offset in the
same frame.
-/

namespace Riscvm.Rv64rs

open Exec Machine

namespace Mmu

variable [Host] {m : Machine} {va pa : U64} {access : Access}

/-- The machine translates `va` to `pa`. -/
def Reaches (m : Machine) (va : U64) (access : Access) (pa : U64) : Prop :=
  ∃ t, translate va access m = .ok pa t

theorem Reaches.unique {pa' : U64} (h : Reaches m va access pa) (h' : Reaches m va access pa') :
    pa = pa' := by
  obtain ⟨t, ht⟩ := h
  obtain ⟨t', ht'⟩ := h'
  rw [ht] at ht'
  cases ht'
  rfl

omit [Host] in
theorem offset_toNat (va : U64) : (va &&& (0xfff : U64)).toNat = va.toNat % 4096 := by
  rw [BitVec.toNat_and]
  exact Nat.and_two_pow_sub_one_eq_mod va.toNat 12

omit [Host] in
theorem frame_or_offset (ppn va : U64) :
    ((ppn <<< 12) ||| (va &&& (0xfff : U64))).toNat =
      ppn.toNat % 2 ^ 52 * 4096 + va.toNat % 4096 := by
  have hshift : (ppn <<< 12).toNat = (ppn.toNat % 2 ^ 52) <<< 12 := by
    rw [BitVec.toNat_shiftLeft, Nat.shiftLeft_eq, Nat.shiftLeft_eq]
    omega
  have hlow : va.toNat % 4096 < 2 ^ 12 := Nat.mod_lt _ (by decide)
  rw [BitVec.toNat_or, hshift, offset_toNat, ← Nat.shiftLeft_add_eq_or_of_lt hlow,
    Nat.shiftLeft_eq]

omit [Host] in
theorem page_eq_iff (va va' : U64) :
    va >>> 12 = va' >>> 12 ↔ va.toNat / 4096 = va'.toNat / 4096 := by
  rw [← BitVec.toNat_inj, BitVec.toNat_ushiftRight, BitVec.toNat_ushiftRight,
    Nat.shiftRight_eq_div_pow, Nat.shiftRight_eq_div_pow]

/-- An address is left alone in Bare mode; otherwise its whole page reaches one frame. -/
theorem Reaches.cases (h : Reaches m va access pa) :
    (m.cpu.csrs.get Csr.SATP >>> 60 = MODE_BARE ∧ pa = va) ∨
      ∃ ppn : U64, pa = (ppn <<< 12) ||| (va &&& (0xfff : U64)) ∧
        ∀ va' : U64, va' >>> 12 = va >>> 12 →
          Reaches m va' access ((ppn <<< 12) ||| (va' &&& (0xfff : U64))) := by
  obtain ⟨t, ht⟩ := h
  by_cases hbare : m.cpu.csrs.get Csr.SATP >>> 60 = MODE_BARE
  · rw [translate_bare hbare] at ht
    cases ht
    exact .inl ⟨hbare, rfl⟩
  right
  by_cases hmode : m.cpu.csrs.get Csr.SATP >>> 60 = MODE_SV39
  · cases hlookup : m.cpu.tlb.lookup (va >>> 12) with
    | some page =>
        obtain ⟨ppn, perm⟩ := page
        rw [translate_hit hmode hlookup] at ht
        by_cases hp : perm &&& required access = 0
        · rw [if_pos hp] at ht
          cases ht
        rw [if_neg hp] at ht
        cases ht
        refine ⟨ppn, rfl, fun va' hva' => ⟨m, ?_⟩⟩
        rw [translate_hit hmode (by rw [hva']; exact hlookup), if_neg hp]
    | none =>
        cases hwalk : walk (m.cpu.csrs.get Csr.SATP) va access m.bus with
        | error e bus =>
            rw [translate_miss hmode hlookup, hwalk] at ht
            cases ht
        | ok page bus =>
            obtain ⟨ppn, perm⟩ := page
            rw [translate_fill hmode hlookup hwalk] at ht
            cases ht
            obtain ⟨hpage, hbus⟩ := page_of_walk hwalk
            have hperm : ¬perm &&& required access = 0 := by
              intro hp
              have hfails := walk_of_page hpage access
              rw [if_pos hp] at hfails
              obtain ⟨e, hfails⟩ := hfails
              rw [hwalk] at hfails
              cases hfails
            refine ⟨ppn, rfl, fun va' hva' => ?_⟩
            rw [← hva'] at hpage
            have hwalk' := walk_of_page hpage access
            rw [if_neg hperm] at hwalk'
            exact ⟨_, translate_fill hmode (by rw [hva']; exact hlookup) hwalk'⟩
  · rw [translate_unsupported hbare hmode] at ht
    simp [translateUncached, hbare, hmode] at ht

/-- Translation keeps the place in the page. -/
theorem Reaches.mod (h : Reaches m va access pa) : pa.toNat % 4096 = va.toNat % 4096 := by
  obtain ⟨-, rfl⟩ | ⟨ppn, rfl, -⟩ := h.cases
  · rfl
  · rw [frame_or_offset]
    omega

/-- The bytes behind `va` in its page are reached behind `pa`. -/
theorem Reaches.within_page (h : Reaches m va access pa) {i : Nat}
    (hi : va.toNat % 4096 + i < 4096) :
    Reaches m (va + BitVec.ofNat 64 i) access (pa + BitVec.ofNat 64 i) := by
  have hi' : (BitVec.ofNat 64 i).toNat = i := by
    rw [BitVec.toNat_ofNat]
    omega
  have hva : (va + BitVec.ofNat 64 i).toNat = va.toNat + i := by
    rw [BitVec.toNat_add, hi']
    have := va.isLt
    omega
  obtain ⟨hbare, rfl⟩ | ⟨ppn, rfl, hpage⟩ := h.cases
  · exact ⟨m, translate_bare hbare⟩
  · have hsum : ((ppn <<< 12) ||| (va &&& (0xfff : U64))) + BitVec.ofNat 64 i =
        (ppn <<< 12) ||| ((va + BitVec.ofNat 64 i) &&& (0xfff : U64)) := by
      apply BitVec.eq_of_toNat_eq
      rw [BitVec.toNat_add, frame_or_offset, frame_or_offset, hva, hi']
      omega
    rw [hsum]
    apply hpage
    rw [page_eq_iff, hva]
    omega

/-- A translation that succeeds may fill the TLB and changes nothing else. -/
theorem translate_bus {t : Machine} (h : translate va access m = .ok pa t) : t.bus = m.bus := by
  by_cases hbare : m.cpu.csrs.get Csr.SATP >>> 60 = MODE_BARE
  · rw [translate_bare hbare] at h
    cases h
    rfl
  by_cases hmode : m.cpu.csrs.get Csr.SATP >>> 60 = MODE_SV39
  · cases hlookup : m.cpu.tlb.lookup (va >>> 12) with
    | some page =>
        rw [translate_hit hmode hlookup] at h
        split at h
        · cases h
        · cases h
          rfl
    | none =>
        cases hwalk : walk (m.cpu.csrs.get Csr.SATP) va access m.bus with
        | error e bus =>
            rw [translate_miss hmode hlookup, hwalk] at h
            cases h
        | ok page bus =>
            rw [translate_fill hmode hlookup hwalk] at h
            cases h
            exact (page_of_walk hwalk).2
  · rw [translate_unsupported hbare hmode] at h
    simp [translateUncached, hbare, hmode] at h

end Mmu

end Riscvm.Rv64rs
