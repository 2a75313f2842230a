import Riscvm.Rv64rs.Sv39

/-!
# What Sv39 rejects

The architecture rejects an address that is not the sign extension of its low 39 bits, and an
address whose walk meets an entry with W but not R. The source takes the indices from the low
39 bits whatever lies above them, and asks for a leaf before it asks for the reserved encoding.
An address that should be rejected is translated when the tables find something for it under
these two rules, with the TLB as without it.
-/

namespace Riscvm.Rv64rs

open Bits Exec Memo Machine

namespace Mmu

/-- Bits 63 to 39 are all equal to bit 38. -/
def Canonical (va : U64) : Prop := ∀ i, 39 ≤ i → i < 64 → va.getLsbD i = va.getLsbD 38

/-- Entries above the one that the walk reads at level `l` are pointers. -/
theorem OnWalk.pointer_of_lt {store : U64 → Option U64} {va a pte pte' : U64} {remaining l l' : Nat}
    (h : OnWalk store va remaining a l pte) (h' : OnWalk store va remaining a l' pte')
    (below : l < l') :
    Pointer pte' := by
  induction h generalizing l' pte' with
  | entry word => exact absurd h'.lt (by omega)
  | pointer word pointer rest ih =>
      cases h' with
      | entry word' => exact Option.some.inj (word.symm.trans word') ▸ pointer
      | pointer word' pointer' rest' =>
          obtain rfl := Option.some.inj (word.symm.trans word')
          exact ih rest' below

variable [Host] {m₀ m m' : Machine} {va : U64} {access : Access}

/-- The walk for `va` meets an entry with W but not R. -/
def MeetsReserved (m : Machine) (va : U64) : Prop :=
  ∃ l pte, OnWalk (readPte m.bus) va LEVELS (rootTable (m.cpu.csrs.get Csr.SATP)) l pte ∧
    ReservedEncoding pte

/-- The reserved entry on the walk of a leaf is the leaf itself. -/
theorem Finds.reserved {l : Nat} {pte : U64} (finds : Finds m va access l pte)
    (meets : MeetsReserved m va) : ReservedEncoding pte := by
  obtain ⟨l', pte', onWalk, reserved⟩ := meets
  obtain hlt | rfl | hlt := Nat.lt_trichotomy l l'
  · have pointer := finds.onWalk.pointer_of_lt onWalk hlt
    exact absurd (reserved.2.symm.trans pointer.2.2.1) Bool.false_ne_true.symm
  · rwa [finds.onWalk.unique onWalk]
  · exact absurd finds.ends (onWalk.pointer_of_lt finds.onWalk hlt).not_endsWalk

/-- A call of `translate`, for any address and access. -/
def TranslateStep (m m' : Machine) : Prop := ∃ va access, m' = finish (translate va access m)

omit [Host] in
theorem lookup_insert {tlb : Tlb} {vpn ppn perm vpn' : U64} {page : U64 × U64}
    (h : (tlb.insert vpn ppn perm).lookup vpn' = some page) :
    vpn' = vpn ∧ page = (ppn, perm) ∨ tlb.lookup vpn' = some page := by
  by_cases hslot : Tlb.slot vpn' = Tlb.slot vpn
  · have hentry : (tlb.insert vpn ppn perm).entries (Tlb.slot vpn') = ⟨true, vpn, ppn, perm⟩ :=
      if_pos hslot
    simp only [Tlb.lookup, hentry, Bool.true_and, beq_iff_eq, Option.ite_none_right_eq_some,
      Option.some.injEq] at h
    exact .inl ⟨h.1.symm, h.2.symm⟩
  · have hentry : (tlb.insert vpn ppn perm).entries (Tlb.slot vpn') = tlb.entries (Tlb.slot vpn') :=
      if_neg hslot
    rw [Tlb.lookup, hentry] at h
    exact .inr h

/-- A translation leaves the page tables and `satp` alone, and caches what it found. -/
theorem TranslateStep.coherent (step : TranslateStep m m') (coherent : Coherent m)
    (sv39 : m.cpu.csrs.get Csr.SATP >>> 60 = MODE_SV39) :
    m'.bus = m.bus ∧ m'.cpu.csrs = m.cpu.csrs ∧ Coherent m' := by
  obtain ⟨va, access, rfl⟩ := step
  cases hlookup : m.cpu.tlb.lookup (va >>> 12) with
  | some page =>
      obtain ⟨ppn, perm⟩ := page
      have hfinish : finish (translate va access m) = m := by
        rw [translate_hit sv39 hlookup]
        split <;> rfl
      rw [hfinish]
      exact ⟨rfl, rfl, coherent⟩
  | none =>
      rw [translate_miss sv39 hlookup]
      have hsame := readOnly_walk (m.cpu.csrs.get Csr.SATP) va access m.bus
      cases hwalk : walk (m.cpu.csrs.get Csr.SATP) va access m.bus with
      | error e bus =>
          rw [hwalk, finish_error] at hsame
          subst hsame
          exact ⟨rfl, rfl, coherent⟩
      | ok page bus =>
          obtain ⟨ppn, perm⟩ := page
          obtain ⟨hpage, rfl⟩ := page_of_walk hwalk
          refine ⟨rfl, rfl, fun vpn page h => ?_⟩
          obtain ⟨rfl, rfl⟩ | h := lookup_insert h
          · exact hpage
          · exact coherent vpn page h

/-- After any number of translations from an empty TLB, the TLB holds what the page tables say. -/
theorem coherent_of_run (run : Relation.ReflTransGen TranslateStep m₀ m)
    (empty : ∀ vpn, m₀.cpu.tlb.lookup vpn = none)
    (sv39 : m₀.cpu.csrs.get Csr.SATP >>> 60 = MODE_SV39) :
    m.bus = m₀.bus ∧ m.cpu.csrs = m₀.cpu.csrs ∧ Coherent m := by
  induction run with
  | refl => exact ⟨rfl, rfl, coherent_of_empty empty⟩
  | tail _ step ih =>
      obtain ⟨hbus, hcsrs, hcoherent⟩ := ih
      obtain ⟨hbus', hcsrs', hcoherent'⟩ := step.coherent hcoherent (hcsrs ▸ sv39)
      exact ⟨hbus'.trans hbus, hcsrs'.trans hcsrs, hcoherent'⟩

/-- After any number of translations from an empty TLB, `translate` rejects an address that is
not canonical or meets a reserved entry, exactly if what the tables find for the low 39 bits of
the address, if anything, is found for a canonical address and is not reserved itself. -/
theorem translate_rejects_iff (m₀ m : Machine) (run : Relation.ReflTransGen TranslateStep m₀ m)
    (empty : ∀ vpn, m₀.cpu.tlb.lookup vpn = none) (served : m₀.bus.Served)
    (sv39 : m₀.cpu.csrs.get Csr.SATP >>> 60 = MODE_SV39) (va : U64) (access : Access) :
    (¬Canonical va ∨ MeetsReserved m va → ∃ e t, translate va access m = .error (.err e) t) ↔
      ∀ l pte, Finds m va access l pte → Canonical va ∧ ¬ReservedEncoding pte := by
  obtain ⟨hbus, hcsrs, hcoherent⟩ := coherent_of_run run empty sv39
  rw [← hbus] at served
  rw [← hcsrs] at sv39
  constructor
  · intro rejects l pte finds
    obtain ⟨ppn, perm, page, -⟩ := page_of_finds finds
    obtain ⟨t, ht⟩ := hcoherent.translate_page sv39 page
    have hnot : ¬(¬Canonical va ∨ MeetsReserved m va) := by
      intro forbidden
      obtain ⟨e, u, he⟩ := rejects forbidden
      cases ht.symm.trans he
    rw [not_or, not_not] at hnot
    exact ⟨hnot.1, fun reserved => hnot.2 ⟨l, pte, finds.onWalk, reserved⟩⟩
  · intro safe forbidden
    have hnone (l : Nat) (pte : U64) : ¬Finds m va access l pte := by
      intro finds
      obtain ⟨canonical, unreserved⟩ := safe l pte finds
      rcases forbidden with h | meets
      · exact h canonical
      · exact unreserved (finds.reserved meets)
    obtain ⟨e, he⟩ := hcoherent.translate_err served sv39 hnone
    exact ⟨e, m, he⟩

omit [Host] in
/-- The gigapage with the reserved permissions W and X. -/
def reservedPage : Machine :=
  { Traced.gigapage with bus.ram := ⟨[13, 0, 0, 0, 0, 0, 0, 0]⟩ }

omit [Host] in
theorem not_canonical_sample : ¬Canonical 0x8000000000012345 := by
  intro h
  exact absurd (h 63 (by decide) (by decide)) (by decide)

omit [Host] in
/-- On the gigapage a read below the gap is not rejected, and the tables find the gigapage. -/
theorem translate_rejects_iff_gigapage :
    ¬(¬Canonical 0x8000000000012345 ∨ @MeetsReserved .dev Traced.gigapage 0x8000000000012345 →
      ∃ e t, @translate .dev 0x8000000000012345 .R Traced.gigapage = .error (.err e) t) := by
  let : Host := .dev
  intro rejects
  have hsafe := (translate_rejects_iff Traced.gigapage Traced.gigapage .refl (fun _ => rfl)
    served_gigapage (by decide) 0x8000000000012345 .R).mp rejects
  have hfinds : Finds Traced.gigapage 0x8000000000012345 .R 2 3 :=
    ⟨.entry (by decide), ⟨by decide, .inl (by decide)⟩, by decide, by decide⟩
  exact not_canonical_sample (hsafe 2 3 hfinds).1

omit [Host] in
/-- An address that is not canonical is read, and a page with W and X but not R is written. -/
theorem forbidden_translated :
    (¬Canonical 0x8000000000012345 ∧
      ∃ pa t, @translate .dev 0x8000000000012345 .R Traced.gigapage = .ok pa t) ∧
    (@MeetsReserved .dev reservedPage 0x12345 ∧
      ∃ pa t, @translate .dev 0x12345 .W reservedPage = .ok pa t) := by
  let : Host := .dev
  have hread : PageFor Traced.gigapage 0x8000000000012345 .R 0x12 PTE_R := by
    refine ⟨?_, ?_⟩ <;> decide
  have hwrite : PageFor reservedPage 0x12345 .W 0x12 (PTE_W ||| PTE_X) := by
    refine ⟨?_, ?_⟩ <;> decide
  have hmeets : MeetsReserved reservedPage 0x12345 :=
    ⟨2, 13, .entry (by decide), by decide, by decide⟩
  exact ⟨⟨not_canonical_sample, _,
    (coherent_of_empty fun _ => rfl).translate_page (by decide) hread⟩,
    hmeets, _, (coherent_of_empty fun _ => rfl).translate_page (by decide) hwrite⟩

end Mmu

end Riscvm.Rv64rs
