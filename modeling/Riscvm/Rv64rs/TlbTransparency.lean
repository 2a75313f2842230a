import Riscvm.Rv64rs.PageWalk
import Riscvm.Rv64rs.Encoding
import Riscvm.Rv64rs.Execute

/-!
# The TLB is transparent

A run translates addresses, writes CSRs and executes SFENCE.VMA, in any order, while
memory and the rest of the hart change in between. Next to the machine a run keeps,
for each slot of the TLB, the trail of words read by the walk that filled it. The
invariant is that every valid entry was recorded by a walk under the current `satp`.
An entry whose trail memory still confirms then is what a fresh walk would find, and
if that holds of all of them, `translate` cannot be told from `translateUncached`.
-/

namespace Riscvm.Rv64rs

open Bits Exec Memo Machine

/-- What a caller of `translate` can act on: the text of an error is left out. -/
inductive Outcome (α : Type) where
  | ok (value : α)
  | err
  | panic (cause : Panic)
  deriving DecidableEq, Repr

/-- The outcome of a finished call. -/
def outcome {σ α : Type} : EStateM.Result Fault σ α → Outcome α
  | .ok value _ => .ok value
  | .error (.err _) _ => .err
  | .error (.panic cause) _ => .panic cause

namespace Mmu

variable [Host]

/-- Translation without a TLB: the mode check of `translate` and then a walk. -/
def translateUncached (va : U64) (access : Access) : Call Machine U64 := do
  let satp := (← get).cpu.csrs.get Csr.SATP
  if satp >>> 60 = MODE_BARE then return va
  else if satp >>> 60 ≠ MODE_SV39 then error (.unsupportedMode (satp >>> 60))
  else
    let (ppn, _) ← onBus (walk satp va access)
    return (ppn <<< 12) ||| (va &&& 0xfff)

omit [Host] in
/-- The valid entry of a slot: the number of its page, and what is cached for it. -/
def cached (tlb : Tlb) (i : BitVec 8) : Option (U64 × U64 × U64) :=
  let e := tlb.entries i
  if e.valid then some (e.vpn, e.ppn, e.perm) else none

omit [Host] in
theorem cached_new (i : BitVec 8) : cached .new i = none := rfl

omit [Host] in
theorem cached_flush (tlb : Tlb) (i : BitVec 8) : cached tlb.flush i = none := rfl

omit [Host] in
theorem cached_insert (tlb : Tlb) (vpn ppn perm : U64) :
    cached (tlb.insert vpn ppn perm) =
      update (cached tlb) (Tlb.slot vpn) (some (vpn, ppn, perm)) := by
  funext i
  by_cases hi : i = Tlb.slot vpn
  · rw [hi, update_same]
    simp [cached, Tlb.insert]
  · rw [update_ne _ _ hi]
    simp [cached, Tlb.insert, hi]

omit [Host] in
theorem cached_of_lookup {tlb : Tlb} {vpn ppn perm : U64} (h : tlb.lookup vpn = some (ppn, perm)) :
    cached tlb (Tlb.slot vpn) = some (vpn, ppn, perm) := by
  simp only [Tlb.lookup, Option.ite_none_right_eq_some, Bool.and_eq_true, beq_iff_eq] at h
  obtain ⟨⟨hvalid, hvpn⟩, hentry⟩ := h
  cases hentry
  simp [cached, hvalid, hvpn]

section Translate

variable {va : U64} {access : Access} {m : Machine}

theorem translate_bare (h : m.cpu.csrs.get Csr.SATP >>> 60 = MODE_BARE) :
    translate va access m = .ok va m := by
  simp [translate, h]

theorem translateUncached_bare (h : m.cpu.csrs.get Csr.SATP >>> 60 = MODE_BARE) :
    translateUncached va access m = .ok va m := by
  simp [translateUncached, h]

theorem translate_unsupported (hbare : m.cpu.csrs.get Csr.SATP >>> 60 ≠ MODE_BARE)
    (h : m.cpu.csrs.get Csr.SATP >>> 60 ≠ MODE_SV39) :
    translate va access m = translateUncached va access m := by
  simp [translate, translatePaged, translateUncached, hbare, h]

theorem translate_hit (h : m.cpu.csrs.get Csr.SATP >>> 60 = MODE_SV39) {ppn perm : U64}
    (hit : m.cpu.tlb.lookup (va >>> 12) = some (ppn, perm)) :
    translate va access m =
      if perm &&& required access = 0 then .error (.err (.cachedPermission va perm)) m
      else .ok ((ppn <<< 12) ||| (va &&& 0xfff)) m := by
  have hbare : ¬MODE_SV39 = MODE_BARE := by decide
  simp only [translate, get_bind_apply, h, if_neg hbare, translatePaged, ne_eq, not_true_eq_false,
    if_false, hit]
  by_cases hp : perm &&& required access = 0
  · rw [if_pos hp, if_pos hp]
    rfl
  · rw [if_neg hp, if_neg hp]
    rfl

theorem translate_miss (h : m.cpu.csrs.get Csr.SATP >>> 60 = MODE_SV39)
    (miss : m.cpu.tlb.lookup (va >>> 12) = none) :
    translate va access m =
      match walk (m.cpu.csrs.get Csr.SATP) va access m.bus with
      | .ok (ppn, perm) bus =>
          .ok ((ppn <<< 12) ||| (va &&& 0xfff))
            ⟨{ m.cpu with tlb := m.cpu.tlb.insert (va >>> 12) ppn perm }, bus⟩
      | .error e bus => .error e { m with bus } := by
  have hbare : ¬MODE_SV39 = MODE_BARE := by decide
  simp only [translate, get_bind_apply, h, if_neg hbare, translatePaged, ne_eq, not_true_eq_false,
    if_false, miss]
  rw [bind_apply, onBus, zoom]
  cases walk (m.cpu.csrs.get Csr.SATP) va access m.bus with
  | ok page bus => rfl
  | error e bus => rfl

theorem translate_fill (h : m.cpu.csrs.get Csr.SATP >>> 60 = MODE_SV39)
    (miss : m.cpu.tlb.lookup (va >>> 12) = none) {ppn perm : U64} {bus : Bus}
    (hwalk : walk (m.cpu.csrs.get Csr.SATP) va access m.bus = .ok (ppn, perm) bus) :
    translate va access m = .ok ((ppn <<< 12) ||| (va &&& 0xfff))
      ⟨{ m.cpu with tlb := m.cpu.tlb.insert (va >>> 12) ppn perm }, bus⟩ := by
  rw [translate_miss h miss, hwalk]

theorem translateUncached_sv39 (h : m.cpu.csrs.get Csr.SATP >>> 60 = MODE_SV39) :
    translateUncached va access m =
      match walk (m.cpu.csrs.get Csr.SATP) va access m.bus with
      | .ok (ppn, _) bus => .ok ((ppn <<< 12) ||| (va &&& 0xfff)) { m with bus }
      | .error e bus => .error e { m with bus } := by
  have hbare : ¬MODE_SV39 = MODE_BARE := by decide
  simp only [translateUncached, get_bind_apply, h, if_neg hbare, ne_eq, not_true_eq_false, if_false]
  rw [bind_apply, onBus, zoom]
  cases walk (m.cpu.csrs.get Csr.SATP) va access m.bus with
  | ok page bus => rfl
  | error e bus => rfl

end Translate

/-- A machine, and for each slot of its TLB the words read by the walk that filled it. -/
structure Traced where
  machine : Machine
  trails : BitVec 8 → List (U64 × Option U64)

namespace Traced

/-- The trails after translating `va`: a walk that succeeds leaves its own in the slot. -/
def trailsAfter (s : Traced) (va : U64) (access : Access) : BitVec 8 → List (U64 × Option U64) :=
  let satp := s.machine.cpu.csrs.get Csr.SATP
  if satp >>> 60 = MODE_SV39 ∧ s.machine.cpu.tlb.lookup (va >>> 12) = none then
    match walk satp va access s.machine.bus with
    | .ok _ _ => update s.trails (Tlb.slot (va >>> 12))
        ((pageQuery satp (va >>> 12)).trail (readPte s.machine.bus))
    | .error _ _ => s.trails
  else s.trails

omit [Host] in
/-- SFENCE.VMA, whatever address and address space it names. -/
def sfenceVma (rs1 rs2 : BitVec 5) : Instruction := .new (Encoding.rType 0b0001001 rs2 rs1 0 0 0x73)

/-- One step of a run. Instructions name a CSR by a field of 12 bits. -/
inductive Step : Traced → Traced → Prop where
  | translate (s : Traced) (va : U64) (access : Access) :
      Step s ⟨finish (Mmu.translate va access s.machine), s.trailsAfter va access⟩
  | csrWrite (s : Traced) (csr : BitVec 12) (value : U64) :
      Step s ⟨{ s.machine with cpu := Trap.csrWrite s.machine.cpu (csr.setWidth 32) value },
        s.trails⟩
  | sfenceVma (s : Traced) (rs1 rs2 : BitVec 5) :
      Step s ⟨finish (Machine.execute (sfenceVma rs1 rs2) s.machine), s.trails⟩
  /-- Whatever changes neither the TLB nor `satp`: stores, devices, registers, traps. -/
  | other (s : Traced) (m : Machine) (tlb : m.cpu.tlb = s.machine.cpu.tlb)
      (satp : m.cpu.csrs.get Csr.SATP = s.machine.cpu.csrs.get Csr.SATP) :
      Step s ⟨m, s.trails⟩

/-- Every valid entry was recorded by a walk under the current `satp`. -/
def Inv (s : Traced) : Prop :=
  Recorded Tlb.slot (pageQuery (s.machine.cpu.csrs.get Csr.SATP)) (cached s.machine.cpu.tlb)
    s.trails

/-- The words read to fill slot `i`, if it holds a valid entry, are still in memory. -/
def Unmodified (s : Traced) (i : BitVec 8) : Prop :=
  (s.machine.cpu.tlb.entries i).valid = true → Confirms (readPte s.machine.bus) (s.trails i)

omit [Host] in
theorem inv_of_empty {s : Traced} (h : ∀ i, cached s.machine.cpu.tlb i = none) : s.Inv :=
  Recorded.empty h

theorem trailsAfter_fill {s : Traced} {va : U64} {access : Access} {page : U64 × U64} {bus : Bus}
    (h : s.machine.cpu.csrs.get Csr.SATP >>> 60 = MODE_SV39)
    (miss : s.machine.cpu.tlb.lookup (va >>> 12) = none)
    (hwalk : walk (s.machine.cpu.csrs.get Csr.SATP) va access s.machine.bus = .ok page bus) :
    s.trailsAfter va access = update s.trails (Tlb.slot (va >>> 12))
      ((pageQuery (s.machine.cpu.csrs.get Csr.SATP) (va >>> 12)).trail
        (readPte s.machine.bus)) := by
  rw [trailsAfter, if_pos ⟨h, miss⟩, hwalk]

theorem inv_translate (s : Traced) (va : U64) (access : Access) (h : s.Inv) :
    Inv ⟨finish (Mmu.translate va access s.machine), s.trailsAfter va access⟩ := by
  by_cases hmode : s.machine.cpu.csrs.get Csr.SATP >>> 60 = MODE_SV39
  · cases hlookup : s.machine.cpu.tlb.lookup (va >>> 12) with
    | some page =>
        obtain ⟨ppn, perm⟩ := page
        have hfinish : finish (Mmu.translate va access s.machine) = s.machine := by
          rw [translate_hit hmode hlookup]
          split <;> rfl
        rw [hfinish, trailsAfter, if_neg (by simp [hlookup])]
        exact h
    | none =>
        cases hwalk : walk (s.machine.cpu.csrs.get Csr.SATP) va access s.machine.bus with
        | ok page bus =>
            obtain ⟨ppn, perm⟩ := page
            rw [translate_fill hmode hlookup hwalk, trailsAfter_fill hmode hlookup hwalk]
            change Recorded _ _ (cached (s.machine.cpu.tlb.insert _ _ _)) _
            rw [cached_insert]
            exact Recorded.insert h (page_of_walk hwalk).1
        | error e bus =>
            rw [translate_miss hmode hlookup, trailsAfter, if_pos ⟨hmode, hlookup⟩, hwalk]
            exact h
  · have hfinish : finish (Mmu.translate va access s.machine) = s.machine := by
      by_cases hbare : s.machine.cpu.csrs.get Csr.SATP >>> 60 = MODE_BARE
      · rw [translate_bare hbare, finish_ok]
      · simp [translate_unsupported hbare hmode, translateUncached, hbare, hmode]
    rw [hfinish, trailsAfter, if_neg (fun h => hmode h.1)]
    exact h

omit [Host] in
theorem aliasedTarget_ne_satp {addr baseAddr : U32} {mask : U64}
    (h : Trap.aliasedTarget addr = some (baseAddr, mask)) :
    Csr.SATP.setWidth 12 ≠ baseAddr.setWidth 12 := by
  unfold Trap.aliasedTarget at h
  have hne : ∀ base ∈ [Csr.MSTATUS, Csr.MIE, Csr.MIP],
      Csr.SATP.setWidth 12 ≠ base.setWidth 12 := by
    simp [Csr.SATP, Csr.MSTATUS, Csr.MIE, Csr.MIP]
  apply hne
  grind

omit [Host] in
/-- A CSR write empties the TLB, or leaves both the TLB and `satp` alone. -/
theorem csrWrite_cases (cpu : Cpu) (csr : BitVec 12) (value : U64) :
    (Trap.csrWrite cpu (csr.setWidth 32) value).tlb = cpu.tlb.flush ∨
      (Trap.csrWrite cpu (csr.setWidth 32) value).tlb = cpu.tlb ∧
        (Trap.csrWrite cpu (csr.setWidth 32) value).csrs.get Csr.SATP = cpu.csrs.get Csr.SATP := by
  by_cases hsatp : csr.setWidth 32 = Csr.SATP
  · left
    rw [hsatp]
    rfl
  · right
    have hslot : Csr.SATP.setWidth 12 ≠ (csr.setWidth 32 : U32).setWidth 12 := by
      intro h
      have hcsr : (csr.setWidth 32 : U32).setWidth 12 = csr := by simp
      rw [hcsr] at h
      exact hsatp (h ▸ rfl)
    unfold Trap.csrWrite
    split
    · exact ⟨rfl, rfl⟩
    · refine ⟨rfl, ?_⟩
      cases halias : Trap.aliasedTarget (csr.setWidth 32) with
      | none => exact Csrs.get_insert_ne _ _ hslot
      | some target => exact Csrs.get_insert_ne _ _ (aliasedTarget_ne_satp halias)

omit [Host] in
theorem Inv.of_same_tlb {s : Traced} (h : s.Inv) {m : Machine}
    (tlb : m.cpu.tlb = s.machine.cpu.tlb)
    (satp : m.cpu.csrs.get Csr.SATP = s.machine.cpu.csrs.get Csr.SATP) :
    Inv ⟨m, s.trails⟩ := by
  rw [Inv] at h ⊢
  rwa [tlb, satp]

theorem execute_sfenceVma (rs1 rs2 : BitVec 5) (m : Machine) :
    (finish (Machine.execute (sfenceVma rs1 rs2) m)).cpu.tlb = m.cpu.tlb.flush := by
  simp only [Machine.execute, Execute.execute, Execute.executeFrom, Execute.executeSystem,
    sfenceVma,
    Encoding.new_rType]
  rfl

/-- A step keeps the invariant. -/
theorem Step.inv {s t : Traced} (step : Step s t) (h : s.Inv) : t.Inv := by
  cases step with
  | translate va access => exact inv_translate s va access h
  | csrWrite csr value =>
      rcases csrWrite_cases s.machine.cpu csr value with htlb | ⟨htlb, hsatp⟩
      · apply inv_of_empty
        intro i
        rw [htlb, cached_flush]
      · exact h.of_same_tlb htlb hsatp
  | sfenceVma rs1 rs2 =>
      apply inv_of_empty
      intro i
      rw [execute_sfenceVma, cached_flush]
  | other m tlb satp => exact h.of_same_tlb tlb satp

/-- The invariant holds in every state reached from an empty TLB. -/
theorem inv_of_run {s₀ s : Traced} (empty : s₀.machine.cpu.tlb = .new)
    (run : Relation.ReflTransGen Step s₀ s) : s.Inv := by
  induction run with
  | refl =>
      apply inv_of_empty
      intro i
      rw [empty, cached_new]
  | tail _ step ih => exact step.inv ih

/-- A confirmed entry is what a walk of its page finds now. -/
theorem Inv.page {s : Traced} (h : s.Inv) {i : BitVec 8} (unmodified : s.Unmodified i)
    {vpn ppn perm : U64} (hentry : cached s.machine.cpu.tlb i = some (vpn, ppn, perm)) :
    (pageQuery (s.machine.cpu.csrs.get Csr.SATP) vpn).run (readPte s.machine.bus) =
      some (ppn, perm) := by
  refine Recorded.run_eq h hentry (unmodified ?_)
  unfold cached at hentry
  grind

theorem outcome_walk {satp va ppn perm : U64} {bus : Bus}
    (h : (pageQuery satp (va >>> 12)).run (readPte bus) = some (ppn, perm)) (access : Access) :
    outcome (walk satp va access bus) =
      if perm &&& required access = 0 then .err else .ok (ppn, perm) := by
  have hwalk := walk_of_page h access
  by_cases hp : perm &&& required access = 0
  · rw [if_pos hp] at hwalk ⊢
    obtain ⟨e, hwalk⟩ := hwalk
    rw [hwalk]
    rfl
  · rw [if_neg hp] at hwalk ⊢
    rw [hwalk]
    rfl

/-- With every valid entry confirmed, the TLB cannot be observed. -/
theorem Inv.translate_eq {s : Traced} (h : s.Inv) (unmodified : ∀ i, s.Unmodified i) (va : U64)
    (access : Access) :
    outcome (translate va access s.machine) = outcome (translateUncached va access s.machine) := by
  by_cases hbare : s.machine.cpu.csrs.get Csr.SATP >>> 60 = MODE_BARE
  · rw [translate_bare hbare, translateUncached_bare hbare]
  by_cases hmode : s.machine.cpu.csrs.get Csr.SATP >>> 60 = MODE_SV39
  · rw [translateUncached_sv39 hmode]
    cases hlookup : s.machine.cpu.tlb.lookup (va >>> 12) with
    | none =>
        rw [translate_miss hmode hlookup]
        cases walk (s.machine.cpu.csrs.get Csr.SATP) va access s.machine.bus with
        | ok page bus => rfl
        | error e bus => rfl
    | some page =>
        obtain ⟨ppn, perm⟩ := page
        have hpage := h.page (unmodified _) (cached_of_lookup hlookup)
        have hwalk := walk_of_page hpage access
        rw [translate_hit hmode hlookup]
        by_cases hp : perm &&& required access = 0
        · rw [if_pos hp] at hwalk ⊢
          obtain ⟨e, hwalk⟩ := hwalk
          rw [hwalk]
          rfl
        · rw [if_neg hp] at hwalk ⊢
          rw [hwalk]
  · rw [translate_unsupported hbare hmode]

/-- In every state reached from an empty TLB, a valid entry whose page table entries are
unmodified agrees with a walk for every address of its page and every access; and if that
covers all valid entries, then `translate` has the outcome of the walk. -/
theorem tlb_transparent {s₀ s : Traced} (empty : s₀.machine.cpu.tlb = .new)
    (run : Relation.ReflTransGen Step s₀ s) :
    (∀ i, (s.machine.cpu.tlb.entries i).valid = true → s.Unmodified i →
      ∀ (va : U64) (access : Access), va >>> 12 = (s.machine.cpu.tlb.entries i).vpn →
        outcome (walk (s.machine.cpu.csrs.get Csr.SATP) va access s.machine.bus) =
          if (s.machine.cpu.tlb.entries i).perm &&& required access = 0 then .err
          else .ok ((s.machine.cpu.tlb.entries i).ppn, (s.machine.cpu.tlb.entries i).perm)) ∧
    ((∀ i, s.Unmodified i) → ∀ (va : U64) (access : Access),
      outcome (translate va access s.machine) =
        outcome (translateUncached va access s.machine)) := by
  have h := inv_of_run empty run
  refine ⟨?_, fun unmodified va access => h.translate_eq unmodified va access⟩
  intro i hvalid unmodified va access hva
  have hentry : cached s.machine.cpu.tlb i =
      some ((s.machine.cpu.tlb.entries i).vpn, (s.machine.cpu.tlb.entries i).ppn,
        (s.machine.cpu.tlb.entries i).perm) := by
    simp only [cached, hvalid, if_true]
  have hpage := h.page unmodified hentry
  rw [← hva] at hpage
  exact outcome_walk hpage access

omit [Host] in
/-- Paging is on, and the table at 0 maps the first gigabyte to itself, read-only. -/
def gigapage : Machine :=
  { cpu := { Cpu.new 0 with csrs := Csrs.new.insert Csr.SATP 0x8000000000000000 }
    bus := { Bus.new .detached with ram := ⟨[3, 0, 0, 0, 0, 0, 0, 0]⟩, ramRange := ⟨0, 8⟩ } }

omit [Host] in
/-- After a read has filled the slot, a write in the same 4 KiB is refused with and
without the TLB. -/
theorem tlb_transparent_gigapage :
    let m := finish (@translate .dev 0x12345 .R gigapage)
    m.cpu.tlb.lookup 0x12 = some (0x12, PTE_R) ∧
      outcome (@translate .dev 0x12ff0 .W m) = outcome (@translateUncached .dev 0x12ff0 .W m) := by
  let : Host := .dev
  have hpage : (pageQuery (gigapage.cpu.csrs.get Csr.SATP) ((0x12345 : U64) >>> 12)).run
      (readPte gigapage.bus) = some (0x12, PTE_R) := by decide
  have hwalk := walk_of_page hpage .R
  rw [if_neg (by decide)] at hwalk
  have hmode : gigapage.cpu.csrs.get Csr.SATP >>> 60 = MODE_SV39 := by decide
  have hmiss : gigapage.cpu.tlb.lookup ((0x12345 : U64) >>> 12) = none := by decide
  have hfill := translate_fill hmode hmiss hwalk
  intro m
  have hm : m = { gigapage with cpu.tlb := gigapage.cpu.tlb.insert 0x12 0x12 PTE_R } := by
    change finish (translate 0x12345 .R gigapage) = _
    rw [hfill]
    rfl
  refine ⟨by rw [hm]; rfl, ?_⟩
  let s₀ : Traced := ⟨gigapage, fun _ => []⟩
  have run : Relation.ReflTransGen Step s₀ ⟨m, s₀.trailsAfter 0x12345 .R⟩ :=
    .single (Step.translate s₀ 0x12345 .R)
  refine (tlb_transparent rfl run).2 ?_ _ _
  intro i hvalid
  have hi : i = Tlb.slot 0x12 := by
    by_cases hi : i = Tlb.slot 0x12
    · exact hi
    · rw [hm] at hvalid
      change TlbEntry.valid (if i = Tlb.slot 0x12 then _ else _) = true at hvalid
      rw [if_neg hi] at hvalid
      cases hvalid
  have htrail : s₀.trailsAfter 0x12345 .R i =
      (pageQuery (gigapage.cpu.csrs.get Csr.SATP) 0x12).trail (readPte gigapage.bus) := by
    rw [trailsAfter_fill (s := s₀) hmode hmiss hwalk, hi]
    exact update_same _ _ _
  change Confirms (readPte m.bus) (s₀.trailsAfter 0x12345 .R i)
  rw [htrail, hm]
  exact Query.confirms_trail _ _

end Traced

end Mmu

end Riscvm.Rv64rs
