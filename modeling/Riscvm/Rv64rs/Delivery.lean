import Mathlib.Data.List.Find
import Riscvm.Rv64rs.Harts
import Riscvm.Rv64rs.PlicClaims

/-!
# Interrupt delivery below M-mode

`checkInterrupt` takes the hardware-driven bits of `mip` over from the CLINT and the PLIC and
then looks for an interrupt to take. Here both halves are described without the loops: a bit
by the registers of its device, and the interrupt by what the privileged architecture asks of
it in U-mode and S-mode.
-/

namespace Riscvm.Rv64rs

open Bits Exec Machine

namespace Plic

/-- Some irq of the context is pending, enabled and above the threshold. -/
def Claimable (plic : Plic) (level : IrqLine → U32) (context : U64) : Prop :=
  ∃ irq : Fin 32, irq ≠ 0 ∧ (plic.Pending level irq.val ∧
    (plic.enableGet context).getLsbD irq.val) ∧
    plic.thresholdGet context < plic.priority irq

theorem claimable_eq [Host] {σ : Type} {plic : Plic} (registered : plic.Registered)
    (level : IrqLine → U32) (context : U64) :
    ∃ b : Bool, (plic.claimable (fun line => pure (level line)) context : Call σ Bool) = pure b ∧
      (b = true ↔ plic.Claimable level context) := by
  obtain ⟨best, hclaim, houtcome⟩ := claimIrq_outcome (σ := σ) registered level context
  refine ⟨best.1 != 0, by rw [claimable, hclaim, pure_bind], ?_⟩
  cases houtcome with
  | unchanged below =>
      constructor
      · exact fun h => absurd h Bool.false_ne_true
      · rintro ⟨irq, hirq, eligible, above⟩
        exact absurd (below irq (mem_irqs.mpr hirq) eligible) (Std.not_le.mpr above)
  | winner i wins =>
      have hi : i ≠ 0 := mem_irqs.mp wins.mem
      constructor
      · exact fun _ => ⟨i, hi, wins.requests, wins.above⟩
      · intro _
        rw [bne_iff_ne]
        exact fun h => hi (irq_of_ofNat_eq (j := 0) h)

end Plic

namespace Trap

/-- The hart's S-mode context. -/
def contextS (cpu : Cpu) : U64 := 2 * cpu.hartid + 1

/-- The devices that the hart holds know it: the CLINT has a timer for it, the number of its
S-mode context is a number, and the PLIC has a bit for every irq. -/
structure Attached (m : Machine) : Prop where
  timer : m.cpu.clint → m.cpu.hartid.toNat < m.bus.dev.clint.mtimecmp.length
  context : m.cpu.plic → 2 * m.cpu.hartid.toNat + 1 < 2 ^ 64
  registered : m.cpu.plic → m.bus.dev.plic.Registered

/-- `mtime` has reached the hart's `mtimecmp`. -/
def TimerDue (m : Machine) : Prop :=
  ∃ mtimecmp, m.bus.dev.clint.mtimecmp[m.cpu.hartid.toNat]? = some mtimecmp ∧
    mtimecmp ≤ m.bus.dev.clint.mtime

/-- The hart's S-mode context has a claimable irq. -/
def ExternalDue (m : Machine) : Prop :=
  m.bus.dev.plic.Claimable m.bus.dev.level (contextS m.cpu)

/-- `mip` with MTIP and SEIP as the devices of the hart drive them. -/
structure Lines (m : Machine) (mip : U64) : Prop where
  mtip : m.cpu.clint → (mip.getLsbD 7 ↔ TimerDue m)
  seip : m.cpu.plic → (mip.getLsbD 9 ↔ ExternalDue m)
  others : ∀ i, ¬(i = 7 ∧ m.cpu.clint) → ¬(i = 9 ∧ m.cpu.plic) →
    mip.getLsbD i = (m.cpu.csrs.get Csr.MIP).getLsbD i

theorem getLsbD_drive {mip : U64} {i j : Nat} (hi : i < 64) (level : Bool) :
    (if level then mip ||| bit i else mip &&& ~~~bit i).getLsbD j =
      if j = i then level else mip.getLsbD j := by
  by_cases hj : j < 64
  · rw [BitVec.getLsbD_eq_getElem hj, BitVec.getLsbD_eq_getElem hj]
    cases level with
    | true =>
        rw [if_pos rfl, getElem_set]
        by_cases h : j = i <;> simp [h]
    | false =>
        rw [if_neg Bool.false_ne_true, getElem_clear]
        by_cases h : j = i <;> simp [h]
  · have hne : j ≠ i := by omega
    rw [BitVec.getLsbD_of_ge _ _ (by omega), if_neg hne, BitVec.getLsbD_of_ge _ _ (by omega)]

theorem pending_eq {m : Machine} (known : m.cpu.hartid.toNat < m.bus.dev.clint.mtimecmp.length) :
    ∃ b : Bool, (m.bus.dev.clint.pending m.cpu.hartid.toNat : Call Machine Bool) = pure b ∧
      (b = true ↔ TimerDue m) := by
  refine ⟨_, by rw [Clint.pending, index_of_lt known, pure_bind], ?_⟩
  unfold TimerDue
  rw [List.getElem?_eq_getElem known, decide_eq_true_iff]
  constructor
  · exact fun h => ⟨_, rfl, h⟩
  · rintro ⟨mtimecmp, hsome, h⟩
    rwa [Option.some.inj hsome]

variable [Host]

theorem context_eq {hartid : U64} (small : 2 * hartid.toNat + 1 < 2 ^ 64) :
    (do add (← mul 2 hartid) 1 : Call Machine U64) = pure (2 * hartid + 1) := by
  have h2 : (2 : U64).toNat = 2 := rfl
  have h1 : (1 : U64).toNat = 1 := rfl
  have hmul : (2 * hartid).toNat = 2 * hartid.toNat := by
    rw [BitVec.toNat_mul, h2, Nat.mod_eq_of_lt (by omega)]
  rw [mul_of_lt (by rw [h2]; omega), pure_bind, add_of_lt (by omega)]

omit [Host] in
/-- The first half of the sampling. -/
theorem sample_mtip {m : Machine} (attached : Attached m) (mip : U64) :
    ∃ mip' : U64, (∀ f : U64 → Call Machine U64,
        (if m.cpu.clint = true then do
          let pending ← m.bus.dev.clint.pending m.cpu.hartid.toNat
          let mip ← pure (if pending then mip ||| MIP_MTIP else mip &&& ~~~MIP_MTIP)
          f mip
        else do
          let mip ← pure mip
          f mip) = f mip') ∧
      (m.cpu.clint → (mip'.getLsbD 7 ↔ TimerDue m)) ∧
      ∀ i, ¬(i = 7 ∧ m.cpu.clint) → mip'.getLsbD i = mip.getLsbD i := by
  by_cases hclint : m.cpu.clint = true
  · obtain ⟨due, hpending, hdue⟩ := pending_eq (attached.timer hclint)
    refine ⟨if due then mip ||| MIP_MTIP else mip &&& ~~~MIP_MTIP, fun f => ?_, fun _ => ?_,
      fun i hi => ?_⟩
    · rw [if_pos hclint, hpending, pure_bind, pure_bind]
    · rw [MIP_MTIP, getLsbD_drive (by decide), if_pos rfl]
      exact hdue
    · rw [MIP_MTIP, getLsbD_drive (by decide), if_neg fun h => hi ⟨h, hclint⟩]
  · exact ⟨mip, fun f => by rw [if_neg hclint, pure_bind], fun h => absurd h hclint, fun _ _ => rfl⟩

/-- The second half. -/
theorem sample_seip {m : Machine} (attached : Attached m) (mip : U64) :
    ∃ mip' : U64, (if m.cpu.plic = true then do
          let context ← add (← mul 2 m.cpu.hartid) 1
          let claimable ← m.bus.dev.plic.claimable (Bus.lineStatus m.bus.dev false) context
          pure (if claimable then mip ||| MIP_SEIP else mip &&& ~~~MIP_SEIP)
        else pure mip : Call Machine U64) = pure mip' ∧
      (m.cpu.plic → (mip'.getLsbD 9 ↔ ExternalDue m)) ∧
      ∀ i, ¬(i = 9 ∧ m.cpu.plic) → mip'.getLsbD i = mip.getLsbD i := by
  by_cases hplic : m.cpu.plic = true
  · obtain ⟨due, hclaimable, hdue⟩ := Plic.claimable_eq (σ := Machine) (attached.registered hplic)
      m.bus.dev.level (contextS m.cpu)
    refine ⟨if due then mip ||| MIP_SEIP else mip &&& ~~~MIP_SEIP, ?_, fun _ => ?_, fun i hi => ?_⟩
    · rw [if_pos hplic, ← bind_assoc, context_eq (attached.context hplic), pure_bind,
        Devices.lineStatus_false]
      exact congrArg (· >>= _) hclaimable
    · rw [MIP_SEIP, getLsbD_drive (by decide), if_pos rfl]
      exact hdue
    · rw [MIP_SEIP, getLsbD_drive (by decide), if_neg fun h => hi ⟨h, hplic⟩]
  · exact ⟨mip, by rw [if_neg hplic], fun h => absurd h hplic, fun _ _ => rfl⟩

/-- Sampling succeeds, changes nothing, and takes the lines over. -/
theorem sampleMip_lines {m : Machine} (attached : Attached m) :
    ∃ mip, sampleMip m = .ok mip m ∧ Lines m mip := by
  obtain ⟨mip₁, htimer, hmtip, hkept₁⟩ := sample_mtip attached (m.cpu.csrs.get Csr.MIP)
  obtain ⟨mip₂, hexternal, hseip, hkept₂⟩ := sample_seip attached mip₁
  refine ⟨mip₂, ?_, ⟨fun hclint => ?_, hseip, fun i h7 h9 => ?_⟩⟩
  · rw [sampleMip, get_bind_apply]
    exact congrFun ((htimer _).trans hexternal) m
  · rw [hkept₂ 7 (by omega)]
    exact hmtip hclint
  · rw [hkept₂ i h9, hkept₁ i h7]

/-- The order in which simultaneous interrupts are looked at. -/
def deliveryOrder : List U64 := [11, 3, 7, 9, 1, 5]

/-- `cause` is delegated to S-mode. The causes of M-mode never are. -/
def DelegatedToS (cpu : Cpu) (cause : U64) : Prop :=
  cause ≠ 3 ∧ cause ≠ 7 ∧ cause ≠ 11 ∧ (cpu.csrs.get Csr.MIDELEG).getLsbD cause.toNat = true

instance (cpu : Cpu) (cause : U64) : Decidable (DelegatedToS cpu cause) :=
  inferInstanceAs (Decidable (_ ∧ _))

/-- Below M-mode `cause` can be taken: it is pending and enabled, and either it is not
delegated or the hart is in U-mode or SIE is set. -/
def Takeable (cpu : Cpu) (mip cause : U64) : Prop :=
  (mip.getLsbD cause.toNat = true ∧ (cpu.csrs.get Csr.MIE).getLsbD cause.toNat = true) ∧
    (¬DelegatedToS cpu cause ∨ cpu.mode = PRIV_U ∨
      cpu.mode = PRIV_S ∧ (cpu.csrs.get Csr.MSTATUS).getLsbD 1 = true)

instance (cpu : Cpu) (mip cause : U64) : Decidable (Takeable cpu mip cause) :=
  inferInstanceAs (Decidable ((_ ∧ _) ∧ (_ ∨ _ ∨ _ ∧ _)))

/-- The hart `cpu'` has entered `mode` from `cpu` through the vector in `tvec`. -/
structure Entered (cpu cpu' : Cpu) (mode : U8) (tvec epc causeReg tval : U32) (cause : U64) :
    Prop where
  mode : cpu'.mode = mode
  pc : cpu'.pc = cpu.csrs.get tvec &&& ~~~0b11
  epc : cpu'.csrs.get epc = cpu.pc
  cause : cpu'.csrs.get causeReg = cause ||| bit 63
  tval : cpu'.csrs.get tval = 0

/-- The hart has taken `cause` at the level it is meant for. -/
def Delivered (cpu cpu' : Cpu) (cause : U64) : Prop :=
  if DelegatedToS cpu cause then
    Entered cpu cpu' PRIV_S Csr.STVEC Csr.SEPC Csr.SCAUSE Csr.STVAL cause
  else Entered cpu cpu' PRIV_M Csr.MTVEC Csr.MEPC Csr.MCAUSE Csr.MTVAL cause

omit [Host] in
/-- Both places of the source that decide on delegation decide the same, the architecture's
way. -/
theorem delegated_iff {cpu : Cpu} (below : cpu.mode ≠ PRIV_M) (mip : U64) {cause : U64}
    (mem : cause ∈ PRIORITY) : Delegated (withMip cpu mip) cause true ↔ DelegatedToS cpu cause := by
  have hmideleg : (withMip cpu mip).csrs.get Csr.MIDELEG = cpu.csrs.get Csr.MIDELEG :=
    Csrs.get_insert_ne _ _ (by decide)
  have hmode : (withMip cpu mip).mode ≠ PRIV_M := below
  have hmask : MIDELEG_DELEGATABLE_MASK.getLsbD cause.toNat =
      decide (cause ≠ 3 ∧ cause ≠ 7 ∧ cause ≠ 11) := by
    obtain rfl | rfl | rfl | rfl | rfl | rfl := mem_priority mem <;> decide
  unfold Delegated DelegatedToS delegation
  rw [if_pos rfl, hmideleg, BitVec.getLsbD_and, hmask, Bool.and_eq_true, decide_eq_true_iff]
  constructor
  · rintro ⟨-, hbit, h3, h7, h11⟩
    exact ⟨h3, h7, h11, hbit⟩
  · rintro ⟨h3, h7, h11, hbit⟩
    exact ⟨hmode, hbit, h3, h7, h11⟩

omit [Host] in
theorem candidate_iff {cpu : Cpu} (below : cpu.mode = PRIV_U ∨ cpu.mode = PRIV_S) (mip : U64)
    {cause : U64} (mem : cause ∈ PRIORITY) :
    Candidate (mip &&& cpu.csrs.get Csr.MIE) (cpu.csrs.get Csr.MSTATUS) (withMip cpu mip) cause ↔
      Takeable cpu mip cause := by
  have hbelow : cpu.mode ≠ PRIV_M := by
    obtain h | h := below <;> rw [h] <;> decide
  have hmode : (withMip cpu mip).mode = cpu.mode := rfl
  unfold Candidate Takeable
  rw [BitVec.getLsbD_and, Bool.and_eq_true, delegated_iff hbelow mip mem, hmode, MSTATUS_SIE,
    and_bit_ne_zero]
  refine and_congr_right fun _ => ⟨fun h => ?_, fun h => ⟨fun hd hs => ?_, fun _ hm => ?_⟩⟩
  · have hsie := h.1
    by_cases hd : DelegatedToS cpu cause
    · exact .inr (below.imp_right fun hs => ⟨hs, hsie hd hs⟩)
    · exact .inl hd
  · obtain hnot | hu | ⟨-, hsie⟩ := h
    · exact absurd hd hnot
    · rw [hs] at hu
      exact absurd hu (by decide)
    · exact hsie
  · exact absurd hm hbelow

omit [Host] in
/-- The loop of the source finds the first interrupt that can be taken. -/
theorem firstCandidate_eq {cpu : Cpu} (below : cpu.mode = PRIV_U ∨ cpu.mode = PRIV_S) (mip : U64) :
    firstCandidate (mip &&& cpu.csrs.get Csr.MIE) (cpu.csrs.get Csr.MSTATUS) (withMip cpu mip)
      PRIORITY = deliveryOrder.find? fun c => decide (Takeable cpu mip c) := by
  refine List.find?_congr fun cause mem => ?_
  exact decide_eq_decide.mpr (candidate_iff below mip mem)

omit [Host] in
theorem delivered_interrupted {cpu : Cpu} (below : cpu.mode ≠ PRIV_M) (mip : U64) {cause : U64}
    (mem : cause ∈ PRIORITY) : Delivered cpu (interrupted (withMip cpu mip) cause) cause := by
  have hget (addr : U32) (h : addr.setWidth 12 ≠ Csr.MIP.setWidth 12) :
      (withMip cpu mip).csrs.get addr = cpu.csrs.get addr := Csrs.get_insert_ne _ _ h
  unfold Delivered interrupted
  by_cases hd : DelegatedToS cpu cause
  · rw [if_pos hd, if_pos ((delegated_iff below mip mem).mpr hd)]
    exact ⟨rfl, by rw [← hget _ (by decide)], takenS_get .., takenS_get .., takenS_get ..⟩
  · rw [if_neg hd, if_neg fun h => hd ((delegated_iff below mip mem).mp h)]
    exact ⟨rfl, by rw [← hget _ (by decide)], takenM_get .., takenM_get .., takenM_get ..⟩

omit [Host] in
theorem mip_interrupted (cpu : Cpu) (mip cause : U64) :
    (interrupted (withMip cpu mip) cause).csrs.get Csr.MIP = mip := by
  unfold interrupted
  split
  · exact (takenS_get ..).trans (Csrs.get_insert_same ..)
  · exact (takenM_get ..).trans (Csrs.get_insert_same ..)

omit [Host] in
theorem takeable_of_first {cpu : Cpu} {mip cause : U64}
    (h : deliveryOrder.find? (fun c => decide (Takeable cpu mip c)) = some cause) :
    Takeable cpu mip cause := by
  have hcause := List.find?_some h
  exact of_decide_eq_true hcause

/-- Below M-mode `checkInterrupt` takes over the lines and delivers the first interrupt that
can be taken, at its level; if there is none it changes nothing but `mip`. -/
theorem checkInterrupt_below_m (m : Machine) (attached : Attached m)
    (below : m.cpu.mode = PRIV_U ∨ m.cpu.mode = PRIV_S) :
    ∃ mip taken m', checkInterrupt m = .ok taken m' ∧ Lines m mip ∧
      m'.bus = m.bus ∧ m'.cpu.csrs.get Csr.MIP = mip ∧
      (taken = true ↔ ∃ cause ∈ deliveryOrder, Takeable m.cpu mip cause) ∧
      (taken = true → ∃ cause,
        deliveryOrder.find? (fun c => decide (Takeable m.cpu mip c)) = some cause ∧
        Delivered m.cpu m'.cpu cause) ∧
      (taken = false → m' = { m with cpu := withMip m.cpu mip }) := by
  have hbelow : m.cpu.mode ≠ PRIV_M := by
    obtain h | h := below <;> rw [h] <;> decide
  obtain ⟨mip, hsample, lines⟩ := sampleMip_lines attached
  have hcheck := checkInterrupt_apply hsample
  rw [firstCandidate_eq below] at hcheck
  cases hfirst : deliveryOrder.find? fun c => decide (Takeable m.cpu mip c) with
  | none =>
      rw [hfirst] at hcheck
      refine ⟨mip, false, _, hcheck, lines, rfl, Csrs.get_insert_same .., ?_, ?_, fun _ => rfl⟩
      · refine ⟨fun h => absurd h Bool.false_ne_true, fun ⟨cause, mem, takeable⟩ => ?_⟩
        have hnot := List.find?_eq_none.mp hfirst cause mem
        exact absurd (decide_eq_true takeable) hnot
      · exact fun h => absurd h Bool.false_ne_true
  | some cause =>
      rw [hfirst] at hcheck
      have mem : cause ∈ deliveryOrder := List.mem_of_find?_eq_some hfirst
      have takeable : Takeable m.cpu mip cause := takeable_of_first hfirst
      refine ⟨mip, true, _, hcheck, lines, rfl, mip_interrupted _ _ _, ?_, ?_, ?_⟩
      · exact ⟨fun _ => ⟨cause, mem, takeable⟩, fun _ => rfl⟩
      · exact fun _ => ⟨cause, hfirst, delivered_interrupted hbelow mip mem⟩
      · exact fun h => absurd h.symm Bool.false_ne_true

/-- A hart in U-mode whose timer is due and whose timer interrupt is enabled and, in
`mideleg`, delegated. -/
def timerDue : Machine where
  cpu := { Cpu.new 0 with
    mode := PRIV_U, clint := true
    csrs := ((Csrs.new.insert Csr.MIE 0x80).insert Csr.MIDELEG 0xffff).insert Csr.MTVEC 0x100 }
  bus := .new { Devices.detached with clint := { Clint.new 0x10000 1 with mtimecmp := [0] } }

omit [Host] in
theorem attached_timerDue : Attached timerDue :=
  ⟨fun _ => by decide, fun h => absurd h Bool.false_ne_true, fun h => absurd h Bool.false_ne_true⟩

omit [Host] in
/-- The timer interrupt goes to M-mode. -/
theorem checkInterrupt_below_m_timerDue :
    ∃ m', @checkInterrupt .dev timerDue = .ok true m' ∧
      Entered timerDue.cpu m'.cpu PRIV_M Csr.MTVEC Csr.MEPC Csr.MCAUSE Csr.MTVAL 7 := by
  obtain ⟨mip, taken, m', hcheck, lines, -, -, hiff, htaken, -⟩ :=
    @checkInterrupt_below_m .dev timerDue attached_timerDue (.inl rfl)
  have hmtip : mip.getLsbD 7 = true := (lines.mtip rfl).mpr ⟨0, rfl, by decide⟩
  have htrue : taken = true := hiff.mpr ⟨7, by decide, ⟨hmtip, by decide⟩, .inr (.inl rfl)⟩
  obtain ⟨cause, hfirst, delivered⟩ := htaken htrue
  have hseven : cause = 7 := by
    have henabled := (takeable_of_first hfirst).1.2
    have hmem : cause ∈ PRIORITY := List.mem_of_find?_eq_some hfirst
    revert henabled
    obtain rfl | rfl | rfl | rfl | rfl | rfl := mem_priority hmem <;> decide
  subst hseven htrue
  exact ⟨m', hcheck, delivered⟩

end Trap

end Riscvm.Rv64rs
