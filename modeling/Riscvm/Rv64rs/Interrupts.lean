import Riscvm.Rv64rs.TrapReturn

/-!
# Which interrupt is taken

The loop over `PRIORITY` is a search for the first cause that passes the source's
tests. The privileged architecture asks for more: an interrupt whose `mideleg` bit
is set is never taken in M-mode, and interrupts destined to M-mode come first.
The two agree except where a delegated cause is found ahead of the rest.
-/

namespace Riscvm.Rv64rs

open Bits Exec Machine

namespace Trap

/-- The tests of the loop: `cause` is pending and enabled, and neither enable bit
holds it back. -/
def Candidate (pendingEnabled mstatus : U64) (cpu : Cpu) (cause : U64) : Prop :=
  pendingEnabled.getLsbD cause.toNat = true ∧
    (Delegated cpu cause true → cpu.mode = PRIV_S → mstatus &&& MSTATUS_SIE ≠ 0) ∧
    (¬Delegated cpu cause true → cpu.mode = PRIV_M → mstatus &&& MSTATUS_MIE ≠ 0)

instance (pendingEnabled mstatus : U64) (cpu : Cpu) (cause : U64) :
    Decidable (Candidate pendingEnabled mstatus cpu cause) :=
  inferInstanceAs (Decidable (_ ∧ (_ → _ → _) ∧ (_ → _ → _)))

/-- The first candidate among `causes`. -/
def firstCandidate (pendingEnabled mstatus : U64) (cpu : Cpu) (causes : List U64) : Option U64 :=
  causes.find? fun cause => decide (Candidate pendingEnabled mstatus cpu cause)

theorem firstCandidate_cons (pendingEnabled mstatus : U64) (cpu : Cpu) (cause : U64)
    (causes : List U64) :
    firstCandidate pendingEnabled mstatus cpu (cause :: causes) =
      if Candidate pendingEnabled mstatus cpu cause then some cause
      else firstCandidate pendingEnabled mstatus cpu causes := by
  rw [firstCandidate, List.find?_cons]
  by_cases h : Candidate pendingEnabled mstatus cpu cause
  · rw [if_pos h, decide_eq_true h]
  · rw [if_neg h, decide_eq_false h]
    rfl

theorem firstCandidate_some {pendingEnabled mstatus : U64} {cpu : Cpu} {causes : List U64}
    {cause : U64} (h : firstCandidate pendingEnabled mstatus cpu causes = some cause) :
    cause ∈ causes ∧ Candidate pendingEnabled mstatus cpu cause := by
  refine ⟨List.mem_of_find?_eq_some h, ?_⟩
  have hp := List.find?_some h
  exact of_decide_eq_true hp

/-- The hart after taking interrupt `cause`. -/
def interrupted (cpu : Cpu) (cause : U64) : Cpu :=
  if Delegated cpu cause true then
    { takenS cpu (causeValue cause true) 0 with pc := cpu.csrs.get Csr.STVEC &&& ~~~0b11 }
  else
    { takenM cpu (causeValue cause true) 0 with pc := cpu.csrs.get Csr.MTVEC &&& ~~~0b11 }

/-- The hart with the sampled lines in `mip`. -/
def withMip (cpu : Cpu) (mip : U64) : Cpu :=
  { cpu with csrs := cpu.csrs.insert Csr.MIP mip }

theorem mem_priority {cause : U64} (h : cause ∈ PRIORITY) :
    cause = 11 ∨ cause = 3 ∨ cause = 7 ∨ cause = 9 ∨ cause = 1 ∨ cause = 5 := by
  simp only [PRIORITY, List.mem_cons, List.not_mem_nil, or_false] at h
  exact h

theorem priority_lt {cause : U64} (h : cause ∈ PRIORITY) : cause.toNat < 64 := by
  rcases mem_priority h with rfl | rfl | rfl | rfl | rfl | rfl <;> decide

section Search

variable [Host]

/-- The loop takes the first candidate. -/
theorem deliverFirst_apply (pendingEnabled mstatus : U64) (causes : List U64)
    (small : ∀ cause ∈ causes, cause.toNat < 64) (m : Machine) :
    deliverFirst pendingEnabled mstatus causes m =
      match firstCandidate pendingEnabled mstatus m.cpu causes with
      | some cause => .ok true { m with cpu := interrupted m.cpu cause }
      | none => .ok false m := by
  induction causes with
  | nil => rfl
  | cons cause causes ih =>
      have ih := ih fun c hc => small c (List.mem_cons_of_mem _ hc)
      have hsmall := small cause List.mem_cons_self
      have hdelegated :
          (m.cpu.mode ≠ PRIV_M ∧ (delegation m.cpu true >>> cause.toNat) &&& 1 ≠ 0) ↔
            Delegated m.cpu cause true :=
        and_congr_right fun _ => ushiftRight_and_one_ne_zero
      by_cases hc : Candidate pendingEnabled mstatus m.cpu cause
      · obtain ⟨hpending, hs, hm⟩ := hc
        rw [firstCandidate_cons, if_pos ⟨hpending, hs, hm⟩, deliverFirst,
          if_neg (and_bit_ne_zero.mpr hpending), get_bind_apply]
        simp only [hdelegated]
        rw [if_neg fun h => hs h.1 h.2.1 h.2.2, if_neg fun h => hm h.1 h.2.1 h.2.2]
        have htrap := raiseTrap_apply m.cpu hsmall true 0
        unfold interrupted
        by_cases hd : Delegated m.cpu cause true
        · rw [if_pos hd] at htrap
          rw [bind_ok (onCpu_ok htrap), if_pos hd]
          rfl
        · rw [if_neg hd] at htrap
          rw [bind_ok (onCpu_ok htrap), if_neg hd]
          rfl
      · rw [firstCandidate_cons, if_neg hc, ← ih, deliverFirst]
        by_cases hpending : pendingEnabled &&& bit cause.toNat = 0
        · rw [if_pos hpending]
        · rw [if_neg hpending, get_bind_apply]
          simp only [hdelegated]
          by_cases hskipS : Delegated m.cpu cause true ∧ m.cpu.mode = PRIV_S ∧
              mstatus &&& MSTATUS_SIE = 0
          · rw [if_pos hskipS]
          · have hskipM : ¬Delegated m.cpu cause true ∧ m.cpu.mode = PRIV_M ∧
                mstatus &&& MSTATUS_MIE = 0 := by
              refine Decidable.byContradiction fun h => hc ⟨and_bit_ne_zero.mp hpending, ?_, ?_⟩
              · exact fun hd hmode hz => hskipS ⟨hd, hmode, hz⟩
              · exact fun hd hmode hz => h ⟨hd, hmode, hz⟩
            rw [if_neg hskipS, if_pos hskipM]

theorem readOnly_sampleMip : ReadOnly sampleMip := by
  unfold sampleMip
  refine .bind .get fun m => .ite
    (.bind (Clint.readOnly_pending _ _) fun _ => .bind (.pure _) fun mip => ?_)
    (.bind (.pure _) fun mip => ?_)
  all_goals
    refine .ite (.bind (readOnly_mul _ _) fun _ => .bind (readOnly_add _ _) fun context => ?_)
      (.pure _)
    exact .bind (Plic.readOnly_claimable _ (Bus.readOnly_lineStatus _ _) _) fun _ => .pure _

/-- `checkInterrupt` after a successful sampling of the lines. -/
theorem checkInterrupt_apply {m : Machine} {mip : U64} (hs : sampleMip m = .ok mip m) :
    checkInterrupt m =
      match firstCandidate (mip &&& m.cpu.csrs.get Csr.MIE) (m.cpu.csrs.get Csr.MSTATUS)
        (withMip m.cpu mip) PRIORITY with
      | some cause => .ok true { m with cpu := interrupted (withMip m.cpu mip) cause }
      | none => .ok false { m with cpu := withMip m.cpu mip } := by
  rw [checkInterrupt, bind_ok hs, bind_ok (modifyCpu_apply _ m), get_bind_apply]
  change (if mip &&& m.cpu.csrs.get Csr.MIE = 0 then (pure false : Call Machine Bool)
    else deliverFirst (mip &&& m.cpu.csrs.get Csr.MIE) (m.cpu.csrs.get Csr.MSTATUS) PRIORITY)
      { m with cpu := withMip m.cpu mip } = _
  by_cases h : mip &&& m.cpu.csrs.get Csr.MIE = 0
  · rw [if_pos h, h]
    rfl
  · rw [if_neg h, deliverFirst_apply _ _ _ fun _ => priority_lt]

end Search

/-- `cause` is pending in `mip` and enabled in `mie`. -/
def Pending (cpu : Cpu) (mip cause : U64) : Prop :=
  (mip &&& cpu.csrs.get Csr.MIE).getLsbD cause.toNat = true

instance (cpu : Cpu) (mip cause : U64) : Decidable (Pending cpu mip cause) :=
  inferInstanceAs (Decidable (_ = _))

/-- The `mideleg` bit of `cause` is set and can be. -/
def DestinedToS (cpu : Cpu) (cause : U64) : Prop :=
  (delegation cpu true).getLsbD cause.toNat = true

instance (cpu : Cpu) (cause : U64) : Decidable (DestinedToS cpu cause) :=
  inferInstanceAs (Decidable (_ = _))

def EnabledS (cpu : Cpu) : Prop := cpu.csrs.get Csr.MSTATUS &&& MSTATUS_SIE ≠ 0

def EnabledM (cpu : Cpu) : Prop := cpu.csrs.get Csr.MSTATUS &&& MSTATUS_MIE ≠ 0

/-- The privileged architecture's condition for taking `cause`. -/
def Deliverable (cpu : Cpu) (mip cause : U64) : Prop :=
  Pending cpu mip cause ∧
    if DestinedToS cpu cause then cpu.mode = PRIV_U ∨ cpu.mode = PRIV_S ∧ EnabledS cpu
    else cpu.mode ≠ PRIV_M ∨ EnabledM cpu

/-- The cause register of the level the hart is in. -/
def recordedCause (cpu : Cpu) : U64 :=
  if cpu.mode = PRIV_S then cpu.csrs.get Csr.SCAUSE else cpu.csrs.get Csr.MCAUSE

/-- The states in which the code departs from the rule: the first pending cause is
delegated, it is not held back, and either the hart is in M-mode or a cause for
M-mode is pending as well. -/
def DelegatedAhead (cpu : Cpu) (mip : U64) : Prop :=
  ∃ cause, PRIORITY.find? (fun c => decide (Pending cpu mip c)) = some cause ∧
    DestinedToS cpu cause ∧
    (cpu.mode = PRIV_M ∧ EnabledM cpu ∨
      cpu.mode ≠ PRIV_M ∧ (cpu.mode = PRIV_S → EnabledS cpu) ∧
        ∃ other ∈ PRIORITY, Pending cpu mip other ∧ ¬DestinedToS cpu other)

theorem recordedCause_interrupted (cpu : Cpu) (cause : U64) :
    recordedCause (interrupted cpu cause) = causeValue cause true := by
  unfold interrupted recordedCause
  by_cases hd : Delegated cpu cause true
  · rw [if_pos hd]
    change (if PRIV_S = PRIV_S then (takenS cpu _ 0).csrs.get Csr.SCAUSE else _) = _
    rw [if_pos rfl, takenS_get]
    rfl
  · rw [if_neg hd]
    change (if PRIV_M = PRIV_S then _ else (takenM cpu _ 0).csrs.get Csr.MCAUSE) = _
    rw [if_neg (by decide), takenM_get]
    rfl

/-- The recorded cause identifies the interrupt. -/
theorem causeValue_injective {a b : U64} (ha : a ∈ PRIORITY) (hb : b ∈ PRIORITY)
    (h : causeValue a true = causeValue b true) : a = b := by
  revert h
  rcases mem_priority ha with rfl | rfl | rfl | rfl | rfl | rfl <;>
    rcases mem_priority hb with rfl | rfl | rfl | rfl | rfl | rfl <;> decide

variable [Host]

/-- `checkInterrupt` takes interrupt `cause`: it says so, and the level it entered
has recorded that cause. -/
def Takes (m : Machine) (cause : U64) : Prop :=
  ∃ m', checkInterrupt m = .ok true m' ∧ cause ∈ PRIORITY ∧
    recordedCause m'.cpu = causeValue cause true

/-- The destination rule for the interrupts that `checkInterrupt` takes in `m`. -/
structure DestinationRule (m : Machine) : Prop where
  neverDelegatedInM : ∀ cause, Takes m cause → m.cpu.mode = PRIV_M → ¬DestinedToS m.cpu cause
  machineFirst : ∀ cause mip, Takes m cause → sampleMip m = .ok mip m →
    (∃ other ∈ PRIORITY, Deliverable m.cpu mip other ∧ ¬DestinedToS m.cpu other) →
      ¬DestinedToS m.cpu cause

theorem takes_iff {m : Machine} {mip : U64} (hs : sampleMip m = .ok mip m) (cause : U64) :
    Takes m cause ↔
      firstCandidate (mip &&& m.cpu.csrs.get Csr.MIE) (m.cpu.csrs.get Csr.MSTATUS)
        (withMip m.cpu mip) PRIORITY = some cause := by
  unfold Takes
  rw [checkInterrupt_apply hs]
  constructor
  · rintro ⟨m', h, hmem, hcause⟩
    cases hf : firstCandidate (mip &&& m.cpu.csrs.get Csr.MIE) (m.cpu.csrs.get Csr.MSTATUS)
      (withMip m.cpu mip) PRIORITY with
    | none => rw [hf] at h; cases h
    | some taken =>
        rw [hf] at h
        cases h
        rw [recordedCause_interrupted] at hcause
        have htaken : taken ∈ PRIORITY := (firstCandidate_some hf).1
        rw [causeValue_injective htaken hmem hcause]
  · intro hf
    rw [hf]
    exact ⟨_, rfl, (firstCandidate_some hf).1, recordedCause_interrupted _ _⟩

omit [Host] in
/-- Where nothing is held back, the search looks for the first pending cause. -/
theorem firstCandidate_eq_pending {cpu : Cpu} {mip : U64}
    (hS : cpu.mode = PRIV_S → EnabledS cpu) (hM : cpu.mode = PRIV_M → EnabledM cpu) :
    firstCandidate (mip &&& cpu.csrs.get Csr.MIE) (cpu.csrs.get Csr.MSTATUS) (withMip cpu mip)
      PRIORITY = PRIORITY.find? (fun c => decide (Pending cpu mip c)) := by
  have hiff (c : U64) : Candidate (mip &&& cpu.csrs.get Csr.MIE) (cpu.csrs.get Csr.MSTATUS)
      (withMip cpu mip) c ↔ Pending cpu mip c :=
    ⟨fun h => h.1, fun h => ⟨h, fun _ => hS, fun _ => hM⟩⟩
  simp only [firstCandidate, hiff]

/-- With a delegated cause ahead, that cause is taken. -/
theorem not_destinationRule {m : Machine} {mip : U64} (hs : sampleMip m = .ok mip m)
    (ahead : DelegatedAhead m.cpu mip) : ¬DestinationRule m := by
  rintro ⟨neverInM, machineFirst⟩
  obtain ⟨cause, hfirst, hdest, hcase⟩ := ahead
  have htakes (hS : m.cpu.mode = PRIV_S → EnabledS m.cpu)
      (hM : m.cpu.mode = PRIV_M → EnabledM m.cpu) : Takes m cause := by
    rw [takes_iff hs, firstCandidate_eq_pending hS hM]
    exact hfirst
  rcases hcase with ⟨hm, hen⟩ | ⟨hm, hS, other, hother, hpending, hfree⟩
  · have hS : m.cpu.mode = PRIV_S → EnabledS m.cpu := by
      rw [hm]
      exact fun h => absurd h (by decide)
    exact neverInM cause (htakes hS fun _ => hen) hm hdest
  · refine machineFirst cause mip (htakes hS fun h => absurd h hm) hs ?_ hdest
    exact ⟨other, hother, ⟨hpending, by rw [if_neg hfree]; exact .inl hm⟩, hfree⟩

/-- In M-mode nothing counts as delegated, so the search ran with MIE set and found
the first pending cause. -/
theorem first_pending_of_takes_in_m {m : Machine} {mip cause : U64}
    (hs : sampleMip m = .ok mip m) (htakes : Takes m cause) (hm : m.cpu.mode = PRIV_M) :
    EnabledM m.cpu ∧ PRIORITY.find? (fun c => decide (Pending m.cpu mip c)) = some cause := by
  have hfirst := (takes_iff hs cause).mp htakes
  obtain ⟨-, -, hM⟩ := (firstCandidate_some hfirst).2
  have hen : EnabledM m.cpu := hM (fun hd => hd.1 hm) hm
  rw [firstCandidate_eq_pending (fun h => absurd (hm.symm.trans h) (by decide))
    fun _ => hen] at hfirst
  exact ⟨hen, hfirst⟩

/-- The exact condition: the rule holds unless a delegated cause is ahead. -/
theorem destinationRule_iff (m : Machine) :
    DestinationRule m ↔ ∀ mip, sampleMip m = .ok mip m → ¬DelegatedAhead m.cpu mip := by
  constructor
  · exact fun rule mip hs ahead => not_destinationRule hs ahead rule
  · intro hahead
    refine ⟨fun cause htakes hm hdest => ?_, fun cause mip htakes hs hother hdest => ?_⟩
    · have hs : ∃ mip, sampleMip m = .ok mip m := by
        obtain ⟨m', hrun, -⟩ := id htakes
        obtain ⟨mip, m1, h1, -⟩ := bind_eq_ok.mp hrun
        exact ⟨mip, readOnly_sampleMip.ok h1⟩
      obtain ⟨mip, hs⟩ := hs
      obtain ⟨hen, hfirst⟩ := first_pending_of_takes_in_m hs htakes hm
      exact hahead mip hs ⟨cause, hfirst, hdest, .inl ⟨hm, hen⟩⟩
    · obtain ⟨other, hmem, ⟨hpending, -⟩, hfree⟩ := hother
      by_cases hm : m.cpu.mode = PRIV_M
      · obtain ⟨hen, hfirst⟩ := first_pending_of_takes_in_m hs htakes hm
        exact hahead mip hs ⟨cause, hfirst, hdest, .inl ⟨hm, hen⟩⟩
      · have hfirst := (takes_iff hs cause).mp htakes
        obtain ⟨-, hS, -⟩ := (firstCandidate_some hfirst).2
        have hen : m.cpu.mode = PRIV_S → EnabledS m.cpu := hS ⟨hm, hdest⟩
        rw [firstCandidate_eq_pending hen fun h => absurd h hm] at hfirst
        exact hahead mip hs ⟨cause, hfirst, hdest, .inr ⟨hm, hen, other, hmem, hpending, hfree⟩⟩

/-- A hart in M-mode with MIE set, and SSIP pending, enabled and delegated. -/
def delegatedInM : Machine :=
  { cpu := { Cpu.new 0 with
      csrs := (((Csrs.new.insert Csr.MSTATUS MSTATUS_MIE).insert Csr.MIDELEG 2).insert
        Csr.MIE 2).insert Csr.MIP 2 }
    bus := .new .detached }

omit [Host] in
/-- In this state the delegated interrupt is taken in M-mode. -/
theorem delegatedInM_breaks_rule : ¬@DestinationRule .dev delegatedInM :=
  @not_destinationRule .dev delegatedInM 2 rfl
    ⟨1, by decide, by decide, .inl ⟨rfl, by unfold EnabledM; decide⟩⟩

end Trap

end Riscvm.Rv64rs
