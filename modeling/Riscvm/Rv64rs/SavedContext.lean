import Riscvm.Rv64rs.Harts

/-!
# Saved contexts

Between two instructions `checkInterrupt` may be called any number of times while the devices
change their lines. Entering S-mode clears SIE and entering M-mode clears MIE, and only a hart
below M-mode takes an interrupt with neither: so after S-mode only M-mode is entered and after
M-mode nothing, and what the handler has to return to stays as it was saved.
-/

namespace Riscvm.Rv64rs

open Bits Exec Machine

namespace Trap

/-- What a trap into one level saves of the interrupted hart. -/
structure SavedContext where
  epc : U64
  cause : U64
  tval : U64
  pie : Bool
  pp : U64

/-- The registers of `level` that hold a saved context. -/
def savedContext (level : U8) (cpu : Cpu) : SavedContext :=
  let mstatus := cpu.csrs.get Csr.MSTATUS
  if level = PRIV_S then
    { epc := cpu.csrs.get Csr.SEPC, cause := cpu.csrs.get Csr.SCAUSE
      tval := cpu.csrs.get Csr.STVAL, pie := mstatus.getLsbD 5, pp := mstatus &&& MSTATUS_SPP }
  else
    { epc := cpu.csrs.get Csr.MEPC, cause := cpu.csrs.get Csr.MCAUSE
      tval := cpu.csrs.get Csr.MTVAL, pie := mstatus.getLsbD 7, pp := mstatus &&& MSTATUS_MPP }

/-- A handler that runs with interrupts for its level still disabled. -/
inductive InHandler (cpu : Cpu) : (level : U8) → Prop
  | supervisor (mode : cpu.mode = PRIV_S) (sie : (cpu.csrs.get Csr.MSTATUS).getLsbD 1 = false) :
      InHandler cpu PRIV_S
  | machine (mode : cpu.mode = PRIV_M) (mie : (cpu.csrs.get Csr.MSTATUS).getLsbD 3 = false) :
      InHandler cpu PRIV_M

theorem InHandler.mode_eq {cpu : Cpu} {level : U8} (h : InHandler cpu level) :
    cpu.mode = level := by
  cases h with
  | supervisor mode sie => exact mode
  | machine mode mie => exact mode

theorem InHandler.level_eq {cpu : Cpu} {level : U8} (h : InHandler cpu level) :
    level = PRIV_S ∨ level = PRIV_M := by
  cases h with
  | supervisor mode sie => exact .inl rfl
  | machine mode mie => exact .inr rfl

variable [Host]

/-- A call of `checkInterrupt` that takes a trap, with any state of the devices. -/
def TrapsTo (cpu cpu' : Cpu) : Prop :=
  ∃ bus m', checkInterrupt ⟨cpu, bus⟩ = .ok true m' ∧ m'.cpu = cpu'

/-- A call that takes none. -/
def IdlesTo (cpu cpu' : Cpu) : Prop :=
  ∃ bus m', checkInterrupt ⟨cpu, bus⟩ = .ok false m' ∧ m'.cpu = cpu'

/-- Calls of `checkInterrupt` one after the other, with the levels that were entered. -/
inductive Checks : Cpu → List U8 → Cpu → Prop
  | start {cpu : Cpu} : Checks cpu [] cpu
  | idle {cpu cpu' cpu'' : Cpu} {levels : List U8} (first : IdlesTo cpu cpu')
      (rest : Checks cpu' levels cpu'') : Checks cpu levels cpu''
  | trap {cpu cpu' cpu'' : Cpu} {levels : List U8} (first : TrapsTo cpu cpu')
      (rest : Checks cpu' levels cpu'') : Checks cpu (cpu'.mode :: levels) cpu''

theorem checkInterrupt_ok {m m' : Machine} {taken : Bool} (h : checkInterrupt m = .ok taken m') :
    ∃ mip, (taken = false ∧ m' = { m with cpu := withMip m.cpu mip }) ∨
      taken = true ∧ ∃ cause,
        Candidate (mip &&& m.cpu.csrs.get Csr.MIE) (m.cpu.csrs.get Csr.MSTATUS)
          (withMip m.cpu mip) cause ∧
        m' = { m with cpu := interrupted (withMip m.cpu mip) cause } := by
  obtain ⟨mip, t, hsample, -⟩ := bind_eq_ok.mp h
  rw [checkInterrupt_apply (readOnly_sampleMip.ok hsample)] at h
  refine ⟨mip, ?_⟩
  cases hfirst : firstCandidate (mip &&& m.cpu.csrs.get Csr.MIE) (m.cpu.csrs.get Csr.MSTATUS)
    (withMip m.cpu mip) PRIORITY with
  | none =>
      rw [hfirst] at h
      cases h
      exact .inl ⟨rfl, rfl⟩
  | some cause =>
      rw [hfirst] at h
      cases h
      exact .inr ⟨rfl, cause, (firstCandidate_some hfirst).2, rfl⟩

theorem IdlesTo.withMip {cpu cpu' : Cpu} (h : IdlesTo cpu cpu') :
    ∃ mip, cpu' = withMip cpu mip := by
  obtain ⟨bus, m', hcheck, rfl⟩ := h
  obtain ⟨mip, ⟨-, rfl⟩ | ⟨htrue, -⟩⟩ := checkInterrupt_ok hcheck
  · exact ⟨mip, rfl⟩
  · cases htrue

theorem TrapsTo.candidate {cpu cpu' : Cpu} (h : TrapsTo cpu cpu') :
    ∃ mip cause, Candidate (mip &&& cpu.csrs.get Csr.MIE) (cpu.csrs.get Csr.MSTATUS)
      (Trap.withMip cpu mip) cause ∧ cpu' = interrupted (Trap.withMip cpu mip) cause := by
  obtain ⟨bus, m', hcheck, rfl⟩ := h
  obtain ⟨mip, ⟨hfalse, -⟩ | ⟨-, cause, candidate, rfl⟩⟩ := checkInterrupt_ok hcheck
  · cases hfalse
  · exact ⟨mip, cause, candidate, rfl⟩

omit [Host] in
theorem withMip_get (cpu : Cpu) (mip : U64) {addr : U32}
    (h : addr.setWidth 12 ≠ Csr.MIP.setWidth 12) :
    (withMip cpu mip).csrs.get addr = cpu.csrs.get addr := Csrs.get_insert_ne _ _ h

omit [Host] in
theorem savedContext_withMip (level : U8) (cpu : Cpu) (mip : U64) :
    savedContext level (withMip cpu mip) = savedContext level cpu := by
  have hget (addr : U32) (h : addr.setWidth 12 ≠ Csr.MIP.setWidth 12) :
      (withMip cpu mip).csrs.get addr = cpu.csrs.get addr := withMip_get cpu mip h
  unfold savedContext
  rw [hget Csr.MSTATUS (by decide), hget Csr.SEPC (by decide), hget Csr.SCAUSE (by decide),
    hget Csr.STVAL (by decide), hget Csr.MEPC (by decide), hget Csr.MCAUSE (by decide),
    hget Csr.MTVAL (by decide)]

omit [Host] in
/-- Entering M-mode writes only above and at the bits of M-mode. -/
theorem getLsbD_enterM_low (mstatus : U64) (mode : U8) {i : Nat} (h : i < 11) :
    (enterM mstatus mode).getLsbD i =
      if i = 7 then mstatus.getLsbD 3 else if i = 3 then false else mstatus.getLsbD i := by
  have hlt : i < 64 := by omega
  have hmode : (mode.setWidth 64 <<< 11 : U64)[i] = false := by
    rw [BitVec.getElem_shiftLeft, decide_eq_true h]
    rfl
  have hmpp : MSTATUS_MPP[i] = false := by
    rw [getElem_mpp]
    have h11 : i ≠ 11 := by omega
    have h12 : i ≠ 12 := by omega
    rw [decide_eq_false h11, decide_eq_false h12]
    rfl
  rw [BitVec.getLsbD_eq_getElem (by omega), BitVec.getLsbD_eq_getElem (by decide),
    BitVec.getLsbD_eq_getElem (by omega), enterM, BitVec.getElem_or, BitVec.getElem_and,
    BitVec.getElem_not, hmpp, hmode]
  simp only [MSTATUS_MIE, MSTATUS_MPIE, getElem_setFlag, getElem_clear, and_bit_ne_zero]
  by_cases h7 : i = 7 <;> by_cases h3 : i = 3 <;> simp_all

omit [Host] in
/-- Entering a level leaves its handler with interrupts disabled. -/
theorem inHandler_interrupted (cpu : Cpu) (cause : U64) :
    InHandler (interrupted cpu cause) (interrupted cpu cause).mode := by
  unfold interrupted
  split
  · refine .supervisor rfl ?_
    have hmstatus : (takenS cpu (causeValue cause true) 0).csrs.get Csr.MSTATUS =
        enterS (cpu.csrs.get Csr.MSTATUS) cpu.mode := takenS_get ..
    rw [hmstatus, BitVec.getLsbD_eq_getElem (by decide), getElem_enterS]
    rfl
  · refine .machine rfl ?_
    have hmstatus : (takenM cpu (causeValue cause true) 0).csrs.get Csr.MSTATUS =
        enterM (cpu.csrs.get Csr.MSTATUS) cpu.mode := takenM_get ..
    rw [hmstatus, getLsbD_enterM_low _ _ (by decide)]
    rfl

omit [Host] in
/-- Entering M-mode does not touch what S-mode has saved. -/
theorem savedContext_takenM (cpu : Cpu) (cause tval : U64) :
    savedContext PRIV_S (takenM cpu cause tval) = savedContext PRIV_S cpu := by
  have hmstatus : (takenM cpu cause tval).csrs.get Csr.MSTATUS =
      enterM (cpu.csrs.get Csr.MSTATUS) cpu.mode := takenM_get ..
  have hepc : (takenM cpu cause tval).csrs.get Csr.SEPC = cpu.csrs.get Csr.SEPC := takenM_get ..
  have hcause : (takenM cpu cause tval).csrs.get Csr.SCAUSE = cpu.csrs.get Csr.SCAUSE :=
    takenM_get ..
  have htval : (takenM cpu cause tval).csrs.get Csr.STVAL = cpu.csrs.get Csr.STVAL := takenM_get ..
  have hspp : enterM (cpu.csrs.get Csr.MSTATUS) cpu.mode &&& MSTATUS_SPP =
      cpu.csrs.get Csr.MSTATUS &&& MSTATUS_SPP := by
    apply BitVec.eq_of_getLsbD_eq
    intro i hi
    rw [BitVec.getLsbD_and, BitVec.getLsbD_and, MSTATUS_SPP, getLsbD_bit]
    by_cases h8 : i = 8
    · rw [h8, getLsbD_enterM_low _ _ (by decide)]
      rfl
    · rw [decide_eq_false h8, Bool.and_false, Bool.and_false, Bool.and_false]
  unfold savedContext
  rw [if_pos rfl, if_pos rfl, hmstatus, hepc, hcause, htval, hspp,
    getLsbD_enterM_low _ _ (by decide)]
  rfl

theorem InHandler.idle {cpu cpu' : Cpu} {level : U8} (h : InHandler cpu level)
    (idle : IdlesTo cpu cpu') :
    InHandler cpu' level ∧ ∀ level', savedContext level' cpu' = savedContext level' cpu := by
  obtain ⟨mip, rfl⟩ := idle.withMip
  refine ⟨?_, fun level' => savedContext_withMip level' cpu mip⟩
  cases h with
  | supervisor mode sie =>
      exact .supervisor mode (by rw [@withMip_get cpu mip Csr.MSTATUS (by decide), sie])
  | machine mode mie =>
      exact .machine mode (by rw [@withMip_get cpu mip Csr.MSTATUS (by decide), mie])

theorem TrapsTo.inHandler {cpu cpu' : Cpu} (h : TrapsTo cpu cpu') : InHandler cpu' cpu'.mode := by
  obtain ⟨mip, cause, -, rfl⟩ := h.candidate
  exact inHandler_interrupted _ _

/-- Only M-mode can interrupt a handler, and only that of S-mode. -/
theorem InHandler.trap {cpu cpu' : Cpu} {level : U8} (h : InHandler cpu level)
    (trap : TrapsTo cpu cpu') :
    level = PRIV_S ∧ InHandler cpu' PRIV_M ∧
      savedContext PRIV_S cpu' = savedContext PRIV_S cpu := by
  obtain ⟨mip, cause, ⟨-, hsie, hmie⟩, rfl⟩ := trap.candidate
  have handler := inHandler_interrupted (withMip cpu mip) cause
  cases h with
  | supervisor mode sie =>
      by_cases hd : Delegated (withMip cpu mip) cause true
      · exact absurd sie (Bool.not_eq_false _ ▸ and_bit_ne_zero.mp (hsie hd mode))
      · unfold interrupted at handler ⊢
        rw [if_neg hd] at handler ⊢
        refine ⟨rfl, handler, ?_⟩
        exact (savedContext_takenM _ _ _).trans (savedContext_withMip ..)
  | machine mode mie =>
      have hd : ¬Delegated (withMip cpu mip) cause true := fun hd => hd.1 mode
      exact absurd mie (Bool.not_eq_false _ ▸ and_bit_ne_zero.mp (hmie hd mode))

/-- From a handler at most M-mode is entered, and what the handler's level has saved stays. -/
theorem Checks.handler {cpu cpu' : Cpu} {levels : List U8} (run : Checks cpu levels cpu')
    {level : U8} (h : InHandler cpu level) :
    (levels = [] ∨ level = PRIV_S ∧ levels = [PRIV_M]) ∧
      savedContext level cpu' = savedContext level cpu ∧
      (level = PRIV_M → savedContext PRIV_S cpu' = savedContext PRIV_S cpu) := by
  induction run generalizing level with
  | start => exact ⟨.inl rfl, rfl, fun _ => rfl⟩
  | idle first rest ih =>
      obtain ⟨handler, saved⟩ := h.idle first
      obtain ⟨hlevels, hsaved, hother⟩ := ih handler
      exact ⟨hlevels, hsaved.trans (saved _), fun hm => (hother hm).trans (saved _)⟩
  | trap first rest ih =>
      obtain ⟨rfl, handler, saved⟩ := h.trap first
      obtain ⟨hlevels, -, hother⟩ := ih handler
      refine ⟨.inr ⟨rfl, ?_⟩, (hother rfl).trans saved, fun hm => absurd hm (by decide)⟩
      obtain rfl | ⟨hm, -⟩ := hlevels
      · rw [handler.mode_eq]
      · exact absurd hm (by decide)

/-- The levels that a sequence of calls enters. -/
theorem Checks.levels {cpu cpu' : Cpu} {levels : List U8} (run : Checks cpu levels cpu') :
    levels = [] ∨ levels = [PRIV_S] ∨ levels = [PRIV_M] ∨ levels = [PRIV_S, PRIV_M] := by
  induction run with
  | start => exact .inl rfl
  | idle first rest ih => exact ih
  | trap first rest ih =>
      have handler := first.inHandler
      obtain ⟨rfl | ⟨hs, rfl⟩, -⟩ := rest.handler handler
      · obtain hs | hm := handler.level_eq
        · exact .inr (.inl (congrArg (fun m => [m]) hs))
        · exact .inr (.inr (.inl (congrArg (fun m => [m]) hm)))
      · exact .inr (.inr (.inr (congrArg (fun m => [m, PRIV_M]) hs)))

/-- The return address that a trap saves is the pc of the interrupted hart. -/
theorem TrapsTo.epc {cpu cpu' : Cpu} (h : TrapsTo cpu cpu') :
    (savedContext cpu'.mode cpu').epc = cpu.pc := by
  obtain ⟨mip, cause, -, rfl⟩ := h.candidate
  unfold interrupted
  split
  · change (takenS (withMip cpu mip) (causeValue cause true) 0).csrs.get Csr.SEPC = cpu.pc
    exact takenS_get ..
  · change (takenM (withMip cpu mip) (causeValue cause true) 0).csrs.get Csr.MEPC = cpu.pc
    exact takenM_get ..

/-- However the devices change their lines, at most two traps are taken before the next
instruction, S-mode before M-mode, and the registers that a trap has saved keep their values,
the pc of the interrupted hart among them. -/
theorem traps_nest {cpu cpu' : Cpu} {levels : List U8} (run : Checks cpu levels cpu') :
    levels.length ≤ 2 ∧ (levels.length = 2 → levels = [PRIV_S, PRIV_M]) ∧
      ∀ done before after rest, Checks cpu done before → TrapsTo before after →
        Checks after rest cpu' →
          (savedContext after.mode after).epc = before.pc ∧
            savedContext after.mode cpu' = savedContext after.mode after := by
  refine ⟨?_, ?_, fun done before after rest _ trap later => ?_⟩
  · obtain rfl | rfl | rfl | rfl := run.levels <;> decide
  · obtain rfl | rfl | rfl | rfl := run.levels <;> decide
  · exact ⟨trap.epc, (later.handler trap.inHandler).2.1⟩

/-- A hart in U-mode with a delegated software interrupt pending and the machine timer
enabled. -/
def softwareThenTimer : Cpu :=
  { Cpu.new 0 with
    mode := PRIV_U, clint := true
    csrs := ((Csrs.new.insert Csr.MIE 0x82).insert Csr.MIDELEG 2).insert Csr.MIP 2 }

/-- A CLINT whose timer comes due at `mtimecmp`. -/
def clintAt (mtimecmp : U64) : Bus :=
  .new { Devices.detached with clint := { Clint.new 0x10000 1 with mtimecmp := [mtimecmp] } }

/-- The hart in the handler of the software interrupt. -/
def inSoftware : Cpu := interrupted (withMip softwareThenTimer 2) 1

omit [Host] in
/-- First the software interrupt is taken and then the timer's, which leaves alone what the first
has saved. -/
theorem traps_nest_softwareThenTimer :
    ∃ cpu', @Checks .dev softwareThenTimer [PRIV_S, PRIV_M] cpu' ∧
      savedContext PRIV_S cpu' = savedContext PRIV_S inSoftware := by
  let : Host := .dev
  have first : TrapsTo softwareThenTimer inSoftware := ⟨clintAt (-1), _, rfl, rfl⟩
  have second : TrapsTo inSoftware (interrupted (withMip inSoftware 0x82) 7) :=
    ⟨clintAt 0, _, rfl, rfl⟩
  have run : Checks softwareThenTimer [PRIV_S, PRIV_M] _ := .trap first (.trap second .start)
  obtain ⟨-, -, kept⟩ := traps_nest run
  exact ⟨_, run, (kept [] softwareThenTimer inSoftware _ .start first (.trap second .start)).2⟩

end Trap

end Riscvm.Rv64rs
