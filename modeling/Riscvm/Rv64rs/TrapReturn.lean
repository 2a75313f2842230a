import Riscvm.Rv64rs.Execute

/-!
# Trap entry and return

The four updates of `mstatus`, two on entry and two on return, are described bit
by bit. A return instruction run at the vector of the trap just taken gives back
the pc, the mode and the interrupt enable of the interrupted hart, and never
touches the registers of the other level.
-/

namespace Riscvm.Rv64rs

open Bits Exec Machine

namespace Trap

open Execute

/-- The modes a hart can be in. -/
def Privilege (mode : U8) : Prop := mode = PRIV_U ∨ mode = PRIV_S ∨ mode = PRIV_M

theorem getElem_enterS (mstatus : U64) (mode : U8) {i : Nat} (h : i < 64) :
    (enterS mstatus mode)[i] =
      if i = 8 then decide (mode = PRIV_S) else if i = 5 then mstatus[1]
      else if i = 1 then false else mstatus[i] := by
  simp only [enterS, MSTATUS_SIE, MSTATUS_SPIE, MSTATUS_SPP, getElem_setFlag, getElem_clear,
    and_bit_ne_zero]
  by_cases h8 : i = 8 <;> by_cases h5 : i = 5 <;> by_cases h1 : i = 1 <;> simp_all

theorem getElem_leaveS (mstatus : U64) {i : Nat} (h : i < 64) :
    (leaveS mstatus)[i] =
      if i = 8 then false else if i = 5 then true else if i = 1 then mstatus[5]
      else mstatus[i] := by
  simp only [leaveS, MSTATUS_SIE, MSTATUS_SPIE, MSTATUS_SPP, getElem_setFlag, getElem_clear,
    getElem_set, and_bit_ne_zero]
  by_cases h8 : i = 8 <;> by_cases h5 : i = 5 <;> by_cases h1 : i = 1 <;> simp_all

theorem getElem_mpp {i : Nat} (h : i < 64) :
    MSTATUS_MPP[i] = (decide (i = 11) || decide (i = 12)) := by
  have hmpp : MSTATUS_MPP = bit 11 ||| bit 12 := by decide
  rw [hmpp, BitVec.getElem_or, getElem_bit, getElem_bit]

/-- A privilege level occupies exactly the two bits of MPP. -/
theorem getElem_mode {mode : U8} (hmode : Privilege mode) {i : Nat} (h : i < 64) :
    (mode.setWidth 64 <<< 11 : U64)[i] =
      if i = 11 then decide (mode = PRIV_S ∨ mode = PRIV_M)
      else if i = 12 then decide (mode = PRIV_M) else false := by
  rcases hmode with rfl | rfl | rfl
  · simp [PRIV_U, PRIV_S, PRIV_M]
  · have hbit : ((PRIV_S).setWidth 64 <<< 11 : U64) = bit 11 := by decide
    rw [hbit, getElem_bit]
    by_cases h11 : i = 11 <;> simp [PRIV_S, PRIV_M, h11]
  · have hbit : ((PRIV_M).setWidth 64 <<< 11 : U64) = bit 11 ||| bit 12 := by decide
    rw [hbit, BitVec.getElem_or, getElem_bit, getElem_bit]
    by_cases h11 : i = 11 <;> by_cases h12 : i = 12 <;> simp [PRIV_S, PRIV_M, h11, h12]

theorem getElem_enterM (mstatus : U64) {mode : U8} (hmode : Privilege mode) {i : Nat}
    (h : i < 64) :
    (enterM mstatus mode)[i] =
      if i = 11 then decide (mode = PRIV_S ∨ mode = PRIV_M)
      else if i = 12 then decide (mode = PRIV_M) else if i = 7 then mstatus[3]
      else if i = 3 then false else mstatus[i] := by
  rw [enterM, BitVec.getElem_or, BitVec.getElem_and, BitVec.getElem_not, getElem_mpp,
    getElem_mode hmode]
  simp only [MSTATUS_MIE, MSTATUS_MPIE, getElem_setFlag, getElem_clear, and_bit_ne_zero]
  by_cases h11 : i = 11 <;> by_cases h12 : i = 12 <;> by_cases h7 : i = 7 <;>
    by_cases h3 : i = 3 <;> simp_all

theorem getElem_leaveM (mstatus : U64) {i : Nat} (h : i < 64) :
    (leaveM mstatus)[i] =
      if i = 11 ∨ i = 12 then false else if i = 7 then true else if i = 3 then mstatus[7]
      else mstatus[i] := by
  rw [leaveM, BitVec.getElem_and, BitVec.getElem_not, getElem_mpp]
  simp only [MSTATUS_MIE, MSTATUS_MPIE, getElem_setFlag, getElem_set, and_bit_ne_zero]
  by_cases h11 : i = 11 <;> by_cases h12 : i = 12 <;> by_cases h7 : i = 7 <;>
    by_cases h3 : i = 3 <;> simp_all

/-- What is left of `mstatus` after an excursion to S-mode: SPIE is 1 and SPP is 0. -/
theorem leaveS_enterS (mstatus : U64) (mode : U8) :
    leaveS (enterS mstatus mode) = (mstatus ||| MSTATUS_SPIE) &&& ~~~MSTATUS_SPP := by
  ext i hi
  simp only [getElem_leaveS, getElem_enterS, MSTATUS_SPIE, MSTATUS_SPP, getElem_clear,
    getElem_set]
  grind

/-- What is left of `mstatus` after an excursion to M-mode: MPIE is 1 and MPP is 0. -/
theorem leaveM_enterM (mstatus : U64) {mode : U8} (hmode : Privilege mode) :
    leaveM (enterM mstatus mode) = (mstatus ||| MSTATUS_MPIE) &&& ~~~MSTATUS_MPP := by
  ext i hi
  rw [BitVec.getElem_and, BitVec.getElem_not, getElem_mpp, MSTATUS_MPIE, getElem_set]
  simp only [getElem_leaveM, getElem_enterM mstatus hmode]
  grind

/-- SRET reads back the mode that entering S-mode stored. -/
theorem spp_enterS (mstatus : U64) {mode : U8} (hmode : mode = PRIV_U ∨ mode = PRIV_S) :
    ((enterS mstatus mode &&& MSTATUS_SPP) >>> 8).setWidth 8 = mode := by
  have hfield : enterS mstatus mode &&& MSTATUS_SPP =
      if mode = PRIV_S then bit 8 else 0 := by
    ext i hi
    rw [BitVec.getElem_and, getElem_enterS, MSTATUS_SPP, getElem_bit]
    by_cases h8 : i = 8 <;> by_cases hs : mode = PRIV_S <;> simp [h8, hs]
  rw [hfield]
  rcases hmode with rfl | rfl <;> decide

/-- MRET reads back the mode that entering M-mode stored. -/
theorem mpp_enterM (mstatus : U64) {mode : U8} (hmode : Privilege mode) :
    ((enterM mstatus mode &&& MSTATUS_MPP) >>> 11).setWidth 8 = mode := by
  have hfield : enterM mstatus mode &&& MSTATUS_MPP = mode.setWidth 64 <<< 11 := by
    ext i hi
    rw [BitVec.getElem_and, getElem_enterM _ hmode, getElem_mpp, getElem_mode hmode]
    by_cases h11 : i = 11 <;> by_cases h12 : i = 12 <;> simp [h11, h12]
  rw [hfield]
  rcases hmode with rfl | rfl | rfl <;> decide

/-- `sret`. -/
def SRET : Instruction := .new 0x10200073

/-- `mret`. -/
def MRET : Instruction := .new 0x30200073

/-- The hart after SRET. -/
def returnS (cpu : Cpu) : Cpu :=
  { cpu with
    csrs := cpu.csrs.insert Csr.MSTATUS (leaveS (cpu.csrs.get Csr.MSTATUS))
    mode := ((cpu.csrs.get Csr.MSTATUS &&& MSTATUS_SPP) >>> 8).setWidth 8
    pc := cpu.csrs.get Csr.SEPC }

/-- The hart after MRET. -/
def returnM (cpu : Cpu) : Cpu :=
  { cpu with
    csrs := cpu.csrs.insert Csr.MSTATUS (leaveM (cpu.csrs.get Csr.MSTATUS))
    mode := ((cpu.csrs.get Csr.MSTATUS &&& MSTATUS_MPP) >>> 11).setWidth 8
    pc := cpu.csrs.get Csr.MEPC }

/-- What an excursion to S-mode leaves behind: the interrupted position, the
interrupt enable, and everything of M-mode. -/
structure BackFromS (before after : Cpu) : Prop where
  pc : after.pc = before.pc
  mode : after.mode = before.mode
  mstatus : after.csrs.get Csr.MSTATUS =
    (before.csrs.get Csr.MSTATUS ||| MSTATUS_SPIE) &&& ~~~MSTATUS_SPP
  machineFields : ∀ field ∈ [MSTATUS_MIE, MSTATUS_MPIE, MSTATUS_MPP],
    after.csrs.get Csr.MSTATUS &&& field = before.csrs.get Csr.MSTATUS &&& field
  machineCsrs : ∀ addr ∈ [Csr.MEPC, Csr.MCAUSE, Csr.MTVAL],
    after.csrs.get addr = before.csrs.get addr

/-- What an excursion to M-mode leaves behind: the interrupted position, the
interrupt enable, and everything of S-mode. -/
structure BackFromM (before after : Cpu) : Prop where
  pc : after.pc = before.pc
  mode : after.mode = before.mode
  mstatus : after.csrs.get Csr.MSTATUS =
    (before.csrs.get Csr.MSTATUS ||| MSTATUS_MPIE) &&& ~~~MSTATUS_MPP
  supervisorFields : ∀ field ∈ [MSTATUS_SIE, MSTATUS_SPIE, MSTATUS_SPP],
    after.csrs.get Csr.MSTATUS &&& field = before.csrs.get Csr.MSTATUS &&& field
  supervisorCsrs : ∀ addr ∈ [Csr.SEPC, Csr.SCAUSE, Csr.STVAL],
    after.csrs.get addr = before.csrs.get addr

/-- Setting one field and clearing another leaves a disjoint field as it was. -/
theorem and_field_of_disjoint {x set clear field : U64} (hs : set &&& field = 0)
    (hc : clear &&& field = 0) : ((x ||| set) &&& ~~~clear) &&& field = x &&& field := by
  ext i hi
  have hsi := congrArg (fun y : U64 => y[i]) hs
  have hci := congrArg (fun y : U64 => y[i]) hc
  simp only [BitVec.getElem_and] at hsi hci
  simp only [BitVec.getElem_and, BitVec.getElem_or, BitVec.getElem_not]
  grind

theorem backFromS (cpu : Cpu) (pc scauseValue tval : U64)
    (hmode : cpu.mode = PRIV_U ∨ cpu.mode = PRIV_S) :
    BackFromS cpu (returnS { takenS cpu scauseValue tval with pc }) := by
  have hstatus : (returnS { takenS cpu scauseValue tval with pc }).csrs.get Csr.MSTATUS =
      (cpu.csrs.get Csr.MSTATUS ||| MSTATUS_SPIE) &&& ~~~MSTATUS_SPP := by
    rw [← leaveS_enterS _ cpu.mode]
    simp only [returnS, Csrs.get_insert_same, takenS_get]
    rfl
  refine ⟨?_, ?_, hstatus, ?_, ?_⟩
  · simp only [returnS, takenS_get]
    rfl
  · simp only [returnS, takenS_get]
    exact spp_enterS _ hmode
  · intro field hfield
    rw [hstatus]
    simp only [List.mem_cons, List.not_mem_nil, or_false] at hfield
    rcases hfield with rfl | rfl | rfl <;> exact and_field_of_disjoint (by decide) (by decide)
  · intro addr haddr
    simp only [List.mem_cons, List.not_mem_nil, or_false] at haddr
    rcases haddr with rfl | rfl | rfl <;>
      simp only [returnS, Csrs.get_insert, takenS_get] <;> rfl

theorem backFromM (cpu : Cpu) (pc mcauseValue tval : U64) (hmode : Privilege cpu.mode) :
    BackFromM cpu (returnM { takenM cpu mcauseValue tval with pc }) := by
  have hstatus : (returnM { takenM cpu mcauseValue tval with pc }).csrs.get Csr.MSTATUS =
      (cpu.csrs.get Csr.MSTATUS ||| MSTATUS_MPIE) &&& ~~~MSTATUS_MPP := by
    rw [← leaveM_enterM _ hmode]
    simp only [returnM, Csrs.get_insert_same, takenM_get]
    rfl
  refine ⟨?_, ?_, hstatus, ?_, ?_⟩
  · simp only [returnM, takenM_get]
    rfl
  · simp only [returnM, takenM_get]
    exact mpp_enterM _ hmode
  · intro field hfield
    rw [hstatus]
    simp only [List.mem_cons, List.not_mem_nil, or_false] at hfield
    rcases hfield with rfl | rfl | rfl <;> exact and_field_of_disjoint (by decide) (by decide)
  · intro addr haddr
    simp only [List.mem_cons, List.not_mem_nil, or_false] at haddr
    rcases haddr with rfl | rfl | rfl <;>
      simp only [returnM, Csrs.get_insert, takenM_get] <;> rfl

variable [Host]

theorem execute_sret (m : Machine) :
    Machine.execute SRET m = .ok () { m with cpu := returnS m.cpu } := rfl

theorem execute_mret (m : Machine) :
    Machine.execute MRET m = .ok () { m with cpu := returnM m.cpu } := rfl

/-- Take a trap, jump to its vector and return at once from the level entered,
which is the result. -/
def trapAndReturn (cause : U64) (isInterrupt : Bool) (tval : U64) : Call Machine U8 := do
  let vector ← onCpu (raiseTrap cause isInterrupt tval)
  modifyCpu fun cpu => { cpu with pc := vector }
  let level := (← get).cpu.mode
  if level = PRIV_S then Machine.execute SRET else Machine.execute MRET
  return level

/-- A trap and the return from it are inverse, and either level is invisible to
the other. -/
theorem trapAndReturn_restores (m : Machine) (hmode : Privilege m.cpu.mode) {cause : U64}
    (hcause : cause.toNat < 64) (isInterrupt : Bool) (tval : U64) :
    ∃ level m', trapAndReturn cause isInterrupt tval m = .ok level m' ∧
      (level = PRIV_S ∧ BackFromS m.cpu m'.cpu ∨ level = PRIV_M ∧ BackFromM m.cpu m'.cpu) := by
  have htrap := raiseTrap_apply m.cpu hcause isInterrupt tval
  by_cases hd : Delegated m.cpu cause isInterrupt
  · rw [if_pos hd] at htrap
    have hback := backFromS m.cpu (m.cpu.csrs.get Csr.STVEC &&& ~~~0b11)
      (causeValue cause isInterrupt) tval
      (hmode.imp_right fun h => h.resolve_right hd.1)
    refine ⟨PRIV_S, { m with cpu := _ }, ?_, .inl ⟨rfl, hback⟩⟩
    rw [trapAndReturn, bind_ok (onCpu_ok htrap)]
    rfl
  · rw [if_neg hd] at htrap
    have hback := backFromM m.cpu (m.cpu.csrs.get Csr.MTVEC &&& ~~~0b11)
      (causeValue cause isInterrupt) tval hmode
    refine ⟨PRIV_M, { m with cpu := _ }, ?_, .inr ⟨rfl, hback⟩⟩
    rw [trapAndReturn, bind_ok (onCpu_ok htrap)]
    rfl

omit [Host] in
/-- A U-mode hart whose `ecall` is delegated, as in xv6. -/
theorem trapAndReturn_restores_ecall :
    let m : Machine :=
      { cpu := { Cpu.new 0 with csrs := Csrs.new.insert Csr.MEDELEG 0xffff, mode := PRIV_U }
        bus := .new .detached }
    ∃ level m', @trapAndReturn .dev 8 false 0 m = .ok level m' ∧
      (level = PRIV_S ∧ BackFromS m.cpu m'.cpu ∨ level = PRIV_M ∧ BackFromM m.cpu m'.cpu) :=
  @trapAndReturn_restores .dev _ (.inl rfl) 8 (by decide) false 0

end Trap

end Riscvm.Rv64rs
