import Riscvm.Rv64rs.Cpu

/-!
# CSR views and trap delivery

`trap.rs`: `sstatus`, `sie` and `sip` are masked views of the machine-level
registers; `raiseTrap` enters M-mode or S-mode; `checkInterrupt` samples the
devices and delivers the first interrupt that can be taken.
-/

namespace Riscvm.Rv64rs

open Bits Exec Machine

namespace Trap

def SSTATUS_MASK : U64 := bit 1 ||| bit 5 ||| bit 8
def SIE_MASK : U64 := bit 1 ||| bit 5 ||| bit 9
def SIP_MASK : U64 := bit 1 ||| bit 5 ||| bit 9

def MSTATUS_SIE : U64 := bit 1
def MSTATUS_MIE : U64 := bit 3
def MSTATUS_SPIE : U64 := bit 5
def MSTATUS_MPIE : U64 := bit 7
def MSTATUS_SPP : U64 := bit 8
def MSTATUS_MPP : U64 := 0b11#64 <<< 11

def MIP_MTIP : U64 := bit 7
def MIP_SEIP : U64 := bit 9

def SUPERVISOR_SOFTWARE_INTERRUPT : U64 := 1
def MACHINE_SOFTWARE_INTERRUPT : U64 := 3
def SUPERVISOR_TIMER_INTERRUPT : U64 := 5
def MACHINE_TIMER_INTERRUPT : U64 := 7
def SUPERVISOR_EXTERNAL_INTERRUPT : U64 := 9
def MACHINE_EXTERNAL_INTERRUPT : U64 := 11

def PRIORITY : List U64 :=
  [MACHINE_EXTERNAL_INTERRUPT, MACHINE_SOFTWARE_INTERRUPT, MACHINE_TIMER_INTERRUPT,
    SUPERVISOR_EXTERNAL_INTERRUPT, SUPERVISOR_SOFTWARE_INTERRUPT, SUPERVISOR_TIMER_INTERRUPT]

/-- The M-mode causes 3, 7 and 11 can never be delegated. -/
def MIDELEG_DELEGATABLE_MASK : U64 :=
  ~~~(bit MACHINE_SOFTWARE_INTERRUPT.toNat ||| bit MACHINE_TIMER_INTERRUPT.toNat |||
    bit MACHINE_EXTERNAL_INTERRUPT.toNat)

def aliasedTarget (addr : U32) : Option (U32 × U64) :=
  if addr = Csr.SSTATUS then some (Csr.MSTATUS, SSTATUS_MASK)
  else if addr = Csr.SIE then some (Csr.MIE, SIE_MASK)
  else if addr = Csr.SIP then some (Csr.MIP, SIP_MASK)
  else none

def csrRead (cpu : Cpu) (addr : U32) : U64 :=
  match aliasedTarget addr with
  | some (baseAddr, mask) => cpu.csrs.get baseAddr &&& mask
  | none => cpu.csrs.get addr

def csrWrite (cpu : Cpu) (addr : U32) (value : U64) : Cpu :=
  if addr = Csr.MHARTID then cpu
  else
    let csrs := match aliasedTarget addr with
      | some (baseAddr, mask) =>
          let base := cpu.csrs.get baseAddr
          cpu.csrs.insert baseAddr ((base &&& ~~~mask) ||| (value &&& mask))
      | none => cpu.csrs.insert addr value
    -- a new address space makes every cached translation stale
    let tlb := if addr = Csr.SATP then cpu.tlb.flush else cpu.tlb
    { cpu with csrs, tlb }

/-- `mstatus` after entering S-mode from `mode`. -/
def enterS (mstatus : U64) (mode : U8) : U64 :=
  let sie := mstatus &&& MSTATUS_SIE ≠ 0
  let mstatus := (mstatus &&& ~~~MSTATUS_SPIE) ||| (if sie then MSTATUS_SPIE else 0)
  let mstatus := mstatus &&& ~~~MSTATUS_SIE
  (mstatus &&& ~~~MSTATUS_SPP) ||| (if mode = PRIV_S then MSTATUS_SPP else 0)

/-- `mstatus` after entering M-mode from `mode`. -/
def enterM (mstatus : U64) (mode : U8) : U64 :=
  let mie := mstatus &&& MSTATUS_MIE ≠ 0
  let mstatus := (mstatus &&& ~~~MSTATUS_MPIE) ||| (if mie then MSTATUS_MPIE else 0)
  let mstatus := mstatus &&& ~~~MSTATUS_MIE
  (mstatus &&& ~~~MSTATUS_MPP) ||| (mode.setWidth 64 <<< 11)

/-- `mcause` and `scause` mark interrupts in bit 63. -/
def causeValue (cause : U64) (isInterrupt : Bool) : U64 :=
  if isInterrupt then cause ||| bit 63 else cause

/-- The hart after entering S-mode. -/
def takenS (cpu : Cpu) (scauseValue tval : U64) : Cpu :=
  let csrs := cpu.csrs.insert Csr.SEPC cpu.pc
  let csrs := csrs.insert Csr.SCAUSE scauseValue
  let csrs := csrs.insert Csr.STVAL tval
  let csrs := csrs.insert Csr.MSTATUS (enterS (csrs.get Csr.MSTATUS) cpu.mode)
  { cpu with csrs, mode := PRIV_S }

/-- The hart after entering M-mode. -/
def takenM (cpu : Cpu) (mcauseValue tval : U64) : Cpu :=
  let csrs := cpu.csrs.insert Csr.MEPC cpu.pc
  let csrs := csrs.insert Csr.MCAUSE mcauseValue
  let csrs := csrs.insert Csr.MTVAL tval
  let csrs := csrs.insert Csr.MSTATUS (enterM (csrs.get Csr.MSTATUS) cpu.mode)
  { cpu with csrs, mode := PRIV_M }

/-- The delegation register that applies to a trap. -/
def delegation (cpu : Cpu) (isInterrupt : Bool) : U64 :=
  if isInterrupt then cpu.csrs.get Csr.MIDELEG &&& MIDELEG_DELEGATABLE_MASK
  else cpu.csrs.get Csr.MEDELEG

theorem takenS_get (cpu : Cpu) (scauseValue tval : U64) (addr : U32) :
    (takenS cpu scauseValue tval).csrs.get addr =
      if addr.setWidth 12 = 0x300#12 then enterS (cpu.csrs.get Csr.MSTATUS) cpu.mode
      else if addr.setWidth 12 = 0x143#12 then tval
      else if addr.setWidth 12 = 0x142#12 then scauseValue
      else if addr.setWidth 12 = 0x141#12 then cpu.pc
      else cpu.csrs.get addr := by
  simp [takenS, Csrs.get_insert, Csr.SEPC, Csr.SCAUSE, Csr.STVAL, Csr.MSTATUS]

theorem takenM_get (cpu : Cpu) (mcauseValue tval : U64) (addr : U32) :
    (takenM cpu mcauseValue tval).csrs.get addr =
      if addr.setWidth 12 = 0x300#12 then enterM (cpu.csrs.get Csr.MSTATUS) cpu.mode
      else if addr.setWidth 12 = 0x343#12 then tval
      else if addr.setWidth 12 = 0x342#12 then mcauseValue
      else if addr.setWidth 12 = 0x341#12 then cpu.pc
      else cpu.csrs.get addr := by
  simp [takenM, Csrs.get_insert, Csr.MEPC, Csr.MCAUSE, Csr.MTVAL, Csr.MSTATUS]

/-- The trap goes to S-mode. -/
def Delegated (cpu : Cpu) (cause : U64) (isInterrupt : Bool) : Prop :=
  cpu.mode ≠ PRIV_M ∧ (delegation cpu isInterrupt).getLsbD cause.toNat = true

instance (cpu : Cpu) (cause : U64) (isInterrupt : Bool) :
    Decidable (Delegated cpu cause isInterrupt) :=
  inferInstanceAs (Decidable (_ ∧ _))

variable [Host]

/-- Deliver a trap and return the chosen trap vector. -/
def raiseTrap (cause : U64) (isInterrupt : Bool) (tval : U64) : Call Cpu U64 := do
  let cpu ← get
  let deleg := delegation cpu isInterrupt
  -- `&&` shifts the delegation register only below M-mode
  let delegate ← if cpu.mode ≠ PRIV_M then do
      pure (decide ((← shr deleg cause.toNat) &&& 1 ≠ 0))
    else pure false
  if delegate then
    modify fun cpu => takenS cpu (causeValue cause isInterrupt) tval
    return (← get).csrs.get Csr.STVEC &&& ~~~0b11
  else
    modify fun cpu => takenM cpu (causeValue cause isInterrupt) tval
    return (← get).csrs.get Csr.MTVEC &&& ~~~0b11

/-- For a cause that can be shifted by, a trap is one of the two entries. -/
theorem raiseTrap_apply (cpu : Cpu) {cause : U64} (h : cause.toNat < 64) (isInterrupt : Bool)
    (tval : U64) :
    raiseTrap cause isInterrupt tval cpu =
      if Delegated cpu cause isInterrupt then
        .ok (cpu.csrs.get Csr.STVEC &&& ~~~0b11) (takenS cpu (causeValue cause isInterrupt) tval)
      else
        .ok (cpu.csrs.get Csr.MTVEC &&& ~~~0b11)
          (takenM cpu (causeValue cause isInterrupt) tval) := by
  unfold raiseTrap
  rw [get_bind_apply]
  by_cases hd : Delegated cpu cause isInterrupt
  · have hbit := ushiftRight_and_one_ne_zero.mpr hd.2
    simp only [if_pos hd.1, if_pos hd, shr_of_lt h, pure_bind, decide_eq_true_eq, if_pos hbit]
    change EStateM.Result.ok ((takenS cpu _ _).csrs.get Csr.STVEC &&& _) _ = _
    rw [takenS_get]
    rfl
  · rw [if_neg hd]
    change _ = EStateM.Result.ok
      ((takenM cpu (causeValue cause isInterrupt) tval).csrs.get Csr.MTVEC &&& _) _
    by_cases hm : cpu.mode ≠ PRIV_M
    · have hbit : ¬(delegation cpu isInterrupt >>> cause.toNat) &&& 1 ≠ 0 :=
        fun hz => hd ⟨hm, ushiftRight_and_one_ne_zero.mp hz⟩
      simp only [if_pos hm, shr_of_lt h, pure_bind, decide_eq_true_eq, if_neg hbit]
      rfl
    · simp only [if_neg hm, pure_bind, Bool.false_eq_true, if_false]
      rfl

/-- The hardware-driven bits of `mip`: MTIP from the CLINT and SEIP from the
hart's S-mode context of the PLIC, for the devices the hart holds. -/
def sampleMip : Call Machine U64 := do
  let m ← get
  let mip := m.cpu.csrs.get Csr.MIP
  let mip ← if m.cpu.clint then do
      let pending ← m.bus.dev.clint.pending m.cpu.hartid.toNat
      pure (if pending then mip ||| MIP_MTIP else mip &&& ~~~MIP_MTIP)
    else pure mip
  if m.cpu.plic then do
    let context ← add (← mul 2 m.cpu.hartid) 1
    let claimable ← m.bus.dev.plic.claimable (Bus.lineStatus m.bus.dev false) context
    pure (if claimable then mip ||| MIP_SEIP else mip &&& ~~~MIP_SEIP)
  else pure mip

/-- The loop over `PRIORITY`: deliver the first cause that is not skipped. -/
def deliverFirst (pendingEnabled mstatus : U64) : (causes : List U64) → Call Machine Bool
  | [] => return false
  | cause :: causes => do
      if pendingEnabled &&& bit cause.toNat = 0 then deliverFirst pendingEnabled mstatus causes
      else
        let cpu := (← get).cpu
        let delegated := cpu.mode ≠ PRIV_M ∧ (delegation cpu true >>> cause.toNat) &&& 1 ≠ 0
        if delegated ∧ cpu.mode = PRIV_S ∧ mstatus &&& MSTATUS_SIE = 0 then
          deliverFirst pendingEnabled mstatus causes
        else if ¬delegated ∧ cpu.mode = PRIV_M ∧ mstatus &&& MSTATUS_MIE = 0 then
          deliverFirst pendingEnabled mstatus causes
        else
          let pc ← onCpu (raiseTrap cause true 0)
          modifyCpu fun cpu => { cpu with pc }
          return true

/-- Sample `mip` and deliver an enabled interrupt that can be taken; says whether
one was. -/
def checkInterrupt : Call Machine Bool := do
  let mip ← sampleMip
  modifyCpu fun cpu => { cpu with csrs := cpu.csrs.insert Csr.MIP mip }
  let cpu := (← get).cpu
  let pendingEnabled := mip &&& cpu.csrs.get Csr.MIE
  if pendingEnabled = 0 then return false
  else deliverFirst pendingEnabled (cpu.csrs.get Csr.MSTATUS) PRIORITY

end Trap

end Riscvm.Rv64rs
