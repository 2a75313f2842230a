import Riscvm.Rv64rs.Modes

/-!
# Confinement to a privilege level

Bits 9 and 8 of a CSR address are the lowest level that may access it, MRET belongs to
M-mode and SRET to S-mode. `execute` looks at neither, so a hart below M-mode is confined
exactly as long as it does not execute an instruction of a higher level.
-/

namespace Riscvm.Rv64rs

open Bits Exec Machine Trap

/-- The level that the address of a CSR encodes. -/
def csrLevel (addr : BitVec 12) : U8 := ((addr >>> 8).setWidth 2).setWidth 8

/-- The instruction belongs to a level above `mode`. -/
def AboveMode (mode : U8) : DecodedInstruction → Prop
  | .full instr =>
      instr.IsCsr ∧ mode < csrLevel instr.csr ∨ instr.IsMret ∧ mode < PRIV_M ∨
        instr.IsSret ∧ mode < PRIV_S
  | .compressed _ => False

/-- What a CSR instruction stores, given the old value. -/
def csrOperand (instr : Instruction) (rs1Value old : U64) : U64 :=
  match instr.funct3 with
  | 0x1#3 => rs1Value
  | 0x2#3 => old ||| rs1Value
  | 0x3#3 => old &&& ~~~rs1Value
  | 0x5#3 => instr.rs1.setWidth 64
  | 0x6#3 => old ||| instr.rs1.setWidth 64
  | _ => old &&& ~~~(instr.rs1.setWidth 64)

/-- The hart after a CSR access, before the next pc is committed. -/
def accessed (cpu : Cpu) (instr : Instruction) : Cpu :=
  let addr := instr.csr.setWidth 32
  let old := csrRead cpu addr
  csrWrite { cpu with regs := cpu.regs.write instr.rd old } addr
    (csrOperand instr (cpu.regs.read instr.rs1) old)

/-- The effect of a privileged instruction. -/
def privilegedEffect (cpu : Cpu) : DecodedInstruction → Cpu
  | .full instr =>
      if instr.IsMret then returnM cpu else if instr.IsSret then returnS cpu
      else { accessed cpu instr with pc := cpu.pc + 4 }
  | .compressed _ => cpu

/-- The CSRs that trap entry writes. -/
def trapCsrs : List (BitVec 12) :=
  [0x341#12, 0x342#12, 0x343#12, 0x141#12, 0x142#12, 0x143#12, 0x300#12]

/-- The storage and the bits of the views `sstatus`, `sie` and `sip`. -/
def views : List (BitVec 12 × U64) :=
  [(0x300, SSTATUS_MASK), (0x304, SIE_MASK), (0x344, SIP_MASK)]

variable [Host]

/-- `raise_trap` was called and the pc is the vector it chose. -/
def TrapDelivered (before after : Cpu) : Prop :=
  ∃ cause isInterrupt tval cpu, raiseTrap cause isInterrupt tval before = .ok after.pc cpu ∧
    after = { cpu with pc := after.pc }

/-- Executing the instruction keeps the hart within its level: the mode rises only by a trap,
the CSRs of higher levels keep their values but for what a trap or a view changes, and an
instruction of a higher level is not carried out. -/
structure Confined (m : Machine) (instr : DecodedInstruction) : Prop where
  mode : m.cpu.mode < (finish (executeDecoded instr m)).cpu.mode →
    TrapDelivered m.cpu (finish (executeDecoded instr m)).cpu
  csrs : ∀ addr, m.cpu.mode < csrLevel addr →
    (finish (executeDecoded instr m)).cpu.csrs.slots addr = m.cpu.csrs.slots addr ∨
      TrapDelivered m.cpu (finish (executeDecoded instr m)).cpu ∧ addr ∈ trapCsrs ∨
      ∃ mask, (addr, mask) ∈ views ∧
        (finish (executeDecoded instr m)).cpu.csrs.slots addr &&& ~~~mask =
          m.cpu.csrs.slots addr &&& ~~~mask
  effect : AboveMode m.cpu.mode instr →
    executeDecoded instr m ≠ .ok () { m with cpu := privilegedEffect m.cpu instr }

section

variable {m : Machine}

omit [Host] in
theorem csrForms (f : BitVec 3) (h0 : f ≠ 0) (h4 : f ≠ 4) :
    f = 1 ∨ f = 2 ∨ f = 3 ∨ f = 5 ∨ f = 6 ∨ f = 7 := by
  revert f
  decide

theorem Execute.executeFrom_csr {instr : Instruction} (h : instr.IsCsr) (next : U64)
    (m : Machine) :
    executeFrom next instr m = .ok next { m with cpu := accessed m.cpu instr } := by
  obtain ⟨hop, h0, h4⟩ := h
  rw [executeFrom_system hop]
  unfold executeSystem accessed csrOperand
  obtain h3 | h3 | h3 | h3 | h3 | h3 := csrForms instr.funct3 h0 h4
  all_goals
    simp only [h3]
    rfl

/-- An instruction of a higher level is carried out like any other. -/
theorem executeDecoded_above {instr : DecodedInstruction} (above : AboveMode m.cpu.mode instr) :
    executeDecoded instr m = .ok () { m with cpu := privilegedEffect m.cpu instr } := by
  cases instr with
  | compressed instr => exact above.elim
  | full instr =>
      rw [executeDecoded, execute_apply, privilegedEffect]
      by_cases hm : instr.IsMret
      · rw [if_pos hm, bind_ok (Execute.executeFrom_mret hm _ m)]
        rfl
      rw [if_neg hm]
      by_cases hs : instr.IsSret
      · rw [if_pos hs, bind_ok (Execute.executeFrom_sret hs _ m)]
        rfl
      rw [if_neg hs]
      have haccess : instr.IsCsr := by
        obtain ⟨haccess, -⟩ | ⟨hm', -⟩ | ⟨hs', -⟩ := above
        · exact haccess
        · exact absurd hm' hm
        · exact absurd hs' hs
      rw [bind_ok (Execute.executeFrom_csr haccess _ m), modifyCpu_apply]

/-- The level and the CSRs of higher levels after an instruction; `trapped` says whether it
delivered a trap. -/
structure Within (trapped : Prop) (before after : Cpu) : Prop where
  mode : before.mode < after.mode → trapped
  csrs : ∀ addr, before.mode < csrLevel addr →
    after.csrs.slots addr = before.csrs.slots addr ∨ trapped ∧ addr ∈ trapCsrs ∨
      ∃ mask, (addr, mask) ∈ views ∧
        after.csrs.slots addr &&& ~~~mask = before.csrs.slots addr &&& ~~~mask

omit [Host] in
theorem Within.of_same {trapped : Prop} {before after : Cpu} (mode : after.mode = before.mode)
    (csrs : after.csrs = before.csrs) : Within trapped before after where
  mode h := by
    rw [mode] at h
    exact absurd h (BitVec.lt_irrefl _)
  csrs addr _ := .inl (by rw [csrs])

omit [Host] in
/-- A write through a view changes the bits of its mask. -/
theorem and_not_merge (base value mask : U64) :
    ((base &&& ~~~mask) ||| (value &&& mask)) &&& ~~~mask = base &&& ~~~mask := by
  ext i hi
  simp only [BitVec.getElem_and, BitVec.getElem_or, BitVec.getElem_not]
  cases base[i] <;> cases value[i] <;> cases mask[i] <;> rfl

omit [Host] in
theorem mem_views {addr base : U32} {mask : U64} (h : aliasedTarget addr = some (base, mask)) :
    (base.setWidth 12, mask) ∈ views := by
  unfold aliasedTarget at h
  split at h
  · cases h
    decide
  split at h
  · cases h
    decide
  split at h
  · cases h
    decide
  · cases h

omit [Host] in
theorem slots_insert (csrs : Csrs) (addr : U32) (value : U64) (a : BitVec 12) :
    (csrs.insert addr value).slots a =
      if a = addr.setWidth 12 then value else csrs.slots a := rfl

omit [Host] in
/-- A write reaches its own slot, or bits of a view. -/
theorem slots_csrWrite (cpu : Cpu) (addr : U32) (value : U64) {a : BitVec 12}
    (hne : a ≠ addr.setWidth 12) :
    (csrWrite cpu addr value).csrs.slots a = cpu.csrs.slots a ∨
      ∃ mask, (a, mask) ∈ views ∧
        (csrWrite cpu addr value).csrs.slots a &&& ~~~mask = cpu.csrs.slots a &&& ~~~mask := by
  unfold csrWrite
  split
  · exact .inl rfl
  cases halias : aliasedTarget addr with
  | none =>
      dsimp only
      rw [slots_insert, if_neg hne]
      exact .inl rfl
  | some target =>
      obtain ⟨base, mask⟩ := target
      dsimp only
      rw [slots_insert]
      by_cases hbase : a = base.setWidth 12
      · rw [if_pos hbase, hbase]
        exact .inr ⟨mask, mem_views halias, and_not_merge _ _ _⟩
      · rw [if_neg hbase]
        exact .inl rfl

omit [Host] in
/-- A CSR access of the hart's own level stays within it. -/
theorem within_accessed {trapped : Prop} {cpu : Cpu} {instr : Instruction}
    (level : ¬cpu.mode < csrLevel instr.csr) : Within trapped cpu (accessed cpu instr) := by
  have hcsr : (instr.csr.setWidth 32).setWidth 12 = instr.csr :=
    BitVec.setWidth_setWidth_of_le _ (by decide)
  refine ⟨fun h => ?_, fun a ha => ?_⟩
  · rw [accessed, mode_csrWrite] at h
    exact absurd h (BitVec.lt_irrefl _)
  · have hne : a ≠ (instr.csr.setWidth 32).setWidth 12 := by
      rw [hcsr]
      rintro rfl
      exact level ha
    exact (slots_csrWrite _ _ _ hne).imp_right .inr

omit [Host] in
/-- SRET changes bits of `mstatus` that belong to its view. -/
theorem leaveS_outside (mstatus : U64) :
    Execute.leaveS mstatus &&& ~~~SSTATUS_MASK = mstatus &&& ~~~SSTATUS_MASK := by
  ext i hi
  simp only [BitVec.getElem_and, BitVec.getElem_not, getElem_leaveS, SSTATUS_MASK,
    BitVec.getElem_or, getElem_bit]
  by_cases h1 : i = 1 <;> by_cases h5 : i = 5 <;> by_cases h8 : i = 8 <;> simp [h1, h5, h8]

omit [Host] in
/-- A return to the level that SPP names stays within S-mode. -/
theorem within_returnS {trapped : Prop} {cpu : Cpu} (level : ¬cpu.mode < PRIV_S) :
    Within trapped cpu (returnS cpu) := by
  refine ⟨fun h => ?_, fun a _ => ?_⟩
  · have hall : ∀ x : BitVec 1, (x.setWidth 8 : U8) ≤ PRIV_S := by decide
    have hspp : (returnS cpu).mode ≤ PRIV_S := by
      rw [returnS, spp_eq]
      exact hall _
    exact absurd (BitVec.lt_def.mpr (Nat.lt_of_lt_of_le (BitVec.lt_def.mp h)
      (BitVec.le_def.mp hspp))) level
  · rw [returnS, slots_insert]
    by_cases hstatus : a = Csr.MSTATUS.setWidth 12
    · rw [if_pos hstatus, hstatus]
      exact .inr (.inr ⟨SSTATUS_MASK, by decide, leaveS_outside _⟩)
    · rw [if_neg hstatus]
      exact .inl rfl

/-- A trap writes its own CSRs only. -/
theorem within_raiseTrap {trapped : Prop} {cause tval pc : U64} {isInterrupt : Bool}
    {cpu cpu' : Cpu} (delivered : trapped)
    (h : raiseTrap cause isInterrupt tval cpu = .ok pc cpu') :
    Within trapped cpu { cpu' with pc } := by
  refine ⟨fun _ => delivered, fun a _ => ?_⟩
  by_cases hmem : a ∈ trapCsrs
  · exact .inr (.inl ⟨delivered, hmem⟩)
  · have hget (csrs : Csrs) : csrs.slots a = csrs.get (a.setWidth 32) := by
      rw [Csrs.get, BitVec.setWidth_setWidth_of_le _ (by decide), BitVec.setWidth_eq]
    have hback : (a.setWidth 32).setWidth 12 = a :=
      BitVec.setWidth_setWidth_of_le _ (by decide)
    simp only [trapCsrs, List.mem_cons, List.not_mem_nil, or_false, not_or] at hmem
    refine .inl ?_
    rw [hget, hget]
    obtain ⟨-, rfl⟩ | ⟨-, rfl⟩ := Execute.raiseTrap_ok h
    · change (takenS cpu _ tval).csrs.get _ = _
      obtain ⟨-, -, -, hepc, hcause, htval, hstatus⟩ := hmem
      rw [takenS_get, hback, if_neg hstatus, if_neg htval, if_neg hcause, if_neg hepc]
    · change (takenM cpu _ tval).csrs.get _ = _
      obtain ⟨hepc, hcause, htval, -, -, -, hstatus⟩ := hmem
      rw [takenM_get, hback, if_neg hstatus, if_neg htval, if_neg hcause, if_neg hepc]

end

/-- Where an instruction of the hart's own level leaves it. -/
theorem within_executeDecoded {m : Machine} (below : m.cpu.mode < PRIV_M)
    {instr : DecodedInstruction} (level : ¬AboveMode m.cpu.mode instr) :
    Within (TrapDelivered m.cpu (finish (executeDecoded instr m)).cpu) m.cpu
      (finish (executeDecoded instr m)).cpu := by
  cases instr with
  | compressed instr =>
      rw [executeDecoded, executeCompressed, bind_apply]
      have hkeeps : SameControl m.cpu (finish (Rvc.execute instr m)).cpu :=
        Rvc.keepsControl_execute m
      cases hx : Rvc.execute instr m with
      | ok pc t =>
          rw [hx, finish_ok] at hkeeps
          exact .of_same hkeeps.mode hkeeps.csrs
      | error e t =>
          rw [hx, finish_error] at hkeeps
          exact .of_same hkeeps.mode hkeeps.csrs
  | full instr =>
      rw [executeDecoded, execute_apply, bind_apply]
      cases hx : Execute.executeFrom (m.cpu.pc + 4) instr m with
      | error e t =>
          have hsame := Execute.faults_executeFrom m e t hx
          exact .of_same hsame.mode hsame.csrs
      | ok pc t =>
          by_cases hop : instr.opcode = 0x73
          · rw [Execute.executeFrom_system hop] at hx
            cases Execute.system_executeSystem hop m pc t hx with
            | quiet same => exact .of_same same.mode same.csrs
            | csr access old value cpu =>
                rw [← Execute.executeFrom_system hop, Execute.executeFrom_csr access] at hx
                cases hx
                have hwithin : Within (TrapDelivered m.cpu
                    { accessed m.cpu instr with pc := m.cpu.pc + 4 }) m.cpu
                      (accessed m.cpu instr) :=
                  within_accessed fun h => level (.inl ⟨access, h⟩)
                exact ⟨hwithin.mode, hwithin.csrs⟩
            | ecall isEcall trap =>
                obtain ⟨cpu, rfl, hr⟩ := Execute.onCpu_raiseTrap_ok trap
                exact within_raiseTrap ⟨_, _, _, cpu, hr, rfl⟩ hr
            | sret isSret cpu =>
                rw [← Execute.executeFrom_system hop, Execute.executeFrom_sret isSret] at hx
                cases hx
                exact within_returnS fun h => level (.inr (.inr ⟨isSret, h⟩))
            | mret isMret cpu => exact absurd (.inr (.inl ⟨isMret, below⟩)) level
          · have hsame := (Execute.keepsControl_executeFrom hop).ok hx
            exact .of_same hsame.mode hsame.csrs

/-- A hart below M-mode is confined exactly when the instruction is not of a higher level. -/
theorem confined_iff (m : Machine) (below : m.cpu.mode = PRIV_U ∨ m.cpu.mode = PRIV_S)
    (instr : DecodedInstruction) : Confined m instr ↔ ¬AboveMode m.cpu.mode instr := by
  have hbelow : m.cpu.mode < PRIV_M := by
    obtain h | h := below <;> rw [h] <;> decide
  constructor
  · exact fun confined above => confined.effect above (executeDecoded_above above)
  · intro level
    have hwithin := within_executeDecoded hbelow level
    exact ⟨hwithin.mode, hwithin.csrs, fun above => absurd above level⟩

/-- A hart in U-mode with MPP naming M-mode. -/
def userWithMpp : Machine :=
  { cpu := { Cpu.new 0 with mode := PRIV_U, csrs := Csrs.new.insert Csr.MSTATUS MSTATUS_MPP }
    bus := .new .detached }

omit [Host] in
theorem confined_iff_userWithMpp :
    @Confined .dev userWithMpp (.full MRET) ↔ ¬AboveMode PRIV_U (.full MRET) :=
  @confined_iff .dev userWithMpp (.inl rfl) (.full MRET)

omit [Host] in
/-- MRET takes the U-mode hart to M-mode. -/
theorem user_mret_not_confined :
    (finish (@executeDecoded .dev (.full MRET) userWithMpp)).cpu.mode = PRIV_M ∧
      ¬@Confined .dev userWithMpp (.full MRET) := by
  let : Host := .dev
  have above : AboveMode userWithMpp.cpu.mode (.full MRET) := .inr (.inl (by decide))
  refine ⟨by decide, fun confined => ?_⟩
  exact confined.effect above (executeDecoded_above above)

end Riscvm.Rv64rs
