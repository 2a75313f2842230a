import Riscvm.Rv64rs.Harts
import Riscvm.Rv64rs.TrapReturn

/-!
# The modes a hart reaches

Trap entry sets the mode to S or M and SRET to the one bit of SPP. MRET takes both bits
of MPP, which the guest can write, so exactly an MRET with MPP = 2 leads out of the three
privilege levels.
-/

namespace Riscvm.Rv64rs

open Bits Exec Machine Trap

/-- The mode that MRET returns to. -/
def Cpu.mpp (cpu : Cpu) : U8 := ((cpu.csrs.get Csr.MSTATUS &&& MSTATUS_MPP) >>> 11).setWidth 8

/-- MRET with the reserved value in MPP. -/
def ReturnsReserved (cpu : Cpu) : DecodedInstruction → Prop
  | .full instr => instr.IsMret ∧ cpu.mpp = 2
  | .compressed _ => False

namespace Trap

/-- SPP is one bit. -/
theorem spp_eq (mstatus : U64) :
    ((mstatus &&& MSTATUS_SPP) >>> 8).setWidth 8 =
      (((mstatus >>> 8).setWidth 1).setWidth 8 : U8) := by
  apply BitVec.eq_of_getLsbD_eq
  intro j hj
  simp only [BitVec.getLsbD_setWidth, BitVec.getLsbD_ushiftRight, BitVec.getLsbD_and, MSTATUS_SPP,
    getLsbD_bit]
  by_cases h0 : j = 0
  · simp [h0]
  · have h1 : ¬j < 1 := by omega
    simp [h0]

/-- MPP is two bits. -/
theorem mpp_eq (cpu : Cpu) :
    cpu.mpp = (((cpu.csrs.get Csr.MSTATUS >>> 11).setWidth 2).setWidth 8 : U8) := by
  unfold Cpu.mpp
  apply BitVec.eq_of_getLsbD_eq
  intro j hj
  have hmpp : MSTATUS_MPP.getLsbD (11 + j) = decide (j < 2) := by
    rw [BitVec.getLsbD_eq_getElem (by omega), getElem_mpp]
    by_cases h : j < 2
    · have hcase : j = 0 ∨ 11 + j = 12 := by omega
      simp [h, hcase]
    · have hcase : j ≠ 0 ∧ 11 + j ≠ 12 := by omega
      simp [h, hcase]
  simp only [BitVec.getLsbD_setWidth, BitVec.getLsbD_ushiftRight, BitVec.getLsbD_and, hmpp]
  cases decide (j < 2) <;> simp

theorem privilege_spp (mstatus : U64) :
    Privilege (((mstatus &&& MSTATUS_SPP) >>> 8).setWidth 8) := by
  have hall : ∀ x : BitVec 1, Privilege (x.setWidth 8) := by
    unfold Privilege
    decide
  rw [spp_eq]
  exact hall _

/-- Three of the values of MPP are privilege levels. -/
theorem privilege_mpp_iff (cpu : Cpu) : Privilege cpu.mpp ↔ cpu.mpp ≠ 2 := by
  have hall : ∀ x : BitVec 2, Privilege (x.setWidth 8) ↔ (x.setWidth 8 : U8) ≠ 2 := by
    unfold Privilege
    decide
  rw [mpp_eq]
  exact hall _

theorem mode_csrWrite (cpu : Cpu) (addr : U32) (value : U64) :
    (csrWrite cpu addr value).mode = cpu.mode := by
  unfold csrWrite
  split <;> rfl

theorem Sampled.privilege {cpu cpu' : Cpu} (h : Sampled cpu cpu') (start : Privilege cpu.mode) :
    Privilege cpu'.mode := by
  cases h with
  | kept same => rwa [same.mode]
  | sampled mip same => rwa [same.mode]
  | taken mip cause mem same =>
      rw [same.mode, interrupted]
      split
      · exact .inr (.inl rfl)
      · exact .inr (.inr rfl)

/-- A trap that is raised ends in S-mode or M-mode. -/
theorem raiseTrap_privilege [Host] {cause tval pc : U64} {isInterrupt : Bool} {cpu cpu' : Cpu}
    (h : raiseTrap cause isInterrupt tval cpu = .ok pc cpu') : Privilege cpu'.mode := by
  obtain ⟨-, rfl⟩ | ⟨-, rfl⟩ := Execute.raiseTrap_ok h
  · exact .inr (.inl rfl)
  · exact .inr (.inr rfl)

end Trap

namespace Machine

variable [Host]

/-- The step of this hart fetches an MRET while MPP is 2. -/
def ReservedReturn (m : Machine) : Prop :=
  ∃ instr t, fetch m = .ok instr t ∧ ReturnsReserved t.cpu instr

/-- SYSTEM leaves the privilege levels only by MRET with the reserved value. -/
theorem privilege_executeFrom {m t : Machine} {w : U32} {next pc : U64}
    (start : Privilege m.cpu.mode) (hx : Execute.executeFrom next (.new w) m = .ok pc t) :
    Privilege t.cpu.mode ↔ ¬ReturnsReserved m.cpu (.full (.new w)) := by
  have hother (h : ¬(Instruction.new w).IsMret) (hmode : Privilege t.cpu.mode) :
      Privilege t.cpu.mode ↔ ¬ReturnsReserved m.cpu (.full (.new w)) :=
    ⟨fun _ hr => h hr.1, fun _ => hmode⟩
  by_cases hm : (Instruction.new w).IsMret
  · rw [Execute.executeFrom_mret hm] at hx
    cases hx
    refine (privilege_mpp_iff m.cpu).trans ?_
    exact ⟨fun h hr => h hr.2, fun h hmpp => h ⟨hm, hmpp⟩⟩
  refine hother hm ?_
  by_cases hs : (Instruction.new w).opcode = 0x73
  · rw [Execute.executeFrom_system hs] at hx
    cases Execute.system_executeSystem hs m _ t hx with
    | quiet same => rwa [same.mode]
    | csr access old value cpu =>
        rw [cpu, Trap.mode_csrWrite]
        exact start
    | ecall isEcall trap =>
        obtain ⟨cpu, rfl, hr⟩ := Execute.onCpu_raiseTrap_ok trap
        exact raiseTrap_privilege hr
    | sret isSret cpu =>
        rw [cpu]
        exact privilege_spp _
    | mret isMret cpu => exact absurd isMret hm
  · have hmode := ((Execute.keepsControl_executeFrom hs).ok hx).mode
    rwa [hmode]

theorem privilege_executeDecoded {m : Machine} {instr : DecodedInstruction}
    (decoded : (∃ w, instr = .full (.new w)) ∨ ∃ w, instr = .compressed (.new w))
    (start : Privilege m.cpu.mode) :
    Privilege (finish (executeDecoded instr m)).cpu.mode ↔ ¬ReturnsReserved m.cpu instr := by
  obtain ⟨w, rfl⟩ | ⟨w, rfl⟩ := decoded
  · rw [executeDecoded, execute_apply]
    refine @commit_good_iff (fun cpu => Privilege cpu.mode) _ _ _
      (fun pc t hx => privilege_executeFrom start hx) (fun e t hx => ?_) ?_
    · rw [(Execute.faults_executeFrom m e t hx).mode]
      exact start
    · rintro ⟨hret, -⟩
      exact ⟨_, _, Execute.executeFrom_mret hret _ m⟩
  · rw [executeDecoded, executeCompressed]
    refine @commit_good_iff (fun cpu => Privilege cpu.mode) _ _ _ (fun pc t hx => ?_)
      (fun e t hx => ?_) False.elim
    · rw [(Rvc.keepsControl_execute.ok hx).mode]
      exact ⟨fun _ => id, fun _ => start⟩
    · rw [(Rvc.keepsControl_execute.faults m e t hx).mode]
      exact start

theorem privilege_step (m : Machine) (start : Privilege m.cpu.mode) :
    Privilege (finish (step m)).cpu.mode ↔ ¬ReservedReturn m :=
  step_good_iff (fun _ _ h => h.privilege) (fun _ _ decoded => privilege_executeDecoded decoded)
    m start

end Machine

namespace Xv6Emulator

/-- The harts are as `Cpu::new` makes them, up to the reset pc and the handles. -/
def OutOfReset (emu : Xv6Emulator) : Prop :=
  ∀ cpu ∈ emu.cpus, ∃ hartid pc clint uart plic,
    cpu = { Cpu.new hartid with pc, clint, uart, plic }

/-- Through every schedule from reset all harts stay in U, S or M exactly as long as no turn
is an MRET with the reserved value in MPP. -/
theorem modes_legal_iff [Host] (emu : Xv6Emulator) (start : emu.OutOfReset)
    (schedule : List Nat) :
    (∀ done rest, schedule = done ++ rest →
        ∀ cpu ∈ (done.foldl stepHart emu).cpus, Privilege cpu.mode) ↔
      ∀ done i rest, schedule = done ++ i :: rest →
        ¬OnHart ReservedReturn (done.foldl stepHart emu) i := by
  refine run_good_iff privilege_step emu (fun cpu hcpu => ?_) schedule
  obtain ⟨hartid, pc, clint, uart, plic, rfl⟩ := start cpu hcpu
  exact .inr (.inr rfl)

/-- A hart out of reset whose program sets MPP to 2 and executes MRET: `lui a0, 1`,
`csrw mstatus, a0`, `mret`. -/
def reservedReturn : Xv6Emulator :=
  { bus := { Bus.new .detached with
      ram := ⟨[0x37, 0x15, 0, 0, 0x73, 0x10, 0x05, 0x30, 0x73, 0, 0x20, 0x30]⟩
      ramRange := ⟨0, 12⟩ }
    cpus := [Cpu.new 0] }

theorem reservedReturn_outOfReset : reservedReturn.OutOfReset := by
  intro cpu hcpu
  obtain rfl := List.mem_singleton.mp hcpu
  exact ⟨0, 0, false, false, false, rfl⟩

theorem modes_legal_iff_reservedReturn :
    (∀ done rest, [0, 0, 0] = done ++ rest →
        ∀ cpu ∈ (done.foldl (@stepHart .dev) reservedReturn).cpus, Privilege cpu.mode) ↔
      ∀ done i rest, [0, 0, 0] = done ++ i :: rest →
        ¬@OnHart (@ReservedReturn .dev) (done.foldl (@stepHart .dev) reservedReturn) i :=
  @modes_legal_iff .dev reservedReturn reservedReturn_outOfReset [0, 0, 0]

/-- After the MRET the mode is 2. -/
theorem reservedReturn_leaves_levels :
    reservedReturn.OutOfReset ∧
      ∃ cpu ∈ ([0, 0, 0].foldl (@stepHart .dev) reservedReturn).cpus, ¬Privilege cpu.mode := by
  have hmodes : ([0, 0, 0].foldl (@stepHart .dev) reservedReturn).cpus.map (·.mode) = [2] := by
    decide
  have hmem : (2 : U8) ∈ ([0, 0, 0].foldl (@stepHart .dev) reservedReturn).cpus.map (·.mode) := by
    rw [hmodes]
    exact List.mem_singleton.mpr rfl
  obtain ⟨cpu, hcpu, hmode⟩ := List.mem_map.mp hmem
  refine ⟨reservedReturn_outOfReset, cpu, hcpu, ?_⟩
  rw [hmode]
  unfold Privilege
  decide

end Xv6Emulator

end Riscvm.Rv64rs
