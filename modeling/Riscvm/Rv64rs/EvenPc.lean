import Riscvm.Rv64rs.Expansion
import Riscvm.Rv64rs.Harts

/-!
# The low bit of the pc

Instructions are a multiple of two bytes long, the relative offsets are even, and JALR
and the trap vectors drop the low bits. The pc that C.JR and C.JALR read from a register
and that MRET and SRET read from a CSR is taken as it is, so a hart leaves the even
addresses exactly where one of these four meets an odd value.
-/

namespace Riscvm.Rv64rs

open Exec Machine

def EvenAddress (a : U64) : Prop := a.getLsbD 0 = false

instance (a : U64) : Decidable (EvenAddress a) := inferInstanceAs (Decidable (_ = _))

namespace EvenAddress

variable {a b : U64}

theorem iff_toNat : EvenAddress a ↔ a.toNat % 2 = 0 := by
  rw [EvenAddress, BitVec.getLsbD, Nat.testBit_zero, decide_eq_false_iff_not]
  omega

theorem add (ha : EvenAddress a) (hb : EvenAddress b) : EvenAddress (a + b) := by
  rw [iff_toNat] at *
  rw [BitVec.toNat_add]
  omega

theorem and_left (h : EvenAddress b) : EvenAddress (a &&& b) := by
  rw [EvenAddress, BitVec.getLsbD_and, h, Bool.and_false]

end EvenAddress

theorem even_immB (w : U32) : EvenAddress (Instruction.new w).immB := by
  change EvenAddress (sext _ 13)
  rw [EvenAddress, sext_eq (by decide) (by decide), BitVec.getLsbD_signExtend]
  simp

theorem even_immJ (w : U32) : EvenAddress (Instruction.new w).immJ := by
  change EvenAddress (sext _ 21)
  rw [EvenAddress, sext_eq (by decide) (by decide), BitVec.getLsbD_signExtend]
  simp

theorem even_offset8_1 (w : U16) : EvenAddress (CInstruction.new w).offset8_1 := by
  have hlow : (Compressed.branchOffset w ++ 0#1).getLsbD 0 = false := by
    rw [BitVec.getLsbD_append]
    rfl
  rw [EvenAddress, Compressed.offset8_1_eq, BitVec.getLsbD_signExtend, hlow]
  rfl

theorem even_offset11_1 (w : U16) : EvenAddress (CInstruction.new w).offset11_1 := by
  have hlow : (Compressed.jumpOffset w ++ 0#1).getLsbD 0 = false := by
    rw [BitVec.getLsbD_append]
    rfl
  rw [EvenAddress, Compressed.offset11_1_eq, BitVec.getLsbD_signExtend, hlow]
  rfl

namespace Trap

theorem even_interrupted (cpu : Cpu) (cause : U64) : EvenAddress (interrupted cpu cause).pc := by
  unfold interrupted
  split
  · exact .and_left (by decide)
  · exact .and_left (by decide)

theorem Sampled.even {cpu cpu' : Cpu} (h : Sampled cpu cpu') (even : EvenAddress cpu.pc) :
    EvenAddress cpu'.pc := by
  cases h with
  | kept same => rwa [same.pc]
  | sampled mip same => rwa [same.pc]
  | taken mip cause mem same =>
      rw [same.pc]
      exact even_interrupted _ _

/-- The vector that a trap returns is even. -/
theorem even_raiseTrap [Host] {cause tval pc : U64} {isInterrupt : Bool} {cpu cpu' : Cpu}
    (h : raiseTrap cause isInterrupt tval cpu = .ok pc cpu') : EvenAddress pc := by
  obtain ⟨rfl, -⟩ | ⟨rfl, -⟩ := Execute.raiseTrap_ok h
  · exact .and_left (by decide)
  · exact .and_left (by decide)

end Trap

/-- An instruction that jumps to an odd address kept in a register or a CSR. -/
def JumpsOdd (cpu : Cpu) : DecodedInstruction → Prop
  | .full instr =>
      instr.IsMret ∧ ¬EvenAddress (cpu.csrs.get Csr.MEPC) ∨
        instr.IsSret ∧ ¬EvenAddress (cpu.csrs.get Csr.SEPC)
  | .compressed instr => instr.IsJump ∧ ¬EvenAddress (cpu.regs.read instr.rs1)

theorem Rvc.execute_jump [Host] {instr : CInstruction} (h : instr.IsJump) (m : Machine) :
    ∃ t, Rvc.execute instr m = .ok (m.cpu.regs.read instr.rs1) t := by
  obtain ⟨hop, h3, h2, h1⟩ := h
  unfold execute
  simp only [hop]
  rw [get_bind_apply]
  unfold executeQ2
  simp only [h3]
  unfold executeQ2Move
  by_cases hbit : instr.bit12 = 0
  · simp only [hbit, h2, h1, ne_eq, not_true, if_true, if_false]
    exact ⟨_, rfl⟩
  · simp only [hbit, h2, h1, ne_eq, not_true, not_false_eq_true, if_true, if_false]
    exact ⟨_, rfl⟩

namespace Machine

variable [Host]

/-- The step of this hart fetches an instruction that jumps to an odd address. -/
def OddJump (m : Machine) : Prop :=
  ∃ instr t, fetch m = .ok instr t ∧ JumpsOdd t.cpu instr

/-- The next pc of an instruction that does not jump to an odd address is even. -/
theorem even_executeFrom {m t : Machine} {w : U32} {pc : U64} (even : EvenAddress m.cpu.pc)
    (h : ¬JumpsOdd m.cpu (.full (.new w)))
    (hx : Execute.executeFrom (m.cpu.pc + 4) (.new w) m = .ok pc t) : EvenAddress pc := by
  have hnext : EvenAddress (m.cpu.pc + 4) := even.add (by decide)
  by_cases hs : (Instruction.new w).opcode = 0x73
  · rw [Execute.executeFrom_system hs] at hx
    cases Execute.system_executeSystem hs m pc t hx with
    | quiet same => exact hnext
    | csr access old value cpu => exact hnext
    | ecall isEcall trap =>
        obtain ⟨cpu, -, hr⟩ := Execute.onCpu_raiseTrap_ok trap
        exact Trap.even_raiseTrap hr
    | sret isSret cpu => exact Decidable.byContradiction fun hodd => h (.inr ⟨isSret, hodd⟩)
    | mret isMret cpu => exact Decidable.byContradiction fun hodd => h (.inl ⟨isMret, hodd⟩)
  · cases Execute.continues_executeFrom hs m pc t hx with
    | sequential => exact hnext
    | jump => exact even.add (even_immJ w)
    | branch => exact even.add (even_immB w)
    | register target => exact .and_left (by decide)

theorem even_executeRvc {m t : Machine} {w : U16} {pc : U64} (even : EvenAddress m.cpu.pc)
    (h : ¬JumpsOdd m.cpu (.compressed (.new w)))
    (hx : Rvc.execute (.new w) m = .ok pc t) : EvenAddress pc := by
  cases Rvc.continues_execute m pc t hx with
  | sequential => exact even.add (by decide)
  | jump => exact even.add (even_offset11_1 w)
  | branch => exact even.add (even_offset8_1 w)
  | register isJump => exact Decidable.byContradiction fun hodd => h ⟨isJump, hodd⟩

/-- Executing a fetched instruction keeps the pc even unless it jumps to an odd address. -/
theorem even_executeDecoded {m : Machine} {instr : DecodedInstruction}
    (decoded : (∃ w, instr = .full (.new w)) ∨ ∃ w, instr = .compressed (.new w))
    (even : EvenAddress m.cpu.pc) :
    EvenAddress (finish (executeDecoded instr m)).cpu.pc ↔ ¬JumpsOdd m.cpu instr := by
  obtain ⟨w, rfl⟩ | ⟨w, rfl⟩ := decoded
  · rw [executeDecoded, execute_apply]
    refine @commit_good_iff (fun cpu => EvenAddress cpu.pc) _ _ _ (fun pc t hx => ?_)
      (fun e t hx => ?_) ?_
    · refine ⟨fun heven hodd => ?_, fun h => even_executeFrom even h hx⟩
      obtain ⟨hret, hodd⟩ | ⟨hret, hodd⟩ := hodd
      · rw [Execute.executeFrom_mret hret] at hx
        cases hx
        exact hodd heven
      · rw [Execute.executeFrom_sret hret] at hx
        cases hx
        exact hodd heven
    · rw [(Execute.faults_executeFrom m e t hx).pc]
      exact even
    · rintro (⟨hret, -⟩ | ⟨hret, -⟩)
      · exact ⟨_, _, Execute.executeFrom_mret hret _ m⟩
      · exact ⟨_, _, Execute.executeFrom_sret hret _ m⟩
  · rw [executeDecoded, executeCompressed]
    refine @commit_good_iff (fun cpu => EvenAddress cpu.pc) _ _ _ (fun pc t hx => ?_)
      (fun e t hx => ?_) ?_
    · refine ⟨fun heven hodd => ?_, fun h => even_executeRvc even h hx⟩
      obtain ⟨t', ht⟩ := Rvc.execute_jump hodd.1 m
      rw [ht] at hx
      cases hx
      exact hodd.2 heven
    · rw [(Rvc.keepsControl_execute.faults m e t hx).pc]
      exact even
    · rintro ⟨hjump, -⟩
      obtain ⟨t, ht⟩ := Rvc.execute_jump hjump m
      exact ⟨_, t, ht⟩

theorem even_step (m : Machine) (even : EvenAddress m.cpu.pc) :
    EvenAddress (finish (step m)).cpu.pc ↔ ¬OddJump m :=
  step_good_iff (fun _ _ h => h.even) (fun _ _ decoded => even_executeDecoded decoded) m even

end Machine

namespace Xv6Emulator

/-- Through every schedule all harts stay at even addresses exactly as long as no turn is a
jump to an odd address kept in a register or a CSR. -/
theorem pcs_even_iff [Host] (emu : Xv6Emulator) (start : ∀ cpu ∈ emu.cpus, EvenAddress cpu.pc)
    (schedule : List Nat) :
    (∀ done rest, schedule = done ++ rest →
        ∀ cpu ∈ (done.foldl stepHart emu).cpus, EvenAddress cpu.pc) ↔
      ∀ done i rest, schedule = done ++ i :: rest →
        ¬OnHart OddJump (done.foldl stepHart emu) i :=
  run_good_iff even_step emu start schedule

/-- A hart out of reset at address 0, where RAM holds `c.li ra, 3` and `c.jr ra`. -/
def oddReturn : Xv6Emulator :=
  { bus := { Bus.new .detached with
      ram := ⟨[0x8d, 0x40, 0x82, 0x80, 0, 0]⟩, ramRange := ⟨0, 6⟩ }
    cpus := [Cpu.new 0] }

theorem pcs_even_iff_oddReturn :
    (∀ done rest, [0, 0] = done ++ rest →
        ∀ cpu ∈ (done.foldl (@stepHart .dev) oddReturn).cpus, EvenAddress cpu.pc) ↔
      ∀ done i rest, [0, 0] = done ++ i :: rest →
        ¬@OnHart (@OddJump .dev) (done.foldl (@stepHart .dev) oddReturn) i :=
  @pcs_even_iff .dev oddReturn (by decide) [0, 0]

/-- After the jump the hart is at address 3. -/
theorem oddReturn_leaves_even :
    (∀ cpu ∈ oddReturn.cpus, EvenAddress cpu.pc) ∧
      ∃ cpu ∈ ([0, 0].foldl (@stepHart .dev) oddReturn).cpus, ¬EvenAddress cpu.pc := by
  have hpcs : ([0, 0].foldl (@stepHart .dev) oddReturn).cpus.map (·.pc) = [3] := by
    decide
  have hmem : (3 : U64) ∈ ([0, 0].foldl (@stepHart .dev) oddReturn).cpus.map (·.pc) := by
    rw [hpcs]
    exact List.mem_singleton.mpr rfl
  obtain ⟨cpu, hcpu, hpc⟩ := List.mem_map.mp hmem
  exact ⟨by decide, cpu, hcpu, by rw [hpc]; decide⟩

end Xv6Emulator

end Riscvm.Rv64rs
